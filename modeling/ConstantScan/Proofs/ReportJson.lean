import ConstantScan.Proofs.Dicts
import ConstantScan.Proofs.Groups
import ConstantScan.Proofs.JsonText
import ConstantScan.Proofs.Stages
import ConstantScan.Proofs.Utf8
import ConstantScan.Report.Json

/-!
# Reports for programs read back

The text of a report reads as its value, and from that value the findings, the targets and the
counts come back as they were.
-/

namespace ConstantScan

theorem Dict.insert_last {d : Dict} {key : String} (h : ∀ e ∈ d, e.1 < key) (value : Value) :
    insert key value d = d ++ [(key, value)] := by
  induction d with
  | nil => rfl
  | cons e d ih =>
    obtain ⟨k, v⟩ := e
    have hlt : k < key := h (k, v) List.mem_cons_self
    rw [insert, if_neg (ne_of_gt hlt), if_neg (lt_asymm hlt),
      ih fun e he => h e (List.mem_cons_of_mem _ he), List.cons_append]

/-- Entries whose keys ascend are the dictionary that they make up. -/
theorem Dict.ofList_of_ascending {d : Dict} (h : d.Ascending) : ofList d = d := by
  induction d using List.reverseRecOn with
  | nil => rfl
  | append_singleton d e ih =>
    obtain ⟨hd, -, hlast⟩ := List.pairwise_append.1 h
    have hinit : d.foldl (fun d e => insert e.1 e.2 d) [] = d := ih hd
    rw [ofList, List.foldl_append, hinit, List.foldl_cons, List.foldl_nil]
    exact insert_last (fun f hf => hlast f hf e List.mem_cons_self) e.2

/-! ## Values that are read as they were written -/

/-- The value has a JSON text, which reads as the value itself. -/
structure Value.Kept (room : Nat) (v : Value) : Prop where
  plain : v.Plain Json.maxUnsigned room
  same : v.readBack .unsigned = v

namespace Value.Kept

variable {room : Nat}

theorem string (room : Nat) (s : String) : Kept room (.string s) where
  plain := .string room s
  same := rfl

theorem natural (room : Nat) {n : Nat} (h : n ≤ Json.maxUnsigned) :
    Kept room (.number (.unsigned n)) where
  plain := .natural room h
  same := rfl

theorem list {vs : List Value} (h : ∀ v ∈ vs, Kept room v) : Kept (room + 1) (.list vs) where
  plain := .list fun v hv => (h v hv).plain
  same := by
    rw [readBack_list, readBackItems_eq_map, List.map_congr_left fun v hv => (h v hv).same, List.map_id']

theorem dict {es : Dict} (keys : List String) (hkeys : es.map Prod.fst = keys)
    (hsorted : keys.Pairwise (· < ·)) (h : ∀ e ∈ es, Kept room e.2) :
    Kept (room + 1) (.dict es) where
  plain := .dict fun e he => (h e he).plain
  same := by
    have hentries : Dict.readBackEntries .unsigned es = es := by
      rw [Dict.readBackEntries_eq_map]
      refine (List.map_congr_left fun e he => ?_).trans (List.map_id es)
      rw [(h e he).same, id_eq]
    have hascending : es.Ascending := List.pairwise_map.1 (hkeys ▸ hsorted)
    rw [readBack_dict, hentries, Dict.ofList_of_ascending hascending]

theorem parse_pretty {v : Value} (h : v.Kept Json.maxOpen) :
    Json.parse (Json.pretty 0 v) = some v := by
  have hread := Json.parseChars_pretty h.plain (.inl rfl)
  rwa [List.append_nil, h.same] at hread

end Value.Kept

/-! ## Numbers of a report -/

/-- The counts of the status take 64 bits at most. -/
def TargetStatus.Fits : TargetStatus → Prop
  | .missing => True
  | .scanned read skipped found =>
    read ≤ Json.maxUnsigned ∧ skipped ≤ Json.maxUnsigned ∧ found ≤ Json.maxUnsigned

/-- The numbers of the report take 64 bits at most, how many targets and findings there are among
them. -/
structure Report.Fits (r : Report) : Prop where
  lines : ∀ f ∈ r.findings, f.line ≤ Json.maxUnsigned
  status : ∀ s ∈ r.targets, s.status.Fits
  targets : r.targets.length ≤ Json.maxUnsigned
  findings : r.findings.length ≤ Json.maxUnsigned

/-- Every group has a finding of its own. -/
theorem Report.targetsWithIssues_le (r : Report) : r.targetsWithIssues ≤ r.total := by
  have hsubset : r.findings.labels ⊆ r.findings.map (·.target) := fun label h =>
    List.mem_map.2 (Findings.mem_labels.1 h)
  have hlength := ((Findings.labels_nodup r.findings).subperm hsubset).length_le
  rw [List.length_map] at hlength
  rwa [targetsWithIssues, Findings.groups_eq, List.length_map]

/-! ## From values to reports -/

namespace Value

def textAt? (v : Value) (key : String) : Option String :=
  match v.at? [key] with
  | some (.string s) => some s
  | _ => none

def naturalAt? (v : Value) (key : String) : Option Nat :=
  match v.at? [key] with
  | some (.number (.unsigned n)) => some n
  | _ => none

def listAt? (v : Value) (key : String) : Option (List Value) :=
  match v.at? [key] with
  | some (.list vs) => some vs
  | _ => none

end Value

def Finding.ofValue? (v : Value) : Option Finding := do
  return {
    target := ← v.textAt? "target_label"
    file := ← v.textAt? "relative_file_path"
    line := ← v.naturalAt? "line_number"
    text := ← v.textAt? "line_text"
    rule := ← v.textAt? "pattern_name" }

def TargetStatus.ofValue? (v : Value) : Option TargetStatus := do
  match ← v.textAt? "status" with
  | "missing" => return .missing
  | "scanned" =>
    return .scanned (← v.naturalAt? "files_scanned") (← v.naturalAt? "files_skipped")
      (← v.naturalAt? "findings")
  | _ => none

def TargetSummary.ofValue? (v : Value) : Option TargetSummary := do
  return {
    label := ← v.textAt? "label"
    root := .ofString (← v.textAt? "root")
    status := ← TargetStatus.ofValue? v }

/-- The numbers of the summary. -/
structure ReportCounts where
  configured : Nat
  withIssues : Nat
  total : Nat
  deriving DecidableEq, Repr

def Report.counts (r : Report) : ReportCounts :=
  ⟨r.targets.length, r.targetsWithIssues, r.total⟩

def ReportCounts.ofValue? (v : Value) : Option ReportCounts := do
  let summary ← v.at? ["summary"]
  return {
    configured := ← summary.naturalAt? "configured_targets"
    withIssues := ← summary.naturalAt? "targets_with_issues"
    total := ← summary.naturalAt? "total_issues" }

def Report.ofValue? (v : Value) : Option Report := do
  return {
    targets := ← (← v.listAt? "targets").mapM TargetSummary.ofValue?
    findings := ← (← v.listAt? "findings").mapM Finding.ofValue? }

theorem mapM_eq_some_iff {α β : Type} {f : α → Option β} {xs : List α} {ys : List β} :
    xs.mapM f = some ys ↔ List.Forall₂ (fun x y => f x = some y) xs ys := by
  induction xs generalizing ys with
  | nil => simp [eq_comm]
  | cons x xs ih =>
    rw [List.mapM_cons, List.forall₂_cons_left_iff]
    cases hx : f x with
    | none => simp
    | some y =>
      cases hxs : xs.mapM f with
      | none => simp [← ih, hxs]
      | some zs => simp [← ih, hxs, eq_comm]

theorem exists_mapM_of_forall {α β : Type} {f : α → Option β} {xs : List α}
    (h : ∀ x ∈ xs, ∃ y, f x = some y) : ∃ ys, xs.mapM f = some ys := by
  induction xs with
  | nil => exact ⟨[], rfl⟩
  | cons x xs ih =>
    obtain ⟨y, hy⟩ := h x List.mem_cons_self
    obtain ⟨ys, hys⟩ := ih fun x hx => h x (List.mem_cons_of_mem _ hx)
    exact ⟨y :: ys, by simp [List.mapM_cons, hy, hys]⟩

theorem Finding.ofValue?_value (f : Finding) : ofValue? f.value = some f := rfl

theorem TargetSummary.isSome_value? {s : TargetSummary} (h : s.root.IsText) :
    ∃ v, s.value? = some v := by
  unfold value?
  rw [if_pos h.isValid]
  cases s.status <;> exact ⟨_, rfl⟩

theorem TargetSummary.ofValue?_of_value? {s : TargetSummary} (hroot : s.root.IsText) {v : Value}
    (h : s.value? = some v) : ofValue? v = some s := by
  obtain ⟨label, root, status⟩ := s
  obtain ⟨text, rfl⟩ : root.IsText := hroot
  have htext : Path.toString (.ofString text) = text := Utf8.toString_ofString text
  have hvalid : Utf8.isValid (Path.ofString text).bytes = true := Utf8.isValid_ofString text
  simp only [value?, hvalid, if_true, htext] at h
  cases status with
  | missing =>
    obtain rfl := Option.some.inj h
    rfl
  | scanned read skipped found =>
    obtain rfl := Option.some.inj h
    rfl

/-! ## What has a text -/

section

variable (room : Nat)

theorem Finding.kept_value {f : Finding} (h : f.line ≤ Json.maxUnsigned) :
    f.value.Kept (room + 1) := by
  refine .dict ["line_number", "line_text", "pattern_name", "relative_file_path", "target_label"]
    rfl (by decide) ?_
  simp only [List.forall_mem_cons]
  exact ⟨.natural room h, .string room _, .string room _, .string room _, .string room _, by simp⟩

theorem TargetSummary.kept_value {s : TargetSummary} (h : s.status.Fits) {v : Value}
    (hv : s.value? = some v) : v.Kept (room + 1) := by
  obtain ⟨label, root, status⟩ := s
  unfold value? at hv
  split at hv
  · cases status with
    | missing =>
      obtain rfl := Option.some.inj hv
      refine .dict ["label", "root", "status"] rfl (by decide) ?_
      simp only [List.forall_mem_cons]
      exact ⟨.string room _, .string room _, .string room _, by simp⟩
    | scanned read skipped found =>
      obtain rfl := Option.some.inj hv
      obtain ⟨hread, hskipped, hfound⟩ := h
      refine .dict ["files_scanned", "files_skipped", "findings", "label", "root", "status"] rfl
        (by decide) ?_
      simp only [List.forall_mem_cons]
      exact ⟨.natural room hread, .natural room hskipped, .natural room hfound, .string room _,
        .string room _, .string room _, by simp⟩
  · cases hv

theorem Report.kept_summaryValue {r : Report} (h : r.Fits) : r.summaryValue.Kept (room + 1) := by
  refine .dict ["configured_targets", "targets_with_issues", "total_issues"] rfl (by decide) ?_
  simp only [List.forall_mem_cons]
  exact ⟨.natural room h.targets, .natural room (r.targetsWithIssues_le.trans h.findings),
    .natural room h.findings, by simp⟩

end

/-! ## Whole reports -/

namespace Report

variable {r : Report}

theorem kept_value (hfits : r.Fits) {targets : List Value}
    (htargets : List.Forall₂ (fun s v => s.value? = some v) r.targets targets) :
    (Value.dict [("findings", .list (r.findings.map Finding.value)), ("summary", r.summaryValue),
      ("targets", .list targets)]).Kept Json.maxOpen := by
  have hsummaries := (List.forall₂_and_left _ _).2 ⟨hfits.status, htargets⟩
  refine .dict ["findings", "summary", "targets"] rfl (by decide) ?_
  simp only [List.forall_mem_cons]
  refine ⟨@Value.Kept.list 125 _ ?_, kept_summaryValue 125 hfits, @Value.Kept.list 125 _ ?_, by simp⟩
  · rw [List.forall_mem_map]
    exact fun f hf => Finding.kept_value 124 (hfits.lines f hf)
  · intro v hv
    obtain ⟨s, -, hs, hvalue⟩ := exists_mem_of_forall₂ hsummaries hv
    exact TargetSummary.kept_value 124 hs hvalue

theorem ofValue?_dict (hroots : ∀ s ∈ r.targets, s.root.IsText) {targets : List Value}
    (htargets : List.Forall₂ (fun s v => s.value? = some v) r.targets targets) :
    ofValue? (.dict [("findings", .list (r.findings.map Finding.value)),
      ("summary", r.summaryValue), ("targets", .list targets)]) = some r := by
  have hsummaries : targets.mapM TargetSummary.ofValue? = some r.targets := by
    rw [mapM_eq_some_iff]
    refine (((List.forall₂_and_left _ _).2 ⟨hroots, htargets⟩).imp ?_).flip
    rintro s v ⟨hroot, hvalue⟩
    exact TargetSummary.ofValue?_of_value? hroot hvalue
  have hfindings : (r.findings.map Finding.value).mapM Finding.ofValue? = some r.findings := by
    rw [mapM_eq_some_iff, List.forall₂_map_left_iff, List.forall₂_same]
    exact fun f _ => f.ofValue?_value
  have hlists (v : Value) (hv : v.listAt? "targets" = some targets)
      (hv' : v.listAt? "findings" = some (r.findings.map Finding.value)) : ofValue? v = some r := by
    rw [ofValue?, hv, hv']
    simp only [Option.bind_eq_bind, Option.bind_some, hsummaries, hfindings]
    rfl
  exact hlists _ rfl rfl

/-- A report whose roots are texts has a value, which is read from its text and tells the report. -/
theorem exists_value (hroots : ∀ s ∈ r.targets, s.root.IsText) (hfits : r.Fits) :
    ∃ v, r.value? = some v ∧ v.Kept Json.maxOpen ∧ ofValue? v = some r ∧
      ReportCounts.ofValue? v = some r.counts := by
  obtain ⟨targets, htargets⟩ :=
    exists_mapM_of_forall fun s hs => TargetSummary.isSome_value? (hroots s hs)
  have hsummaries := mapM_eq_some_iff.1 htargets
  refine ⟨_, by rw [value?, htargets, Option.map_some], kept_value hfits hsummaries,
    ofValue?_dict hroots hsummaries, rfl⟩

/-- The text of a report reads as its value, from which the findings, the targets and the counts
come back as they were; so reports with one text have the same findings and targets. -/
theorem json_lossless (hroots : ∀ s ∈ r.targets, s.root.IsText) (hfits : r.Fits) :
    ∃ v body, r.value? = some v ∧ r.json = .body body ∧ Json.parse body = some v ∧
      ofValue? v = some r ∧ ReportCounts.ofValue? v = some r.counts ∧
      ∀ r' : Report, (∀ s ∈ r'.targets, s.root.IsText) → r'.Fits → r'.json = .body body →
        r'.findings = r.findings ∧ r'.targets = r.targets := by
  obtain ⟨v, hv, hkept, hreport, hcounts⟩ := exists_value hroots hfits
  refine ⟨v, Json.pretty 0 v, hv, by rw [json, hv], hkept.parse_pretty, hreport, hcounts, ?_⟩
  intro r' hroots' hfits' hbody
  obtain ⟨v', hv', hkept', hreport', -⟩ := exists_value hroots' hfits'
  have htext : Json.pretty 0 v' = Json.pretty 0 v := by
    rw [json, hv'] at hbody
    exact Rendering.body.inj hbody
  have hvalue : v' = v := by
    have hparse := hkept'.parse_pretty
    rw [htext, hkept.parse_pretty] at hparse
    exact (Option.some.inj hparse).symm
  rw [hvalue, hreport] at hreport'
  obtain rfl := Option.some.inj hreport'
  exact ⟨rfl, rfl⟩

/-- Quotes, a backslash, controls and a character of four bytes, and a target that is missing. -/
def quoted : Report where
  targets := [⟨"a\"b\\", .ofString "/root\x00\n", .missing⟩, ⟨"", .ofString "𝄞", .scanned 2 1 1⟩]
  findings := [⟨"", "\t𝄞\u007f", Json.maxUnsigned, "\x1b[0m\"", "\x08\x0c"⟩]

theorem json_lossless_quoted : ∃ v body, quoted.json = .body body ∧ Json.parse body = some v ∧
    ofValue? v = some quoted := by
  have hroots : ∀ s ∈ quoted.targets, s.root.IsText := by
    simp only [quoted, List.forall_mem_cons]
    exact ⟨⟨_, rfl⟩, ⟨_, rfl⟩, by simp⟩
  have hfits : quoted.Fits := {
    lines := by simp [quoted]
    status := by
      simp only [quoted, List.forall_mem_cons]
      exact ⟨trivial, ⟨by decide, by decide, by decide⟩, by simp⟩
    targets := by decide
    findings := by decide }
  obtain ⟨v, body, -, hbody, hparse, hreport, -⟩ := json_lossless hroots hfits
  exact ⟨v, body, hbody, hparse, hreport⟩

end Report

end ConstantScan
