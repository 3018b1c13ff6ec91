import ConstantScan.Proofs.ExitStatus
import ConstantScan.Proofs.GivenPaths

/-!
# Reports that cannot be written

A report in JSON has no place for a root that is no text. Targets have such roots only from a
directory that is given or from home, as paths of targets are texts.
-/

namespace ConstantScan

namespace Path

theorem isText_iff {p : Path} : p.IsText ↔ Utf8.isValid p.bytes = true := by
  refine ⟨IsText.isValid, fun h => ⟨Utf8.toString p.bytes, ?_⟩⟩
  rw [ofString, Utf8.ofString_toString h]

/-- What is in front of a slash and a text is a text if all is one. -/
theorem isText_of_append_slash {front back : Bytes} (hback : IsText ⟨back⟩)
    (h : IsText ⟨front ++ slash :: back⟩) : IsText ⟨front⟩ := by
  -- The slash is a character of its own, so the two parts decode apart.
  rw [isText_iff, Utf8.isValid, beq_iff_eq] at *
  have hslash : String.utf8EncodeChar (Char.ofNat slash.toNat) = [slash] := by decide
  rw [Utf8.decode_append_cons front (by decide)] at h
  simp only [Utf8.encode, List.flatMap_append, List.flatMap_cons, hslash] at h hback ⊢
  rw [hback, List.singleton_append] at h
  exact List.append_cancel_right h

theorem isText_of_join {p q : Path} (hq : q.IsText) (hrelative : q.isAbsolute = false)
    (h : (p.join q).IsText) : p.IsText := by
  obtain ⟨bs⟩ := p
  rw [join, if_neg (by simp [hrelative])] at h
  by_cases hnil : bs = []
  · rw [isText_iff, hnil]
    rfl
  by_cases hslash : bs.getLast? = some slash
  · rw [if_pos (by simp [hslash])] at h
    obtain ⟨front, rfl⟩ := List.getLast?_eq_some_iff.1 hslash
    rw [List.append_assoc, List.singleton_append] at h
    obtain ⟨s, hs⟩ := isText_of_append_slash hq h
    have hfront : Utf8.ofString s = front := congrArg bytes hs.symm
    have hend : Utf8.ofString "/" = [slash] := by cbv
    exact ⟨s ++ "/", by rw [ofString, Utf8.ofString_append, hfront, hend]⟩
  · rw [if_neg (by simp [hnil, hslash])] at h
    exact isText_of_append_slash hq h

end Path

/-! ## Reports -/

theorem Report.json_eq_abort_iff {r : Report} :
    r.json = .abort ↔ ∃ s ∈ r.targets, ¬ s.root.IsText := by
  unfold json value?
  cases h : r.targets.mapM TargetSummary.value? with
  | some values =>
    refine iff_of_false nofun fun ⟨s, hs, hroot⟩ => ?_
    obtain ⟨v, -, hv⟩ := exists_mem_of_forall₂ (mapM_eq_some_iff.1 h).flip hs
    simp [TargetSummary.value?, ← Path.isText_iff, hroot] at hv
  | none =>
    refine iff_of_true rfl ?_
    by_contra hall
    push Not at hall
    obtain ⟨values, hvalues⟩ :=
      exists_mapM_of_forall fun s hs => TargetSummary.isSome_value? (hall s hs)
    cases h.symm.trans hvalues

theorem Report.exists_json_iff {r : Report} :
    (∃ text, r.json = .body text) ↔ ∀ s ∈ r.targets, s.root.IsText := by
  have habort := r.json_eq_abort_iff
  cases hjson : r.json with
  | body text =>
    refine iff_of_true ⟨text, rfl⟩ fun s hs => ?_
    by_contra hroot
    cases hjson.symm.trans (habort.2 ⟨s, hs, hroot⟩)
  | abort =>
    obtain ⟨s, hs, hroot⟩ := habort.1 hjson
    exact iff_of_false nofun fun hall => hroot (hall s hs)

/-! ## Roots that are no texts -/

/-- The bytes of the directory begin the root of the path. -/
inductive GoesOnFrom (origin home : Option Path) (dir : Path) : String → Prop
  | origin {path : String} (h : origin = some dir) (form : ¬ StartsAtHome path)
      (relative : (Path.ofString path).isAbsolute = false) : GoesOnFrom origin home dir path
  | home (h : home = some dir) (absolute : dir.isAbsolute = true) : GoesOnFrom origin home dir "~"
  | below {rest : String} (h : home = some dir) (absolute : dir.isAbsolute = true)
      (relative : (Path.ofString rest).isAbsolute = false) :
      GoesOnFrom origin home dir ("~/" ++ rest)

theorem GoesOnFrom.isText {origin home : Option Path} {dir : Path} {path : String}
    (h : GoesOnFrom origin home dir path) {root : Path}
    (hroot : resolveRoot path origin home = some root) (htext : root.IsText) : dir.IsText := by
  cases h with
  | origin h form relative =>
    subst h
    rw [resolveRoot_of_relative form relative, Option.map_some, Option.some.injEq] at hroot
    exact Path.isText_of_join ⟨_, rfl⟩ relative (hroot ▸ htext)
  | home h absolute =>
    subst h
    rw [resolveRoot_home origin absolute, Option.some.injEq] at hroot
    exact hroot ▸ htext
  | below h absolute relative =>
    subst h
    rw [resolveRoot_below _ origin absolute, Option.some.injEq] at hroot
    exact Path.isText_of_join ⟨_, rfl⟩ relative (hroot ▸ htext)

namespace Config

variable {c : Config} {override home : Option Path} {targets : List ScanTarget}

theorem exists_not_isText (h : c.resolveTargets override home = .ok targets)
    (hroots : ∃ t ∈ targets, ¬ t.root.IsText) :
    (∃ d ∈ override, ¬ d.IsText) ∨ ∃ d ∈ home, ¬ d.IsText := by
  by_contra hno
  push Not at hno
  obtain ⟨t, ht, hroot⟩ := hroots
  exact hroot (isText_of_resolveTargets hno.1 hno.2 h t ht)

theorem not_isText_of_goesOnFrom (h : c.resolveTargets override home = .ok targets)
    {t : TargetEntry} (ht : t ∈ c.targets) {dir : Path}
    (hfrom : GoesOnFrom (c.origin? override home) home dir t.path) (hdir : ¬ dir.IsText) :
    ∃ target ∈ targets, ¬ target.root.IsText := by
  obtain ⟨hfail, -⟩ | ⟨targets', hok, -, -, hroots⟩ := c.resolveTargets_cases override home
  · cases h.symm.trans hfail
  · obtain rfl := Except.ok.inj (h.symm.trans hok)
    obtain ⟨target, htarget, -, hroot⟩ := exists_mem_of_forall₂ hroots.flip ht
    exact ⟨target, htarget, fun htext => hdir (hfrom.isText hroot htext)⟩

end Config

/-! ## Scans -/

namespace Cli.Context

theorem ending_report_eq_aborted_iff (x : Context) (s : Scanner) (format : ReportFormat)
    (r : Report) :
    (x.report s format r).ending = .aborted ↔ format = .json ∧ r.json = .abort := by
  unfold report
  cases format with
  | text => simp [Report.render]
  | json =>
    rw [Report.render]
    cases r.json with
    | body text => simp
    | abort => simp

/-- A report in JSON aborts just if a root is no text, and otherwise there is a document. For this
the given directory or home has to be no text, and it is enough that a path goes on from one
that is none. -/
theorem report_aborts_iff {c : Config} {override home : Option Path} {targets : List ScanTarget}
    (h : c.resolveTargets override home = .ok targets) (s : Scanner) (env : Environment)
    (machine : Machine) :
    let r := (s.run env machine targets).1
    (r.json = .abort ↔ ∃ t ∈ targets, ¬ t.root.IsText) ∧
    ((∃ text, r.json = .body text) ↔ ∀ t ∈ targets, t.root.IsText) ∧
    (r.json = .abort → (∃ d ∈ override, ¬ d.IsText) ∨ ∃ d ∈ home, ¬ d.IsText) ∧
    (∀ t ∈ c.targets, ∀ dir, GoesOnFrom (c.origin? override home) home dir t.path →
      ¬ dir.IsText → r.json = .abort) ∧
    ∀ (x : Context) (format : ReportFormat),
      (x.report s format r).ending = .aborted ↔ format = .json ∧ r.json = .abort := by
  intro r
  have htargets : r.targets = targets.map (s.targetSummary env) :=
    congrArg Report.targets (s.run_eq env machine targets)
  have habort : r.json = .abort ↔ ∃ t ∈ targets, ¬ t.root.IsText := by
    simp [Report.json_eq_abort_iff, htargets, Scanner.targetSummary]
  refine ⟨habort, ?_, fun hr => Config.exists_not_isText h (habort.1 hr),
    fun t ht dir hfrom hdir => habort.2 (Config.not_isText_of_goesOnFrom h ht hfrom hdir),
    fun x format => x.ending_report_eq_aborted_iff s format r⟩
  rw [Report.exists_json_iff, htargets, List.forall_mem_map]
  rfl

theorem report_aborts_iff_srv :
    let c : Config := { targets := [{ path := "repo" }] }
    c.resolveTargets (some (.ofString "/srv")) none = .ok [⟨"repo", .ofString "/srv/repo"⟩] ∧
      ∀ (s : Scanner) (env : Environment) (machine : Machine),
        ∃ text, (s.run env machine [⟨"repo", .ofString "/srv/repo"⟩]).1.json = .body text := by
  intro c
  have htargets : c.resolveTargets (some (.ofString "/srv")) none =
      .ok [⟨"repo", .ofString "/srv/repo"⟩] := by cbv
  refine ⟨htargets, fun s env machine => ?_⟩
  obtain ⟨-, hbody, -⟩ := report_aborts_iff htargets s env machine
  rw [hbody, List.forall_mem_singleton]
  exact ⟨_, rfl⟩

theorem exists_scanner_standard : ∃ s, Scanner.ofConfig Config.standard = .ok s :=
  exists_of_isOk (by decide +kernel)

/-- The standard targets below the directory whose name is no text. -/
def accentedTargets : List ScanTarget :=
  Config.standard.targets.map fun t =>
    ⟨t.label.getD t.path, Latin.accented.join (.ofString t.path)⟩

theorem resolveTargets_accented :
    Config.standard.resolveTargets (some Latin.accented) none = .ok accentedTargets := by
  cbv

theorem not_isText_accentedTargets : ∃ t ∈ accentedTargets, ¬ t.root.IsText := by
  have hrelative : (Path.ofString "wave-toolkit").isAbsolute = false := by cbv
  refine ⟨⟨"wave-toolkit", Latin.accented.join (.ofString "wave-toolkit")⟩, ?_, fun h => ?_⟩
  · simp [accentedTargets, Config.standard]
  · exact absurd (Path.isText_of_join ⟨_, rfl⟩ hrelative h).isValid (by decide)

theorem not_exists_accentedTargets :
    ∀ t ∈ accentedTargets, Latin.environment.files.exists t.root = false := by
  have hnone : (accentedTargets.all fun t => !Latin.environment.files.exists t.root) = true := by
    cbv
  simpa using hnone

/-- None of the targets is there, and still the scan aborts if its report is in JSON. -/
theorem scan_aborts_accented :
    let x : Context := ⟨Latin.environment, .orderly 1, ⟨false, false⟩, none, fun _ => false⟩
    (x.run (.scan { baseDir := some Latin.accented, format := .json })).ending = .aborted ∧
    (x.run (.scan { baseDir := some Latin.accented })).ending = .finished .clean := by
  intro x
  obtain ⟨s, hs⟩ := exists_scanner_standard
  obtain ⟨hrules, hfilter, hsettings⟩ := Scanner.parts_of_ofConfig hs
  have hpasses (format : ReportFormat) :
      x.ScanPasses { baseDir := some Latin.accented, format } Config.standard
        ⟨s, accentedTargets⟩ :=
    ⟨Latin.workDir?_environment, Latin.load_standard, hrules, hfilter, hsettings,
      resolveTargets_accented⟩
  have hreport := s.run_eq Latin.environment (.orderly 1) accentedTargets
  constructor
  · obtain ⟨told, hrun⟩ := run_scan_eq_report (hpasses .json)
    rw [hrun]
    refine (x.ending_report_eq_aborted_iff s .json _).2 ⟨rfl, Report.json_eq_abort_iff.2 ?_⟩
    obtain ⟨t, ht, hroot⟩ := not_isText_accentedTargets
    rw [hreport]
    exact ⟨_, List.mem_map_of_mem ht, hroot⟩
  · obtain ⟨told, hrun⟩ := run_scan_eq_report (hpasses .text)
    have hclean : (s.run Latin.environment (.orderly 1) accentedTargets).1.exitStatus = .clean := by
      rw [Report.exitStatus_eq_clean_iff, hreport, List.flatMap_eq_nil_iff]
      exact fun t ht => s.targetFindings_of_not_exists _ (not_exists_accentedTargets t ht)
    rw [hrun]
    exact congrArg Ending.finished hclean

end Cli.Context

end ConstantScan
