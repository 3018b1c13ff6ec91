import ConstantScan.Proofs.Places
import ConstantScan.Proofs.TargetOrder
import ConstantScan.Proofs.TextOrder
import ConstantScan.Proofs.WalkSelection
import Mathlib

/-!
# The canonical order of findings

Findings can be put in order by target, file, line and rule. All that is left of the order in which
they came is that of findings which agree in all four. Where targets are labelled apart and files
have texts for names, no two findings of a run do.
-/

namespace ConstantScan

/-! ## Keys -/

namespace Finding

abbrev Keys := String × String × Nat × String

def keys (f : Finding) : Keys := (f.target, f.file, f.line, f.rule)

theorem keys_eq_iff {a b : Finding} : a.keys = b.keys ↔
    a.target = b.target ∧ a.file = b.file ∧ a.line = b.line ∧ a.rule = b.rule := by
  simp only [keys, Prod.mk.injEq]

/-- The first of the keys that differs is less. Texts are in the order of their bytes, lines in that
of their numbers. -/
inductive Before (a b : Finding) : Prop
  | target (less : Utf8.ofString a.target < Utf8.ofString b.target)
  | file (target : a.target = b.target) (less : Utf8.ofString a.file < Utf8.ofString b.file)
  | line (target : a.target = b.target) (file : a.file = b.file) (less : a.line < b.line)
  | rule (target : a.target = b.target) (file : a.file = b.file) (line : a.line = b.line)
      (less : Utf8.ofString a.rule < Utf8.ofString b.rule)

theorem compare_eq_lt_iff {a b : Finding} : a.compare b = .lt ↔ a.Before b := by
  simp only [Finding.compare, Ordering.then_eq_lt, compare_lt_iff_lt, compare_eq_iff_eq,
    ← Utf8.ofString_lt_iff]
  constructor
  · rintro (h | ⟨htarget, h | ⟨hfile, h | ⟨hline, h⟩⟩⟩)
    · exact .target h
    · exact .file htarget h
    · exact .line htarget hfile h
    · exact .rule htarget hfile hline h
  · intro h
    cases h with
    | target h => exact .inl h
    | file htarget h => exact .inr ⟨htarget, .inl h⟩
    | line htarget hfile h => exact .inr ⟨htarget, .inr ⟨hfile, .inl h⟩⟩
    | rule htarget hfile hline h => exact .inr ⟨htarget, .inr ⟨hfile, .inr ⟨hline, h⟩⟩⟩

theorem compare_eq_eq_iff {a b : Finding} : a.compare b = .eq ↔ a.keys = b.keys := by
  simp only [Finding.compare, Ordering.then_eq_eq, compare_eq_iff_eq, keys_eq_iff]

theorem isLE_compare_iff {a b : Finding} :
    (a.compare b).isLE = true ↔ a.Before b ∨ a.keys = b.keys := by
  rw [Ordering.isLE_iff_eq_lt_or_eq_eq, compare_eq_lt_iff, compare_eq_eq_iff]

instance : Std.TransCmp Finding.compare :=
  inferInstanceAs (Std.TransCmp (compareLex (compareOn target) (compareLex (compareOn file)
    (compareLex (compareOn line) (compareOn rule)))))

theorem isLE_compare_trans (a b c : Finding) (hab : (a.compare b).isLE = true)
    (hbc : (b.compare c).isLE = true) : (a.compare c).isLE = true :=
  Std.TransCmp.isLE_trans hab hbc

theorem isLE_compare_total (a b : Finding) : ((a.compare b).isLE || (b.compare a).isLE) = true := by
  have hswap : b.compare a = (a.compare b).swap := Std.OrientedCmp.eq_swap
  rw [hswap]
  cases a.compare b <;> rfl

theorem keys_eq_of_isLE {a b : Finding} (hab : (a.compare b).isLE = true)
    (hba : (b.compare a).isLE = true) : a.keys = b.keys :=
  compare_eq_eq_iff.1 (Std.OrientedCmp.isLE_antisymm hab hba)

end Finding

/-! ## The order -/

namespace Findings

def ofKeys (fs : Findings) (keys : Finding.Keys) : Findings := fs.filter (·.keys == keys)

theorem ofKeys_cons (f : Finding) (fs : Findings) (keys : Finding.Keys) :
    ofKeys (f :: fs) keys = if f.keys = keys then f :: fs.ofKeys keys else fs.ofKeys keys := by
  simp only [ofKeys, List.filter_cons, beq_iff_eq]

theorem mem_ofKeys {fs : Findings} {keys : Finding.Keys} {f : Finding} :
    f ∈ fs.ofKeys keys ↔ f ∈ fs ∧ f.keys = keys := by
  rw [ofKeys, List.mem_filter, beq_iff_eq]

/-- The findings in the order of their keys. Those with the same keys stay as they came. -/
structure IsCanonical (fs cs : Findings) : Prop where
  perm : cs.Perm fs
  sorted : cs.Pairwise fun a b => a.Before b ∨ a.keys = b.keys
  stable : ∀ keys, cs.ofKeys keys = fs.ofKeys keys

theorem isCanonical_canonical (fs : Findings) : fs.IsCanonical fs.canonical := by
  have hperm : fs.canonical.Perm fs := List.mergeSort_perm _ _
  refine ⟨hperm, ?_, ?_⟩
  · have hsorted := List.pairwise_mergeSort Finding.isLE_compare_trans Finding.isLE_compare_total fs
    exact hsorted.imp Finding.isLE_compare_iff.1
  · intro keys
    -- Findings with the same keys are in order, so sorting keeps them as they are.
    have hordered : (fs.ofKeys keys).Pairwise fun a b => (a.compare b).isLE = true := by
      apply List.Pairwise.imp_of_mem _ (List.pairwise_of_forall fun _ _ => trivial)
      intro a b ha hb _
      exact Finding.isLE_compare_iff.2 (.inr ((mem_ofKeys.1 ha).2.trans (mem_ofKeys.1 hb).2.symm))
    have hsub : (fs.ofKeys keys).Sublist fs.canonical := List.sublist_mergeSort
      Finding.isLE_compare_trans Finding.isLE_compare_total hordered List.filter_sublist
    have hkept := hsub.filter (·.keys == keys)
    rw [ofKeys, List.filter_filter] at hkept
    simp only [Bool.and_self] at hkept
    exact (hkept.eq_of_length (hperm.filter _).length_eq.symm).symm

theorem perm_of_ofKeys_eq {fs gs : Findings} (h : ∀ keys, fs.ofKeys keys = gs.ofKeys keys) :
    fs.Perm gs := by
  rw [List.perm_iff_count]
  intro f
  have hcount (fs : Findings) : List.count f (fs.ofKeys f.keys) = List.count f fs := by
    apply List.count_filter
    exact beq_self_eq_true f.keys
  rw [← hcount fs, ← hcount gs, h]

theorem isLE_first {f g : Finding} {fs : Findings}
    (h : (f :: fs).Pairwise fun a b => (a.compare b).isLE = true) (hg : g ∈ f :: fs) :
    (f.compare g).isLE = true := by
  rcases List.mem_cons.1 hg with rfl | hg
  · exact Finding.isLE_compare_iff.2 (.inr rfl)
  · exact List.rel_of_pairwise_cons h hg

/-- Findings in order are settled by those with the same keys. -/
theorem eq_of_sorted {fs gs : Findings} (hfs : fs.Pairwise fun a b => (a.compare b).isLE = true)
    (hgs : gs.Pairwise fun a b => (a.compare b).isLE = true)
    (h : ∀ keys, fs.ofKeys keys = gs.ofKeys keys) : fs = gs := by
  have hperm := perm_of_ofKeys_eq h
  induction fs generalizing gs with
  | nil => exact hperm.nil_eq
  | cons f fs ih =>
    cases gs with
    | nil => exact hperm.eq_nil
    | cons g gs =>
      -- Each of the two first findings is in both lists, so neither is before the other.
      have hfg := isLE_first hfs (hperm.mem_iff.2 List.mem_cons_self)
      have hgf := isLE_first hgs (hperm.mem_iff.1 List.mem_cons_self)
      have hkeys : g.keys = f.keys := (Finding.keys_eq_of_isLE hfg hgf).symm
      have hfirst := h f.keys
      rw [ofKeys_cons, ofKeys_cons, if_pos rfl, if_pos hkeys] at hfirst
      obtain rfl := (List.cons.inj hfirst).1
      have hrest : ∀ keys, ofKeys fs keys = ofKeys gs keys := by
        intro keys
        have hboth := h keys
        rw [ofKeys_cons, ofKeys_cons] at hboth
        split at hboth
        · exact (List.cons.inj hboth).2
        · exact hboth
      rw [ih hfs.of_cons hgs.of_cons hrest (perm_of_ofKeys_eq hrest)]

theorem IsCanonical.ordered {fs cs : Findings} (h : fs.IsCanonical cs) :
    cs.Pairwise fun a b => (a.compare b).isLE = true :=
  h.sorted.imp Finding.isLE_compare_iff.2

theorem IsCanonical.unique {fs cs ds : Findings} (hc : fs.IsCanonical cs) (hd : fs.IsCanonical ds) :
    cs = ds := by
  apply eq_of_sorted hc.ordered hd.ordered
  intro keys
  rw [hc.stable, hd.stable]

theorem canonical_congr {fs gs : Findings} (h : ∀ keys, fs.ofKeys keys = gs.ofKeys keys) :
    fs.canonical = gs.canonical := by
  have hfs := isCanonical_canonical fs
  have hgs := isCanonical_canonical gs
  apply eq_of_sorted hfs.ordered hgs.ordered
  intro keys
  rw [hfs.stable, hgs.stable, h]

/-! ## Orders of arrival -/

theorem ofKeys_congr {fs gs : Findings} (hperm : fs.Perm gs)
    (hkeys : ∀ f ∈ fs, ∀ g ∈ fs, f.keys = g.keys → f = g) (keys : Finding.Keys) :
    fs.ofKeys keys = gs.ofKeys keys := by
  have hall {fs : Findings} : (fs.ofKeys keys).Pairwise fun _ _ => True :=
    List.pairwise_of_forall fun _ _ => trivial
  refine List.Perm.eq_of_pairwise ?_ hall hall (hperm.filter _)
  intro f g hf hg _ _
  obtain ⟨hf, hfkeys⟩ := mem_ofKeys.1 hf
  obtain ⟨hg, hgkeys⟩ := mem_ofKeys.1 hg
  exact hkeys f hf g (hperm.mem_iff.2 hg) (hfkeys.trans hgkeys.symm)

theorem ofKeys_ofTarget (fs : Findings) (keys : Finding.Keys) :
    (fs.ofTarget keys.1).ofKeys keys = fs.ofKeys keys := by
  rw [ofTarget, ofKeys, ofKeys, List.filter_filter]
  apply List.filter_congr
  intro f _
  rw [Bool.and_eq_left_iff_imp, beq_iff_eq, beq_iff_eq]
  rintro rfl
  rfl

/-- The findings of a target come together, wherever it stands among the targets. -/
theorem ofKeys_flatMap_congr {found : ScanTarget → Findings}
    (hfound : ∀ t, ∀ f ∈ found t, f.target = t.label) {targets targets' : List ScanTarget}
    (hperm : targets.Perm targets') (hnodup : (targets.map ScanTarget.label).Nodup)
    (keys : Finding.Keys) :
    ofKeys (targets.flatMap found) keys = ofKeys (targets'.flatMap found) keys := by
  rw [← ofKeys_ofTarget, ← ofKeys_ofTarget (targets'.flatMap found), ofTarget_flatMap hfound,
    ofTarget_flatMap hfound, filter_label_congr hperm hnodup]

end Findings

/-! ## The keys of a run -/

namespace RuleSet

variable (rules : RuleSet)

theorem scanLine_distinct (number : Nat) (line : List Char) :
    (rules.scanLine number line).Pairwise fun m n => m.rule ≠ n.rule := by
  have hnames := List.pairwise_map.1 rules.nodup
  exact List.pairwise_map.2 (hnames.sublist List.filter_sublist)

theorem line_of_mem_scanLine {number : Nat} {line : List Char} {m : LineMatch}
    (h : m ∈ rules.scanLine number line) : m.line = number := by
  obtain ⟨rule, -, rfl⟩ := List.mem_map.1 h
  rfl

theorem scan_distinct (content : Bytes) :
    (rules.scan content).Pairwise fun m n => (m.line, m.rule) ≠ (n.line, n.rule) := by
  unfold scan scanLines
  generalize textLines (Utf8.decode content) = lines
  rw [List.pairwise_flatMap]
  constructor
  · rintro ⟨line, number⟩ -
    apply (rules.scanLine_distinct number line).imp
    intro m n hne heq
    exact hne (Prod.mk.inj heq).2
  · have hnumbers : ((lines.zipIdx 1).map Prod.snd).Pairwise (· < ·) := by
      rw [List.zipIdx_map_snd]
      exact List.pairwise_lt_range' 1
    apply (List.pairwise_map.1 hnumbers).imp
    rintro ⟨line, number⟩ ⟨line', number'⟩ hlt m hm n hn heq
    have hline := (Prod.mk.inj heq).1
    rw [rules.line_of_mem_scanLine hm, rules.line_of_mem_scanLine hn] at hline
    exact absurd hline (Nat.ne_of_lt hlt)

end RuleSet

namespace Scanner

variable (s : Scanner) (env : Environment)

theorem fileFindings_distinct (target : ScanTarget) (file : Path) :
    (s.fileFindings env target file).Pairwise fun f g => f.keys ≠ g.keys := by
  unfold fileFindings
  cases h : s.outcomeOf env file with
  | skipped reason => exact .nil
  | scanned found =>
    obtain ⟨content, -, rfl⟩ := read_of_scanFile h
    rw [List.pairwise_map]
    apply (s.rules.scan_distinct content).imp
    intro m n hne heq
    obtain ⟨-, -, hline, hrule⟩ := Finding.keys_eq_iff.1 heq
    exact hne (Prod.ext hline hrule)

def NamesAreTexts (targets : List ScanTarget) : Prop :=
  ∀ target ∈ targets, ∀ file ∈ s.walker.walk env target.root, file.IsTextFrom target.root

theorem walkFindings_distinct (ht : env.files.root.Proper) (target : ScanTarget)
    (htexts : ∀ file ∈ s.walker.walk env target.root, file.IsTextFrom target.root) :
    ((s.walker.walk env target.root).flatMap (s.fileFindings env target)).Pairwise
      fun f g => f.keys ≠ g.keys := by
  rw [List.pairwise_flatMap]
  refine ⟨fun file _ => s.fileFindings_distinct env target file, ?_⟩
  apply (s.walker.walk_nodup env ht target.root).imp_of_mem
  intro p q hp hq hne f hf g hg heq
  have hfile := (Finding.keys_eq_iff.1 heq).2.1
  rw [s.file_of_mem_fileFindings env hf, s.file_of_mem_fileFindings env hg] at hfile
  exact hne (s.eq_of_relativeText_eq ht hq (htexts q hq) hp (htexts p hp) hfile)

theorem run_distinct (machine : Machine) {targets : List ScanTarget} (ht : env.files.root.Proper)
    (hnodup : (targets.map ScanTarget.label).Nodup) (htexts : s.NamesAreTexts env targets) :
    (s.run env machine targets).1.findings.Pairwise fun f g => f.keys ≠ g.keys := by
  rw [run_findings, List.pairwise_flatMap]
  refine ⟨fun target htarget => s.walkFindings_distinct env ht target (htexts target htarget), ?_⟩
  apply (List.pairwise_map.1 hnodup).imp
  intro t u hne f hf g hg heq
  have htarget := (Finding.keys_eq_iff.1 heq).1
  rw [s.target_of_mem_targetFindings env t f hf, s.target_of_mem_targetFindings env u g hg]
    at htarget
  exact hne htarget

end Scanner

/-! ## Canonical order -/

namespace Findings

/-- The canonical order is by keys, and there is one only in which findings with the same keys stay
as they came. As far as these are equal, nothing is left of how they came. Nor is anything left of
the order of the targets of a run, if no two are labelled alike; and as long as the names of files
are texts, the keys tell all findings of such a run apart. -/
theorem canonical_by_keys :
    (∀ fs : Findings, fs.IsCanonical fs.canonical ∧ (∀ cs, fs.IsCanonical cs → cs = fs.canonical) ∧
      ∀ gs : Findings, fs.Perm gs → (∀ f ∈ fs, ∀ g ∈ fs, f.keys = g.keys → f = g) →
        gs.canonical = fs.canonical) ∧
      ∀ (s : Scanner) (env : Environment) (machine : Machine) (targets : List ScanTarget),
        (targets.map ScanTarget.label).Nodup →
          (∀ (machine' : Machine) (targets' : List ScanTarget), targets.Perm targets' →
            (s.run env machine' targets').1.findings.canonical =
              (s.run env machine targets).1.findings.canonical) ∧
          (env.files.root.Proper → s.NamesAreTexts env targets →
            (s.run env machine targets).1.findings.Pairwise fun f g => f.keys ≠ g.keys) := by
  constructor
  · intro fs
    refine ⟨isCanonical_canonical fs, ?_, ?_⟩
    · intro cs hcs
      exact hcs.unique (isCanonical_canonical fs)
    · intro gs hperm hkeys
      exact (canonical_congr (ofKeys_congr hperm hkeys)).symm
  · intro s env machine targets hnodup
    constructor
    · intro machine' targets' hperm
      rw [s.run_eq, s.run_eq]
      have hfound := s.target_of_mem_targetFindings env
      exact (canonical_congr (ofKeys_flatMap_congr hfound hperm hnodup)).symm
    · intro htree htexts
      exact s.run_distinct env machine htree hnodup htexts

open Scanner in
theorem canonical_by_keys_twice :
    let nine : Finding := ⟨"repo", "a.py", 9, "y", "letter"⟩
    let ten : Finding := ⟨"repo", "a.py", 10, "x", "letter"⟩
    let again : ScanTarget := ⟨"again", letterTarget.root⟩
    let fs := (letterScanner.run (letterSources []) (.orderly 1) [letterTarget, again]).1.findings
    let gs := (letterScanner.run (letterSources []) (.orderly 4) [again, letterTarget]).1.findings
    canonical [nine, ten, ten] = canonical [ten, nine, ten] ∧ gs.canonical = fs.canonical ∧
      fs.Pairwise fun f g => f.keys ≠ g.keys := by
  intro nine ten again fs gs
  obtain ⟨hall, hruns⟩ := canonical_by_keys
  obtain ⟨hperm, hdistinct⟩ :=
    hruns letterScanner (letterSources []) (.orderly 1) [letterTarget, again] (by decide)
  refine ⟨(hall [ten, nine, ten]).2.2 [nine, ten, ten] (.swap _ _ _) (by decide),
    hperm _ _ (.swap _ _ _), hdistinct letterSources_proper ?_⟩
  have hwalk : letterScanner.walker.walk (letterSources []) letterTarget.root =
      [.ofString "/repo/a.py"] := by cbv
  have htext : (Path.ofString "/repo/a.py").IsTextFrom letterTarget.root := by
    have hnames : (Path.ofString "/repo/a.py").relativeTo letterTarget.root =
        [.name (Utf8.encode "a.py".toList)] := by cbv
    rw [Path.IsTextFrom, hnames]
    decide
  intro target htarget file hfile
  have hroot : target.root = letterTarget.root := by
    rcases List.mem_pair.1 htarget with rfl | rfl <;> rfl
  rw [hroot, hwalk, List.mem_singleton] at hfile
  rw [hroot, hfile]
  exact htext

example : canonical [⟨"b", "a.py", 1, "", "p"⟩, ⟨"a", "b.py", 10, "", "p"⟩,
    ⟨"a", "b.py", 9, "second", "p"⟩, ⟨"a", "b.py", 9, "first", "p"⟩] =
      [⟨"a", "b.py", 9, "second", "p"⟩, ⟨"a", "b.py", 9, "first", "p"⟩,
        ⟨"a", "b.py", 10, "", "p"⟩, ⟨"b", "a.py", 1, "", "p"⟩] := by cbv

end Findings

end ConstantScan
