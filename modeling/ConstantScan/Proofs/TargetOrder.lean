import ConstantScan.Proofs.Enumeration
import ConstantScan.Proofs.Groups
import ConstantScan.Report.Text

/-!
# The order of targets

Reports for people put the targets into an order of their own. As long as no two targets are
labelled alike, nothing of the order in which the targets are given is left in them.
-/

namespace ConstantScan

/-! ## Reports that are read alike -/

namespace Findings

theorem labels_perm {fs gs : Findings} (h : fs.Perm gs) : (labels fs).Perm (labels gs) := by
  rw [List.perm_ext_iff_of_nodup (labels_nodup fs) (labels_nodup gs)]
  intro label
  simp only [mem_labels, h.mem_iff]

theorem groups_perm {fs gs : Findings} (h : fs.Perm gs)
    (hof : fs.ofTarget = gs.ofTarget) : fs.groups.Perm gs.groups := by
  rw [groups_eq, groups_eq, hof]
  exact (labels_perm h).map _

theorem sortedGroups_perm (fs : Findings) : fs.sortedGroups.Perm fs.groups :=
  List.mergeSort_perm _ _

theorem sortedGroups_ascending (fs : Findings) :
    fs.sortedGroups.Pairwise fun a b => a.label ≤ b.label :=
  List.pairwise_mergeSort' (Order.Preimage TargetGroup.label (· ≤ ·)) fs.groups

theorem eq_of_label_eq {fs : Findings} {a b : TargetGroup} (ha : a ∈ fs.groups)
    (hb : b ∈ fs.groups) (h : a.label = b.label) : a = b := by
  rw [groups_eq, List.mem_map] at ha hb
  obtain ⟨label, -, rfl⟩ := ha
  obtain ⟨label', -, rfl⟩ := hb
  exact congrArg (groupOf fs.ofTarget) h

/-- Sorting takes away the order in which the targets had their first findings. -/
theorem sortedGroups_congr {fs gs : Findings} (h : fs.Perm gs) (hof : fs.ofTarget = gs.ofTarget) :
    fs.sortedGroups = gs.sortedGroups := by
  have hperm : fs.sortedGroups.Perm gs.sortedGroups :=
    (sortedGroups_perm fs).trans ((groups_perm h hof).trans (sortedGroups_perm gs).symm)
  refine hperm.eq_of_pairwise ?_ (sortedGroups_ascending fs) (sortedGroups_ascending gs)
  intro a b ha hb hab hba
  have ha := (sortedGroups_perm fs).mem_iff.1 ha
  have hb := (groups_perm h hof).mem_iff.2 ((sortedGroups_perm gs).mem_iff.1 hb)
  exact eq_of_label_eq ha hb (String.le_antisymm hab hba)

theorem isEmpty_ofRule_congr {fs gs : Findings} (h : fs.Perm gs) (name : String) :
    (fs.ofRule name).isEmpty = (gs.ofRule name).isEmpty :=
  (h.filter _).isEmpty_eq

end Findings

namespace Report

variable {r r' : Report} (hcount : r.targets.length = r'.targets.length)
  (hperm : r.findings.Perm r'.findings) (hof : r.findings.ofTarget = r'.findings.ofTarget)

include hperm in
theorem exitStatus_congr : r.exitStatus = r'.exitStatus := by
  rw [exitStatus, exitStatus, isClean, isClean, hperm.isEmpty_eq]

include hperm in
theorem hints_congr (rules : RuleSet) : hints rules r = hints rules r' := by
  unfold hints
  simp only [Findings.isEmpty_ofRule_congr hperm]

include hcount hperm hof in
theorem text_congr (color : Bool) (rules : RuleSet) : r.text color rules = r'.text color rules := by
  have hgroups : r.targetsWithIssues = r'.targetsWithIssues :=
    (Findings.groups_perm hperm hof).length_eq
  have htotal : r.total = r'.total := hperm.length_eq
  have hclean : r.isClean = r'.isClean := hperm.isEmpty_eq
  simp only [text, bodyLines, summaryLines, adviceLines, hclean, htotal, hcount, hgroups,
    hints_congr hperm, Findings.sortedGroups_congr hperm hof]

end Report

/-! ## Runs over the same targets -/

theorem Findings.ofTarget_flatMap {found : ScanTarget → Findings}
    (hfound : ∀ t, ∀ f ∈ found t, f.target = t.label) (targets : List ScanTarget) (label : String) :
    ofTarget (targets.flatMap found) label =
      (targets.filter (·.label == label)).flatMap found := by
  induction targets with
  | nil => rfl
  | cons t targets ih =>
    rw [List.flatMap_cons, ofTarget, List.filter_append]
    rw [ofTarget] at ih
    rw [ih, List.filter_cons]
    split
    · next h =>
      rw [List.flatMap_cons, List.filter_eq_self.2]
      intro f hf
      rw [hfound t f hf, h]
    · next h =>
      rw [List.filter_eq_nil_iff.2, List.nil_append]
      intro f hf
      rw [hfound t f hf]
      exact h

/-- A label is that of one target at most. -/
theorem filter_label_congr {targets targets' : List ScanTarget} (hperm : targets.Perm targets')
    (hnodup : (targets.map ScanTarget.label).Nodup) (label : String) :
    targets.filter (·.label == label) = targets'.filter (·.label == label) := by
  have hfiltered := hperm.filter (·.label == label)
  have hlabel : ∀ t ∈ targets.filter (·.label == label), t.label = label := by
    intro t ht
    simpa using (List.mem_filter.1 ht).2
  have hdistinct : ((targets.filter (·.label == label)).map ScanTarget.label).Nodup :=
    (List.filter_sublist.map ScanTarget.label).nodup hnodup
  generalize targets.filter (·.label == label) = found at hfiltered hlabel hdistinct
  match found with
  | [] => exact hfiltered.nil_eq
  | [t] => exact hfiltered.singleton_eq
  | t :: u :: rest => simp [hlabel] at hdistinct

namespace Scanner

variable (s : Scanner) (env : Environment)

theorem target_of_mem_targetFindings (t : ScanTarget) :
    ∀ f ∈ s.targetFindings env t, f.target = t.label := by
  intro f hf
  obtain ⟨p, -, hp⟩ := List.mem_flatMap.1 hf
  obtain ⟨m, -, rfl⟩ := List.mem_map.1 hp
  rfl

/-- A report for people and the exit status say nothing about the order of the targets. -/
theorem text_of_targets_perm {targets targets' : List ScanTarget} (hperm : targets.Perm targets')
    (hnodup : (targets.map ScanTarget.label).Nodup) (machine machine' : Machine) (color : Bool) :
    let r := (s.run env machine targets).1
    let r' := (s.run env machine' targets').1
    r.text color s.rules = r'.text color s.rules ∧ r.exitStatus = r'.exitStatus := by
  intro r r'
  have hr : r = _ := s.run_eq env machine targets
  have hr' : r' = _ := s.run_eq env machine' targets'
  have hfindings : r.findings.Perm r'.findings := by
    rw [hr, hr']
    exact hperm.flatMap_right _
  have hcount : r.targets.length = r'.targets.length := by
    rw [hr, hr']
    exact (hperm.map _).length_eq
  have hof : r.findings.ofTarget = r'.findings.ofTarget := by
    funext label
    rw [hr, hr', Findings.ofTarget_flatMap (s.target_of_mem_targetFindings env),
      Findings.ofTarget_flatMap (s.target_of_mem_targetFindings env),
      filter_label_congr hperm hnodup]
  exact ⟨Report.text_congr hcount hfindings hof color s.rules, Report.exitStatus_congr hfindings⟩

theorem text_of_targets_perm_two :
    let other : ScanTarget := ⟨"again", letterTarget.root⟩
    let r := (letterScanner.run (letterSources []) (.orderly 1) [letterTarget, other]).1
    let r' := (letterScanner.run (letterSources []) (.orderly 4) [other, letterTarget]).1
    r.text true letterScanner.rules = r'.text true letterScanner.rules ∧
      r.exitStatus = r'.exitStatus :=
  letterScanner.text_of_targets_perm (letterSources []) (.swap _ _ _) (by decide) _ _ true

end Scanner

end ConstantScan
