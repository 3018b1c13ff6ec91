import ConstantScan.Proofs.Enumeration
import ConstantScan.Proofs.Groups
import ConstantScan.Proofs.TargetOrder

/-!
# Counts of targets

A finding knows its target by the label only. So what a report counts from its findings, it counts
for each label, and this is what it counts for each target where labels differ.
-/

namespace ConstantScan

/-! ## Sums over what has one key -/

section Keys

variable {α β : Type} [DecidableEq β] (key : α → β) (weight : α → Nat)

/-- The sum over all that has this key. -/
def sumOf (l : List α) (k : β) : Nat := ((l.filter (key · = k)).map weight).sum

theorem sumOf_cons (a : α) (l : List α) (k : β) :
    sumOf key weight (a :: l) k = (if key a = k then weight a else 0) + sumOf key weight l k := by
  by_cases h : key a = k <;> simp [sumOf, h]

theorem le_sumOf {l : List α} {a : α} (ha : a ∈ l) : weight a ≤ sumOf key weight l (key a) :=
  List.single_le_sum (by simp) _ (List.mem_map_of_mem (List.mem_filter.2 ⟨ha, by simp⟩))

theorem sumOf_eq_zero {l : List α} {k : β} (h : ∀ a ∈ l, key a = k → weight a = 0) :
    sumOf key weight l k = 0 := by
  rw [sumOf, List.sum_eq_zero_iff]
  intro n hn
  obtain ⟨a, ha, rfl⟩ := List.mem_map.1 hn
  obtain ⟨hmem, hkey⟩ := List.mem_filter.1 ha
  exact h a hmem (of_decide_eq_true hkey)

/-- The sum is always that of the item itself just where an item with weight has its key alone. -/
theorem sumOf_eq_self_iff (l : List α) :
    (∀ a ∈ l, sumOf key weight l (key a) = weight a) ↔
      l.Pairwise fun a b => key a = key b → weight a = 0 ∧ weight b = 0 := by
  induction l with
  | nil => simp
  | cons a l ih =>
    rw [List.pairwise_cons, ← ih]
    constructor
    · -- The sum at the key of `a` is the weight of `a` already, which leaves nothing for the rest.
      intro h
      have hrest : sumOf key weight l (key a) = 0 := by
        have hself := h a List.mem_cons_self
        rw [sumOf_cons, if_pos rfl] at hself
        omega
      have hother : ∀ b ∈ l, key a = key b → weight a = 0 ∧ weight b = 0 := by
        intro b hb hkey
        have hle := le_sumOf key weight hb
        have hself := h b (List.mem_cons_of_mem a hb)
        rw [sumOf_cons, if_pos hkey] at hself
        rw [hkey] at hrest
        omega
      refine ⟨hother, fun b hb => ?_⟩
      have hself := h b (List.mem_cons_of_mem a hb)
      rw [sumOf_cons] at hself
      split at hself
      · next hkey => rw [(hother b hb hkey).1, Nat.zero_add] at hself; exact hself
      · rw [Nat.zero_add] at hself; exact hself
    · rintro ⟨hother, hrest⟩ b hb
      rw [sumOf_cons]
      obtain rfl | hb := List.mem_cons.1 hb
      · rw [if_pos rfl, sumOf_eq_zero key weight fun c hc hkey => (hother c hc hkey.symm).2,
          Nat.add_zero]
      · rw [hrest b hb]
        split
        · next hkey => rw [(hother b hb hkey).1, Nat.zero_add]
        · rw [Nat.zero_add]

end Keys

theorem length_dedup_eq_iff {α : Type} [DecidableEq α] (l : List α) :
    l.dedup.length = l.length ↔ l.Nodup := by
  rw [← List.dedup_eq_self]
  exact ⟨(List.dedup_sublist l).eq_of_length, congrArg List.length⟩

/-! ## The counts of a run -/

namespace Report

/-- The summaries of the targets with findings. -/
def withIssues (r : Report) : List TargetSummary := r.targets.filter (0 < ·.findings)

end Report

namespace Scanner

variable (s : Scanner) (env : Environment)

theorem findings_targetSummary (t : ScanTarget) :
    (s.targetSummary env t).findings = (s.targetFindings env t).length := by
  unfold targetSummary targetStatus TargetSummary.findings
  cases h : env.files.exists t.root with
  | false => simp [targetFindings_of_not_exists s env h]
  | true => simp

/-- What is counted for a label is the sum of what the targets with the label have. -/
theorem countFor_run (machine : Machine) (targets : List ScanTarget) (label : String) :
    let r := (s.run env machine targets).1
    r.countFor label = sumOf TargetSummary.label TargetSummary.findings r.targets label := by
  intro r
  have hr : r = _ := s.run_eq env machine targets
  have hlabel : ∀ t, decide ((s.targetSummary env t).label = label) = (t.label == label) :=
    fun t => by rw [Bool.beq_eq_decide_eq, targetSummary]
  rw [hr, Report.countFor, Findings.countFor,
    Findings.ofTarget_flatMap (s.target_of_mem_targetFindings env), List.length_flatMap, sumOf,
    List.filter_map, List.map_map]
  simp only [Function.comp_def, findings_targetSummary, hlabel]

theorem mem_labels_run (machine : Machine) (targets : List ScanTarget) (label : String) :
    let r := (s.run env machine targets).1
    label ∈ r.findings.labels ↔ label ∈ r.withIssues.map (·.label) := by
  intro r
  have hr : r = _ := s.run_eq env machine targets
  have hissues : ∀ t, 0 < (s.targetSummary env t).findings ↔ ∃ f, f ∈ s.targetFindings env t :=
    fun t => by rw [findings_targetSummary, List.length_pos_iff_exists_mem]
  rw [hr, Findings.mem_labels, Report.withIssues, List.mem_map]
  simp only [List.mem_flatMap, List.mem_filter, List.mem_map, decide_eq_true_eq]
  constructor
  · rintro ⟨f, ⟨t, ht, hf⟩, rfl⟩
    exact ⟨_, ⟨⟨t, ht, rfl⟩, (hissues t).2 ⟨f, hf⟩⟩,
      (s.target_of_mem_targetFindings env t f hf).symm⟩
  · rintro ⟨_, ⟨⟨t, ht, rfl⟩, hpos⟩, rfl⟩
    obtain ⟨f, hf⟩ := (hissues t).1 hpos
    exact ⟨f, ⟨t, ht, hf⟩, s.target_of_mem_targetFindings env t f hf⟩

theorem targetsWithIssues_run (machine : Machine) (targets : List ScanTarget) :
    let r := (s.run env machine targets).1
    r.targetsWithIssues = (r.withIssues.map (·.label)).dedup.length := by
  intro r
  have hperm : r.findings.labels.Perm (r.withIssues.map (·.label)).dedup := by
    rw [List.perm_ext_iff_of_nodup (Findings.labels_nodup _) (List.nodup_dedup _)]
    intro label
    rw [List.mem_dedup]
    exact s.mem_labels_run env machine targets label
  rw [Report.targetsWithIssues, Findings.groups_eq, List.length_map, hperm.length_eq]

/-- The counts of a report are those of labels. They are those of targets just where no two targets
with findings have one label, and no target without findings has the label of one with findings. -/
theorem counts_by_label (machine : Machine) (targets : List ScanTarget) :
    let r := (s.run env machine targets).1
    (∀ label, r.countFor label =
        sumOf TargetSummary.label TargetSummary.findings r.targets label) ∧
      r.targetsWithIssues = (r.withIssues.map (·.label)).dedup.length ∧
      (r.targetsWithIssues = r.withIssues.length ↔ (r.withIssues.map (·.label)).Nodup) ∧
      ((∀ summary ∈ r.targets, r.countFor summary.label = summary.findings) ↔
        r.targets.Pairwise fun a b => a.label = b.label → a.findings = 0 ∧ b.findings = 0) := by
  intro r
  have hcount : ∀ label, r.countFor label = _ := s.countFor_run env machine targets
  have hissues : r.targetsWithIssues = _ := s.targetsWithIssues_run env machine targets
  refine ⟨hcount, hissues, ?_, ?_⟩
  · rw [hissues, ← length_dedup_eq_iff, List.length_map]
  · simp only [hcount]
    exact sumOf_eq_self_iff TargetSummary.label TargetSummary.findings r.targets

/-- A target given twice is counted once, and both times with the findings of both. -/
theorem not_counts_by_target_twice :
    let r := (letterScanner.run (letterSources []) (.orderly 1) [letterTarget, letterTarget]).1
    r.targetsWithIssues = 1 ∧ (r.targets.filter (0 < ·.findings)).length = 2 ∧
      ∀ summary ∈ r.targets, r.countFor summary.label = 2 ∧ summary.findings = 1 := by
  have hrun : (letterScanner.run (letterSources []) (.orderly 1) [letterTarget, letterTarget]).1 =
      { targets := List.replicate 2 ⟨"repo", .ofString "/repo", .scanned 1 0 1⟩
        findings := List.replicate 2 ⟨"repo", "a.py", 1, "x", "letter"⟩ } := by cbv
  rw [hrun]
  decide

end Scanner

end ConstantScan
