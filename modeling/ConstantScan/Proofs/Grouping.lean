import ConstantScan.Proofs.TargetOrder
import ConstantScan.Proofs.TextOrder

/-!
# Groups divide the findings

Whatever is added in whatever order, each finding is in the group of its target as often as it was
added, and in no other group. The counts of a report are those of its groups.
-/

namespace ConstantScan

/-! ## What is collected -/

inductive Addition
  | one (f : Finding)
  | all (fs : List Finding)
  deriving DecidableEq, Repr

def Addition.findings : Addition → List Finding
  | one f => [f]
  | all fs => fs

namespace Findings

def extend (fs : Findings) : Addition → Findings
  | .one f => fs.add f
  | .all more => fs.addAll more

/-- What comes of the additions, one after another. -/
def collect (additions : List Addition) : Findings := additions.foldl extend []

theorem extend_eq (fs : Findings) (a : Addition) : fs.extend a = fs ++ a.findings := by
  cases a <;> rfl

theorem collect_eq (additions : List Addition) :
    collect additions = additions.flatMap Addition.findings := by
  induction additions using List.reverseRecOn with
  | nil => rfl
  | append_singleton additions a ih =>
    rw [collect, List.foldl_append, List.foldl_cons, List.foldl_nil, ← collect, ih, extend_eq,
      List.flatMap_append, List.flatMap_singleton]

/-! ## Groups in the order of arrival -/

def firstOf (fs : Findings) (label : String) : Nat := fs.findIdx (·.target == label)

theorem firstOf_lt_length_iff {fs : Findings} {label : String} :
    fs.firstOf label < fs.length ↔ label ∈ fs.labels := by
  rw [firstOf, List.findIdx_lt_length, mem_labels]
  simp only [beq_iff_eq]

theorem firstOf_append (fs more : Findings) (label : String) : firstOf (fs ++ more) label =
    if label ∈ fs.labels then fs.firstOf label else more.firstOf label + fs.length := by
  rw [firstOf, List.findIdx_append]
  exact if_congr firstOf_lt_length_iff rfl rfl

theorem labels_arrival (fs : Findings) :
    fs.labels.Pairwise fun a b => fs.firstOf a < fs.firstOf b := by
  induction fs using List.reverseRecOn with
  | nil => exact .nil
  | append_singleton fs f ih =>
    have hold {label : String} (h : label ∈ labels fs) :
        firstOf (fs ++ [f]) label = firstOf fs label := by
      rw [firstOf_append, if_pos h]
    have hlabels : (labels fs).Pairwise fun a b => firstOf (fs ++ [f]) a < firstOf (fs ++ [f]) b :=
      ih.imp_of_mem fun ha hb hlt => by rwa [hold ha, hold hb]
    rw [labels_concat]
    split
    · exact hlabels
    · next hnew =>
      refine List.pairwise_append.2 ⟨hlabels, List.pairwise_singleton .., ?_⟩
      intro a ha b hb
      rw [List.mem_singleton.1 hb, hold ha, firstOf_append, if_neg hnew]
      exact Nat.lt_add_left _ (firstOf_lt_length_iff.2 ha)

theorem of_mem_groups {fs : Findings} {g : TargetGroup} (h : g ∈ fs.groups) :
    g.findings = fs.ofTarget g.label ∧ g.label ∈ fs.labels := by
  rw [groups_eq, List.mem_map] at h
  obtain ⟨label, hlabel, rfl⟩ := h
  exact ⟨rfl, hlabel⟩

theorem mem_of_mem_group {fs : Findings} {g : TargetGroup} (h : g ∈ fs.groups) {f : Finding}
    (hf : f ∈ g.findings) : f ∈ fs ∧ f.target = g.label := by
  rw [(of_mem_groups h).1, ofTarget, List.mem_filter, beq_iff_eq] at hf
  exact hf

theorem map_label_groups (fs : Findings) : fs.groups.map TargetGroup.label = fs.labels := by
  rw [groups_eq, List.map_map]
  exact List.map_id _

theorem count_ofTarget (fs : Findings) (label : String) (f : Finding) :
    List.count f (fs.ofTarget label) = if f.target = label then List.count f fs else 0 := by
  split
  · next h => exact List.count_filter (by simpa using h)
  · next h =>
    rw [List.count_eq_zero, ofTarget, List.mem_filter, not_and]
    exact fun _ => by simpa using h

/-- No finding is in two groups, and none is left out. -/
theorem flatMap_groups_perm (fs : Findings) : (fs.groups.flatMap TargetGroup.findings).Perm fs := by
  rw [groups_eq, List.flatMap_map, List.perm_iff_count]
  intro f
  have hothers : ∀ label, label ≠ f.target → label ∈ fs.labels →
      List.count f (fs.ofTarget label) = 0 := by
    intro label hne _
    rw [count_ofTarget, if_neg hne.symm]
  rw [List.count_flatMap]
  change (fs.labels.map fun label => List.count f (fs.ofTarget label)).sum = List.count f fs
  rw [List.sum_map_eq_nsmul_single f.target _ hothers, count_ofTarget, if_pos rfl]
  by_cases hf : f ∈ fs
  · rw [List.count_eq_one_of_mem (labels_nodup fs) (mem_labels.2 ⟨f, hf, rfl⟩), one_nsmul]
  · rw [List.count_eq_zero.2 hf, nsmul_zero]

/-- The groups have all that is found in a target, each one where its first finding came. -/
structure IsGrouping (fs : Findings) (gs : List TargetGroup) : Prop where
  nodup : (gs.map TargetGroup.label).Nodup
  arrival : gs.Pairwise fun a b => fs.firstOf a.label < fs.firstOf b.label
  ne_nil : ∀ g ∈ gs, g.findings ≠ []
  findings_eq : ∀ g ∈ gs, g.findings = fs.filter (·.target == g.label)
  perm : (gs.flatMap TargetGroup.findings).Perm fs
  unique : ∀ f ∈ fs, ∃! g, g ∈ gs ∧ f ∈ g.findings

theorem isGrouping_groups (fs : Findings) : fs.IsGrouping fs.groups where
  nodup := map_label_groups fs ▸ labels_nodup fs
  arrival := by
    have harrival := labels_arrival fs
    rwa [← map_label_groups, List.pairwise_map] at harrival
  ne_nil := by
    intro g hg
    obtain ⟨hfindings, hlabel⟩ := of_mem_groups hg
    obtain ⟨f, hf, htarget⟩ := mem_labels.1 hlabel
    rw [hfindings]
    exact List.ne_nil_of_mem (List.mem_filter.2 ⟨hf, by simpa using htarget⟩)
  findings_eq g hg := (of_mem_groups hg).1
  perm := flatMap_groups_perm fs
  unique := by
    intro f hf
    have hmem : f ∈ fs.groups.flatMap TargetGroup.findings := (flatMap_groups_perm fs).mem_iff.2 hf
    obtain ⟨g, hg, hfg⟩ := List.mem_flatMap.1 hmem
    refine ⟨g, ⟨hg, hfg⟩, fun g' ⟨hg', hfg'⟩ => eq_of_label_eq hg' hg ?_⟩
    rw [← (mem_of_mem_group hg' hfg').2, (mem_of_mem_group hg hfg).2]

theorem sum_length_groups (fs : Findings) :
    (fs.groups.map fun g => g.findings.length).sum = fs.length := by
  rw [← List.length_flatMap]
  exact (flatMap_groups_perm fs).length_eq

/-! ## Groups in the order of labels -/

theorem of_mem_sortedGroups {fs : Findings} {g : TargetGroup} (h : g ∈ fs.sortedGroups) :
    g.findings = fs.ofTarget g.label ∧ g.label ∈ fs.labels :=
  of_mem_groups ((sortedGroups_perm fs).mem_iff.1 h)

theorem mem_of_mem_sortedGroup {fs : Findings} {g : TargetGroup} (h : g ∈ fs.sortedGroups)
    {f : Finding} (hf : f ∈ g.findings) : f ∈ fs ∧ f.target = g.label :=
  mem_of_mem_group ((sortedGroups_perm fs).mem_iff.1 h) hf

theorem sortedGroups_strict (fs : Findings) :
    fs.sortedGroups.Pairwise fun a b => a.label < b.label := by
  have hlabels : (fs.sortedGroups.map TargetGroup.label).Nodup :=
    ((sortedGroups_perm fs).map _).nodup_iff.2 (isGrouping_groups fs).nodup
  have hne := List.pairwise_map.1 hlabels
  refine (hne.and (sortedGroups_ascending fs)).imp ?_
  rintro a b ⟨hne, hle⟩
  exact lt_of_le_of_ne hle hne

theorem sum_length_sortedGroups (fs : Findings) :
    (fs.sortedGroups.map fun g => g.findings.length).sum = fs.length := by
  rw [((sortedGroups_perm fs).map _).sum_eq, sum_length_groups]

/-- What is collected is divided into groups, sorted or not, and each count is one of the groups. -/
theorem collected_in_groups (additions : List Addition) :
    let fs := collect additions
    fs = additions.flatMap Addition.findings ∧ fs.IsGrouping fs.groups ∧
      fs.sortedGroups.Perm fs.groups ∧
      (fs.sortedGroups.Pairwise fun a b => Utf8.ofString a.label < Utf8.ofString b.label) ∧
      ∀ targets, let r : Report := ⟨targets, fs⟩
        (∀ g ∈ fs.groups, r.countFor g.label = g.findings.length) ∧
        (∀ label, label ∉ fs.groups.map TargetGroup.label → r.countFor label = 0) ∧
        r.total = (fs.groups.map fun g => g.findings.length).sum ∧
        r.targetsWithIssues = fs.groups.length := by
  intro fs
  refine ⟨collect_eq additions, isGrouping_groups fs, sortedGroups_perm fs, ?_, fun targets => ?_⟩
  · exact (sortedGroups_strict fs).imp Utf8.ofString_lt_iff.2
  · refine ⟨fun g hg => ?_, fun label hlabel => ?_, ?_, rfl⟩
    · exact congrArg List.length (of_mem_groups hg).1.symm
    · rw [map_label_groups] at hlabel
      exact congrArg List.length (ofTarget_eq_nil hlabel)
    · exact (sum_length_groups fs).symm

end Findings

end ConstantScan
