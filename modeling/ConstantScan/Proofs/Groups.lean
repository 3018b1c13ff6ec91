import ConstantScan.Report.Basic
import Mathlib.Data.List.Induction

/-!
# Findings by target

Findings are put into groups one after the other. In the end there is a group for each target with
findings, and it has them all.
-/

namespace ConstantScan.Findings

/-- The labels of the targets in the order of their first findings. -/
def labels (fs : Findings) : List String := (fs.map (·.target)).eraseDups

def groupOf (found : String → List Finding) (label : String) : TargetGroup := ⟨label, found label⟩

theorem mem_labels {fs : Findings} {label : String} :
    label ∈ fs.labels ↔ ∃ f ∈ fs, f.target = label := by
  rw [labels, List.mem_eraseDups, List.mem_map]

theorem labels_concat (fs : Findings) (f : Finding) :
    labels (fs ++ [f]) = if f.target ∈ fs.labels then fs.labels else fs.labels ++ [f.target] := by
  rw [labels, labels, List.map_append, List.map_singleton, List.eraseDups_append]
  by_cases h : f.target ∈ fs.map (·.target)
  · rw [if_pos (List.mem_eraseDups.2 h)]
    simp [List.removeAll, List.mem_map.1 h]
  · rw [if_neg (mt List.mem_eraseDups.1 h)]
    simp [List.removeAll, List.eraseDups_cons, mt List.mem_map.2 h]

theorem labels_nodup (fs : Findings) : fs.labels.Nodup := by
  induction fs using List.reverseRecOn with
  | nil => exact List.nodup_nil
  | append_singleton fs f ih =>
    rw [labels_concat]
    split
    · exact ih
    · next h =>
      rw [List.perm_append_comm.nodup_iff]
      exact List.nodup_cons.2 ⟨h, ih⟩

theorem addToGroups_map (f : Finding) (found : String → List Finding) {labels : List String}
    (hnodup : labels.Nodup) (hnew : f.target ∉ labels → found f.target = []) :
    addToGroups f (labels.map (groupOf found)) =
      (if f.target ∈ labels then labels else labels ++ [f.target]).map
        (groupOf (Function.update found f.target (f :: found f.target))) := by
  induction labels with
  | nil => simp [addToGroups, groupOf, hnew]
  | cons label labels ih =>
    obtain ⟨hlabel, hnodup⟩ := List.nodup_cons.1 hnodup
    rw [List.map_cons, addToGroups]
    by_cases h : label = f.target
    · subst h
      have hrest : labels.map (groupOf (Function.update found f.target (f :: found f.target))) =
          labels.map (groupOf found) := by
        apply List.map_congr_left
        intro other hother
        have hne : other ≠ f.target := fun e => hlabel (e ▸ hother)
        rw [groupOf, groupOf, Function.update_of_ne hne]
      simp [groupOf, hrest]
    · have hmem : f.target ∈ label :: labels ↔ f.target ∈ labels := by
        simp [Ne.symm h]
      rw [ih hnodup fun hnot => hnew (by rwa [hmem])]
      simp only [groupOf, h, if_false, hmem]
      split <;> simp [groupOf, Function.update_of_ne h]

theorem ofTarget_eq_nil {fs : Findings} {label : String} (h : label ∉ fs.labels) :
    fs.ofTarget label = [] := by
  rw [ofTarget, List.filter_eq_nil_iff]
  intro f hf heq
  exact h (mem_labels.2 ⟨f, hf, by simpa using heq⟩)

theorem ofTarget_concat (fs : Findings) (f : Finding) :
    (fun label => (ofTarget (fs ++ [f]) label).reverse) =
      Function.update (fun label => (fs.ofTarget label).reverse) f.target
        (f :: (fs.ofTarget f.target).reverse) := by
  funext label
  by_cases h : label = f.target
  · subst h
    simp [ofTarget]
  · rw [Function.update_of_ne h, ofTarget, List.filter_append]
    simp [ofTarget, Ne.symm h]

theorem foldl_addToGroups (fs : Findings) :
    fs.foldl (fun gs f => addToGroups f gs) [] =
      fs.labels.map (groupOf fun label => (fs.ofTarget label).reverse) := by
  induction fs using List.reverseRecOn with
  | nil => rfl
  | append_singleton fs f ih =>
    have hnew : f.target ∉ labels fs → (ofTarget fs f.target).reverse = [] := fun h => by
      rw [ofTarget_eq_nil h, List.reverse_nil]
    rw [List.foldl_append, List.foldl_cons, List.foldl_nil, ih,
      addToGroups_map f _ (labels_nodup fs) hnew, labels_concat, ofTarget_concat]

theorem groups_eq (fs : Findings) : fs.groups = fs.labels.map (groupOf fs.ofTarget) := by
  rw [groups, foldl_addToGroups, List.map_map]
  apply List.map_congr_left
  intro label _
  simp [groupOf]

end ConstantScan.Findings
