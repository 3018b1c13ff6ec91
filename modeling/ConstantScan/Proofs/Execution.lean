import ConstantScan.Execution
import Mathlib.Data.List.Perm.Basic

/-!
# Work on many items gives the results in the order of the items

However the items are divided among workers and in whatever order they are completed, each of them
is completed once and its result is found under its number.
-/

namespace ConstantScan

/-! ## Schedules -/

namespace Schedule

theorem flatten_set_perm {shares : List (List Nat)} {w i : Nat} {rest : List Nat}
    (h : shares[w]? = some (i :: rest)) :
    (i :: (shares.set w rest).flatten).Perm shares.flatten := by
  induction shares generalizing w with
  | nil => simp at h
  | cons share shares ih =>
    cases w with
    | zero =>
      simp only [List.getElem?_cons_zero, Option.some.injEq] at h
      subst h
      simp
    | succ w =>
      simp only [List.getElem?_cons_succ] at h
      simp only [List.set_cons_succ, List.flatten_cons]
      exact List.perm_middle.symm.trans ((ih h).append_left share)

/-- A turn completes an item or none; what is left is completed at the end. -/
theorem play_perm (shares : List (List Nat)) (turns : List Nat) :
    (play shares turns).Perm shares.flatten := by
  induction turns generalizing shares with
  | nil => exact .refl _
  | cons w turns ih =>
    rw [play]
    split
    · next i rest h => exact ((ih _).cons i).trans (flatten_set_perm h)
    · exact ih shares

theorem completion_perm {workers items : Nat} (s : Schedule workers items) :
    s.completion.Perm (List.range items) :=
  (play_perm s.shares s.turns).trans s.perm

end Schedule

/-! ## Results -/

namespace Strategy

variable {α β : Type}

theorem lookup_complete {work : α → β} {items : Array α} {order : List Nat} {i : Nat} {x : α}
    (hi : i ∈ order) (hx : items[i]? = some x) :
    (complete work items order).lookup i = some (work x) := by
  induction order with
  | nil => simp at hi
  | cons j order ih =>
    by_cases hij : i = j
    · subst hij
      simp [complete, hx]
    · have hi' : i ∈ order := (List.mem_cons.1 hi).resolve_left hij
      have hrest := ih hi'
      unfold complete at hrest ⊢
      cases hj : items[j]? with
      | none => simpa [hj] using hrest
      | some y =>
        have hne : (i == j) = false := by simpa using hij
        simpa [hj, List.lookup_cons, hne] using hrest

theorem filterMap_range_getElem? (work : α → β) (items : List α) :
    ((List.range items.length).filterMap fun i => items[i]?.map work) = items.map work := by
  induction items with
  | nil => rfl
  | cons x xs ih =>
    rw [List.length_cons, List.range_succ_eq_map, List.filterMap_cons, List.filterMap_map]
    simpa [Function.comp_def] using ih

theorem collect_complete {work : α → β} {items : List α} {order : List Nat}
    (h : order.Perm (List.range items.length)) :
    collect items.length (complete work items.toArray order) = items.map work := by
  have hfound : ∀ i ∈ List.range items.length,
      (complete work items.toArray order).lookup i = items[i]?.map work := by
    intro i hi
    have hlt : i < items.length := List.mem_range.1 hi
    have hx : items.toArray[i]? = some items[i] := by simp [hlt]
    rw [lookup_complete (h.mem_iff.2 hi) hx, List.getElem?_eq_getElem hlt, Option.map_some]
  unfold collect
  rw [List.filterMap_congr hfound, filterMap_range_getElem?]

/-- How the work is spread makes no difference to the results. -/
theorem execute_eq_map (s : Strategy) (machine : Machine) (work : α → β) (items : List α) :
    s.execute machine work items = items.map work := by
  cases s with
  | sequential => rfl
  | parallel n =>
    rw [execute]
    split
    · exact collect_complete (Schedule.completion_perm _)
    · rfl

end Strategy

end ConstantScan
