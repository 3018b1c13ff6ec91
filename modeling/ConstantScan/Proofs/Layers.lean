import ConstantScan.Config.Load
import ConstantScan.Proofs.Dicts
import Mathlib

/-!
# What layers set

What a value that lies over others does at a key path, and what is seen at a key path of merged
layers: what the highest layer says that says anything.
-/

namespace ConstantScan

/-! ## Settings of values -/

inductive Setting
  | leaf (v : Value)
  | dict
  /-- It has something else than a dictionary on the way. -/
  | hidden

mutual

def Value.setting? : Value → List String → Option Setting
  | .dict _, [] => some .dict
  | .dict es, k :: ks => Dict.setting? es k ks
  | v, [] => some (.leaf v)
  | _, _ :: _ => some .hidden

/-- Of two entries with one key the later one lies over the other. -/
def Dict.setting? (es : List (String × Value)) (key : String) (keys : List String) :
    Option Setting :=
  match es with
  | [] => none
  | (k, v) :: es => (Dict.setting? es key keys).or (if k = key then v.setting? keys else none)

end

def Setting.Seen : Option Setting → Option Value → Prop
  | some (.leaf v), found => found = some v
  | some .dict, found => ∃ es, found = some (.dict es)
  | some .hidden, found => found = none
  | none, found => found = none

open Setting

mutual

theorem Value.seen_merge (lower : Option Value) (upper : Value) (path : List String)
    {s : Option Setting} (h : Seen s (lower.bind (·.at? path))) :
    Seen ((upper.setting? path).or s) ((Value.merge (lower.getD .null) upper).at? path) := by
  match upper, path with
  | .dict es, [] => exact ⟨_, congrArg some (Value.merge_dict _ es)⟩
  | .dict es, k :: ks =>
    rw [Value.setting?, Value.merge_dict, Value.at?_cons]
    refine Dict.seen_mergeEntries _ es k ks ?_
    rw [← Value.at?_cons]
    cases lower <;> exact h
  | .null, [] | .bool _, [] | .number _, [] | .string _, [] | .char _, [] | .list _, [] => rfl
  | .null, _ :: _ | .bool _, _ :: _ | .number _, _ :: _ | .string _, _ :: _ | .char _, _ :: _
  | .list _, _ :: _ => rfl

theorem Dict.seen_mergeEntries (lower : Dict) (es : List (String × Value)) (key : String)
    (keys : List String) {s : Option Setting}
    (h : Seen s ((Dict.get? key lower).bind (·.at? keys))) :
    Seen ((Dict.setting? es key keys).or s)
      ((Dict.get? key (Dict.mergeEntries lower es)).bind (·.at? keys)) := by
  match es with
  | [] => exact h
  | (k, v) :: es =>
    rw [Dict.setting?, Dict.mergeEntries, Option.or_assoc]
    refine Dict.seen_mergeEntries _ es key keys ?_
    by_cases hk : k = key
    · subst hk
      rw [if_pos rfl, Dict.get?_insert_self]
      exact Value.seen_merge (Dict.get? k lower) v keys h
    · rw [if_neg hk, Dict.get?_insert_of_ne (Ne.symm hk)]
      exact h

end

theorem Dict.seen_merge (lower upper : Dict) (path : List String) {s : Option Setting}
    (h : Seen s ((Value.dict lower).at? path)) :
    Seen (((Value.dict upper).setting? path).or s)
      ((Value.dict (Dict.merge lower upper)).at? path) := by
  have hmerge := Value.seen_merge (some (.dict lower)) (.dict upper) path h
  rwa [Option.getD_some, Value.merge_dict] at hmerge

/-! ## Merged layers -/

theorem mergeLayers_map_ok (layers : List Dict) :
    mergeLayers (layers.map .ok) = .ok (layers.foldl Dict.merge []) := by
  rw [mergeLayers]
  generalize ([] : Dict) = lower
  induction layers generalizing lower with
  | nil => rfl
  | cons d layers ih => exact ih (Dict.merge lower d)

end ConstantScan
