import ConstantScan.Value

/-!
# Merging values

Of two values the upper one counts; only dictionaries are merged key by key. The keys of a merged
dictionary ascend if those of the lower one do.
-/

namespace ConstantScan

mutual

/-- `lower` with `upper` over it. -/
def Value.merge (lower upper : Value) : Value :=
  match upper with
  | .dict es =>
    match lower with
    | .dict ls => .dict (Dict.mergeEntries ls es)
    | _ => .dict (Dict.mergeEntries [] es)
  | v => v

def Dict.mergeEntries (lower : Dict) (upper : List (String × Value)) : Dict :=
  match upper with
  | [] => lower
  | (k, v) :: es =>
    let merged := Value.merge ((Dict.get? k lower).getD .null) v
    Dict.mergeEntries (Dict.insert k merged lower) es

end

def Dict.merge (lower upper : Dict) : Dict := Dict.mergeEntries lower upper

theorem Dict.merge_nil (d : Dict) : Dict.merge d [] = d := by
  simp [Dict.merge, Dict.mergeEntries]

def Value.at? (v : Value) : List String → Option Value
  | [] => some v
  | k :: ks =>
    match v with
    | .dict es => (Dict.get? k es).bind (·.at? ks)
    | _ => none

/-- A dictionary that sets one key path. -/
def Value.nest (keys : List String) (v : Value) : Value :=
  match keys with
  | [] => v
  | k :: ks => .dict [(k, nest ks v)]

end ConstantScan
