import ConstantScan.Proofs.ConfigFields
import Mathlib

/-!
# Configurations read back from values

What a configuration is written from reads as that configuration, in whatever order the keys come and
whichever kind of number a format has.
-/

namespace ConstantScan

open Read

mutual

/-- A value as a reader gives it back: the keys ascend, and whole numbers are of one kind. -/
def Value.readBack (number : Nat → Number) : Value → Value
  | .number (.unsigned n) => .number (number n)
  | .list vs => .list (Value.readBackItems number vs)
  | .dict es => .dict (Dict.ofList (Dict.readBackEntries number es))
  | v => v

def Value.readBackItems (number : Nat → Number) : List Value → List Value
  | [] => []
  | v :: vs => v.readBack number :: Value.readBackItems number vs

def Dict.readBackEntries (number : Nat → Number) :
    List (String × Value) → List (String × Value)
  | [] => []
  | (k, v) :: es => (k, v.readBack number) :: Dict.readBackEntries number es

end

theorem Value.readBack_bool (number : Nat → Number) (b : Bool) :
    (bool b).readBack number = .bool b := rfl

theorem Value.readBack_string (number : Nat → Number) (s : String) :
    (string s).readBack number = .string s := rfl

theorem Value.readBack_unsigned (number : Nat → Number) (n : Nat) :
    (Value.number (.unsigned n)).readBack number = .number (number n) := rfl

theorem Value.readBack_list (number : Nat → Number) (vs : List Value) :
    (list vs).readBack number = .list (readBackItems number vs) := rfl

theorem Value.readBack_dict (number : Nat → Number) (es : List (String × Value)) :
    (dict es).readBack number = .dict (Dict.ofList (Dict.readBackEntries number es)) := rfl

theorem Value.readBackItems_eq_map (number : Nat → Number) (vs : List Value) :
    readBackItems number vs = vs.map (readBack number) := by
  induction vs with
  | nil => rfl
  | cons v vs ih => exact congrArg (v.readBack number :: ·) ih

theorem Dict.readBackEntries_cons (number : Nat → Number) (key : String) (v : Value)
    (es : List (String × Value)) : readBackEntries number ((key, v) :: es) =
      (key, v.readBack number) :: readBackEntries number es := rfl

theorem Dict.readBackEntries_eq_map (number : Nat → Number) (es : List (String × Value)) :
    readBackEntries number es = es.map fun e => (e.1, e.2.readBack number) := by
  induction es with
  | nil => rfl
  | cons e es ih =>
    obtain ⟨k, v⟩ := e
    rw [readBackEntries_cons, ih, List.map_cons]

theorem Dict.map_fst_readBackEntries (number : Nat → Number) (es : List (String × Value)) :
    (readBackEntries number es).map Prod.fst = es.map Prod.fst := by
  rw [readBackEntries_eq_map, List.map_map]
  rfl

theorem Dict.get?_readBackEntries (number : Nat → Number) (es : List (String × Value))
    (key : String) :
    get? key (readBackEntries number es) = (get? key es).map (Value.readBack number) := by
  induction es with
  | nil => rfl
  | cons e es ih =>
    obtain ⟨k, v⟩ := e
    rw [readBackEntries_cons, get?, get?, ih]
    split <;> rfl

theorem Dict.get?_ofList_readBackEntries (number : Nat → Number) {es : List (String × Value)}
    (h : (es.map Prod.fst).Nodup) (key : String) :
    get? key (ofList (readBackEntries number es)) = (get? key es).map (Value.readBack number) := by
  rw [get?_ofList (by rwa [map_fst_readBackEntries]), get?_readBackEntries]

/-! ## Leaves and lists -/

namespace Read

theorem items_eq_ok {α : Type} {read : Read α} {vs : List Value} {xs : List α}
    (h : List.Forall₂ (fun v x => read v = .ok x) vs xs) (index : Nat) (acc : List α) :
    items read index acc vs = .ok (acc.reverse ++ xs) := by
  induction h generalizing index acc with
  | nil => simp [items]
  | cons hv _ ih => simp [items, hv, ih]

theorem list_map_eq_ok {α : Type} {read : Read α} {xs : List α} {value : α → Value}
    (h : ∀ x ∈ xs, read (value x) = .ok x) : list read (.list (xs.map value)) = .ok xs := by
  have hread : List.Forall₂ (fun v x => read v = .ok x) (xs.map value) xs := by
    rw [List.forall₂_map_left_iff, List.forall₂_same]
    exact h
  rw [list, items_eq_ok hread, List.reverse_nil, List.nil_append]

theorem whole_number (kind : String) {top : Nat} {n : Number} {m : Nat}
    (hn : n.toInt? = some (m : Int)) (hm : m ≤ top) : whole kind top (.number n) = .ok m := by
  simp [whole, hn, hm]

end Read

section

variable (number : Nat → Number)

theorem Value.isDict_readBack (v : Value) : (v.readBack number).isDict = v.isDict := by
  cases v with
  | number n => cases n <;> rfl
  | null | bool | string | char | list | dict => rfl

theorem bool_readBack (b : Bool) : bool ((Value.bool b).readBack number) = .ok b := rfl

theorem ScanMode.read_readBack (s : Strictness) (m : ScanMode) :
    read s ((Value.string m.name).readBack number) = .ok m := by
  rw [Value.readBack_string]
  cases m <;> rfl

theorem list_string_readBack (ss : List String) :
    list string ((Value.strings ss).readBack number) = .ok ss := by
  rw [Value.strings, Value.readBack_list, Value.readBackItems_eq_map, List.map_map]
  exact list_map_eq_ok fun s _ => rfl

theorem TargetEntry.read_readBack (s : Strictness) (t : TargetEntry) :
    read s (t.value.readBack number) = .ok t := by
  rw [value, Value.readBack_dict]
  have hnodup : ((textEntry "label" t.label ++ [("path", Value.string t.path)]).map
      Prod.fst).Nodup := by
    cases t.label <;> simp [textEntry]
  refine read_dict (Dict.ascending_ofList _).nodup ?_ ?_ <;>
    rw [Dict.get?_ofList_readBackEntries number hnodup]
  · cases t.label <;> simp [textEntry, Dict.get?, Value.readBack_string]
  · cases t.label <;> simp [textEntry, Dict.get?, Value.readBack_string]

theorem CustomRule.read_readBack (s : Strictness) (c : CustomRule) :
    read s (c.value.readBack number) = .ok c := by
  rw [value, Value.readBack_dict]
  refine read_dict (Dict.ascending_ofList _).nodup ?_ ?_ ?_ ?_ ?_ <;>
    rw [Dict.get?_ofList_readBackEntries number (by simp)] <;>
    simp [Dict.get?, Value.readBack_string, Value.readBack_bool]

theorem list_target_readBack (s : Strictness) (ts : List TargetEntry) :
    list (TargetEntry.read s) ((Value.list (ts.map TargetEntry.value)).readBack number) =
      .ok ts := by
  rw [Value.readBack_list, Value.readBackItems_eq_map, List.map_map]
  exact list_map_eq_ok fun t _ => TargetEntry.read_readBack number s t

theorem list_rule_readBack (s : Strictness) (cs : List CustomRule) :
    list (CustomRule.read s) ((Value.list (cs.map CustomRule.value)).readBack number) = .ok cs := by
  rw [Value.readBack_list, Value.readBackItems_eq_map, List.map_map]
  exact list_map_eq_ok fun c _ => CustomRule.read_readBack number s c

end

/-! ## Whole configurations -/

/-- Each number fits the type of its field. -/
structure ScanSettings.Fits (c : ScanSettings) : Prop where
  maxFileSizeMb : c.maxFileSizeMb ≤ UInt64.size - 1
  maxThreads : c.maxThreads ≤ UInt64.size - 1
  threadPercentage : c.threadPercentage ≤ 255
  minFilesForParallel : c.minFilesForParallel ≤ UInt64.size - 1

theorem shown_entry {number : Nat → Number} {es : List (String × Value)} {key : String} {v : Value}
    {α : Type} {read : Read α} {x : α} (hnodup : (es.map Prod.fst).Nodup)
    (hget : Dict.get? key es = some v) (hdict : v.isDict = false)
    (hread : read (v.readBack number) = .ok x) :
    ∃ w, Dict.get? key (Dict.ofList (Dict.readBackEntries number es)) = some w ∧
      w.isDict = false ∧ read w = .ok x := by
  refine ⟨_, ?_, (v.isDict_readBack number).trans hdict, hread⟩
  rw [Dict.get?_ofList_readBackEntries number hnodup, hget]
  rfl

section

variable {number : Nat → Number} (hnumber : ∀ n : Nat, (number n).toInt? = some (n : Int))
include hnumber

theorem natural_readBack (kind : String) {top n : Nat} (h : n ≤ top) :
    whole kind top ((Value.natural n).readBack number) = .ok n := whole_number kind (hnumber n) h

theorem ScanSettings.shown_readBack (s : Strictness) {c : ScanSettings} (h : c.Fits) :
    ∃ es : Dict, c.value.readBack number = .dict es ∧ es.Ascending ∧
      RecordField.Shown (recordFields s) es c := by
  obtain ⟨hsize, hthreads, hpercentage, hfiles⟩ := h
  rw [value, Value.readBack_dict]
  refine ⟨_, rfl, Dict.ascending_ofList _, ?_⟩
  simp only [RecordField.Shown, recordFields, List.forall_mem_cons]
  refine ⟨shown_entry ?_ ?_ ?_ (list_string_readBack number c.extensions),
    shown_entry ?_ ?_ ?_ (list_string_readBack number c.excludeDirs),
    shown_entry ?_ ?_ ?_ (list_string_readBack number c.ignorePaths),
    shown_entry ?_ ?_ ?_ (bool_readBack number c.followSymlinks),
    shown_entry ?_ ?_ ?_ (bool_readBack number c.respectGitignore),
    shown_entry ?_ ?_ ?_ (bool_readBack number c.skipBinaryFiles),
    shown_entry ?_ ?_ ?_ (natural_readBack hnumber "usize" hsize),
    shown_entry ?_ ?_ ?_ (ScanMode.read_readBack number s c.mode),
    shown_entry ?_ ?_ ?_ (natural_readBack hnumber "usize" hthreads),
    shown_entry ?_ ?_ ?_ (natural_readBack hnumber "u8" hpercentage),
    shown_entry ?_ ?_ ?_ (natural_readBack hnumber "usize" hfiles), by simp⟩
  all_goals first
    | rfl
    | simp

variable (number) in
omit hnumber in
theorem RuleSettings.shown_readBack (s : Strictness) (c : RuleSettings) :
    ∃ es : Dict, c.value.readBack number = .dict es ∧ es.Ascending ∧
      RecordField.Shown (recordFields s) es c := by
  rw [value, Value.readBack_dict]
  refine ⟨_, rfl, Dict.ascending_ofList _, ?_⟩
  simp only [RecordField.Shown, recordFields, List.forall_mem_cons]
  refine ⟨shown_entry ?_ ?_ ?_ (list_string_readBack number c.disabled),
    shown_entry ?_ ?_ ?_ (list_rule_readBack number s c.custom), by simp⟩
  all_goals first
    | rfl
    | simp

/-- What is read back from the values of a configuration shows that configuration. -/
theorem Config.shownBy_readBack (s : Strictness) {c : Config} (h : c.scanner.Fits) :
    c.ShownBy s (Dict.ofList (Dict.readBackEntries number c.entries)) := by
  have hnodup : (c.entries.map Prod.fst).Nodup := by
    cases hdir : c.baseDir <;> simp [entries, textEntry, hdir]
  have hget (key : String) : Dict.get? key (Dict.ofList (Dict.readBackEntries number c.entries)) =
      (Dict.get? key c.entries).map (Value.readBack number) :=
    Dict.get?_ofList_readBackEntries number hnodup key
  have hentries (key : String) (hkey : "base_dir" ≠ key) : Dict.get? key c.entries =
      Dict.get? key [("targets", .list (c.targets.map TargetEntry.value)),
        ("scanner", c.scanner.value), ("patterns", c.patterns.value)] := by
    cases hdir : c.baseDir <;> simp [entries, textEntry, hdir, Dict.get?, hkey]
  refine ⟨Dict.ascending_ofList _, ?_, ?_, ?_, ?_⟩
  · rw [hget]
    cases hdir : c.baseDir <;> simp [entries, textEntry, hdir, Dict.get?, Value.readBack_string]
  · refine ⟨_, by simp [hget, hentries, Dict.get?], ?_, list_target_readBack number s c.targets⟩
    rw [Value.isDict_readBack]
    rfl
  · obtain ⟨es, hes, hascending, hshown⟩ := ScanSettings.shown_readBack hnumber s h
    exact ⟨es, by simp [hget, hentries, Dict.get?, hes], hascending, hshown⟩
  · obtain ⟨es, hes, hascending, hshown⟩ := RuleSettings.shown_readBack number s c.patterns
    exact ⟨es, by simp [hget, hentries, Dict.get?, hes], hascending, hshown⟩

end

end ConstantScan
