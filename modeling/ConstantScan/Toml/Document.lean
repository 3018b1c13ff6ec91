import ConstantScan.Value

/-!
# Tables of a TOML document

A document is read line by line into tables. How a table came about decides what may still be added
to it.
-/

namespace ConstantScan.Toml

/-- How a table came about. -/
inductive Form
  /-- By a header of its own. -/
  | headed
  /-- By the header of a table inside it. -/
  | implied
  /-- By a dotted key. -/
  | dotted
  deriving DecidableEq, Repr

inductive Item
  | value (v : Value)
  | table (form : Form) (entries : List (String × Item))
  /-- An array of tables, the last table first. -/
  | tables (last : List (String × Item)) (earlier : List (List (String × Item)))
  deriving Repr

abbrev Entries := List (String × Item)

namespace Entries

def get? (key : String) : Entries → Option Item
  | [] => none
  | (k, i) :: rest => if k = key then some i else get? key rest

/-- Replaces the item of a key or adds it as the last. -/
def set (key : String) (item : Item) : Entries → Entries
  | [] => [(key, item)]
  | (k, i) :: rest => if k = key then (key, item) :: rest else (k, i) :: set key item rest

/-- Sets a key that may be dotted, `keys` being the part before its last dot. Only tables that
dotted keys made take new keys in this way. -/
def setDotted (es : Entries) (keys : List String) (key : String) (item : Item) :
    Option Entries :=
  match keys with
  | [] => if (get? key es).isSome then none else some (set key item es)
  | k :: ks =>
    match get? k es with
    | none => (setDotted [] ks key item).map fun inner => set k (.table .dotted inner) es
    | some (.table .dotted inner) =>
      (setDotted inner ks key item).map fun inner => set k (.table .dotted inner) es
    | some (.table .implied inner) =>
      if ks.isEmpty then none
      else
        (setDotted inner ks key item).map fun inner => set k (.table .implied inner) es
    | some (.tables last earlier) =>
      if ks.isEmpty then none
      else (setDotted last ks key item).map fun last => set k (.tables last earlier) es
    | _ => none

/-- Changes the entries at the end of the keys; of an array of tables the last table counts, and
tables that are missing are made. -/
def change (es : Entries) (keys : List String) (f : Entries → Option Entries) : Option Entries :=
  match keys with
  | [] => f es
  | k :: ks =>
    match get? k es with
    | none => (change [] ks f).map fun inner => set k (.table .implied inner) es
    | some (.table form inner) =>
      (change inner ks f).map fun inner => set k (.table form inner) es
    | some (.tables last earlier) =>
      (change last ks f).map fun last => set k (.tables last earlier) es
    | some (.value _) => none

def openTable (key : String) (es : Entries) : Option Entries :=
  match get? key es with
  | none => some (set key (.table .headed []) es)
  | some (.table .implied inner) => some (set key (.table .headed inner) es)
  | some _ => none

def pushTable (key : String) (es : Entries) : Option Entries :=
  match get? key es with
  | none => some (set key (.tables [] []) es)
  | some (.tables last earlier) => some (set key (.tables [] (last :: earlier)) es)
  | some _ => none

end Entries

mutual

def Item.toValue : Item → Value
  | .value v => v
  | .table _ es => .dict (Dict.ofList (entryValues es))
  | .tables last earlier => .list (tableValues [.dict (Dict.ofList (entryValues last))] earlier)

def entryValues : List (String × Item) → List (String × Value)
  | [] => []
  | (k, i) :: es => (k, i.toValue) :: entryValues es

def tableValues (acc : List Value) : List (List (String × Item)) → List Value
  | [] => acc
  | es :: rest => tableValues (.dict (Dict.ofList (entryValues es)) :: acc) rest

end

/-- A document in the middle of being read: what stands in it and the current table. -/
structure Document where
  entries : Entries := []
  current : List String := []

namespace Document

/-- The last key of a path and those before it. -/
def splitLast : List String → Option (List String × String)
  | [] => none
  | [k] => some ([], k)
  | k :: ks => (splitLast ks).map fun (front, last) => (k :: front, last)

def header? (d : Document) (keys : List String) (open_ : String → Entries → Option Entries) :
    Option Document := do
  let (front, last) ← splitLast keys
  let entries ← d.entries.change front (open_ last)
  return { entries, current := keys }

def tableHeader? (d : Document) (keys : List String) : Option Document :=
  d.header? keys Entries.openTable

def arrayHeader? (d : Document) (keys : List String) : Option Document :=
  d.header? keys Entries.pushTable

def set? (d : Document) (keys : List String) (v : Value) : Option Document := do
  let (front, last) ← splitLast keys
  let entries ← d.entries.change d.current fun es => es.setDotted front last (.value v)
  return { d with entries }

def toDict (d : Document) : Dict := Dict.ofList (entryValues d.entries)

end Document

end ConstantScan.Toml
