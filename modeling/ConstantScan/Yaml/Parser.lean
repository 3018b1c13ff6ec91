import ConstantScan.Number.Decimal
import ConstantScan.Value
import ConstantScan.Yaml.Node

/-! # Reading YAML -/

namespace ConstantScan.Yaml

open Unicode (Runs)

/-! ## Plain scalars -/

def isNull (s : String) : Bool := ["null", "Null", "NULL", "~"].contains s

def bool? (s : String) : Option Bool :=
  if ["true", "True", "TRUE"].contains s then some true
  else if ["false", "False", "FALSE"].contains s then some false
  else none

/-- More digits after a zero make a text. -/
def hasLeadingZero (cs : List Char) : Bool :=
  match (Decimal.splitSign cs).2 with
  | '0' :: c :: rest => (c :: rest).all Char.isDigit
  | _ => false

def digitsTo? (base : Nat) (cs : List Char) : Option Nat :=
  if cs.isEmpty then none
  else
    cs.foldlM
      (fun n c => (Runs.hexDigit? c).bind fun d => if d < base then some (n * base + d) else none) 0

/-- A whole number after its sign. -/
def magnitude? (cs : List Char) : Option Nat :=
  match cs with
  | '0' :: 'x' :: rest => digitsTo? 16 rest
  | '0' :: 'o' :: rest => digitsTo? 8 rest
  | '0' :: 'b' :: rest => digitsTo? 2 rest
  | cs => digitsTo? 10 cs

/-- Numbers may have a sign and up to 128 bits. -/
def whole? (cs : List Char) : Option Number :=
  if hasLeadingZero cs then none
  else
    match cs with
    | '-' :: rest =>
      (magnitude? rest).bind fun n =>
        if n ≤ Nat.pow 2 127 then some (.signed (-(n : Int))) else none
    | '+' :: rest => (magnitude? rest).bind unsigned?
    | cs => (magnitude? cs).bind unsigned?
where
  unsigned? (n : Nat) : Option Number := if n < Nat.pow 2 128 then some (.unsigned n) else none

def real? (cs : List Char) : Option Double :=
  let s := String.ofList cs
  let signless := match cs with
    | '+' :: rest => String.ofList rest
    | _ => s
  if [".inf", ".Inf", ".INF"].contains signless then some .infinity
  else if ["-.inf", "-.Inf", "-.INF"].contains s then some Double.infinity.negate
  else if [".nan", ".NaN", ".NAN"].contains s then some .nan
  else (Decimal.read? cs).filter fun x => !x.isInfinite

def plainValue (s : String) : Value :=
  let cs := s.toList
  if s.isEmpty || isNull s then .null
  else
    match bool? s with
    | some b => .bool b
    | none =>
      match whole? cs with
      | some n => .number n
      | none =>
        if hasLeadingZero cs then .string s
        else
          match real? cs with
          | some x => .number (.float x)
          | none => .string s

/-! ## Nodes -/

/-- A tag of one's own has no meaning here. -/
def isLocal (tag : Option String) : Bool := tag.any fun t => t.toList.head? == some '!'

def coreTag (name : String) : Option String := some ("tag:yaml.org,2002:" ++ name)

def scalarValue? (tag : Option String) (text : String) (plain : Bool) : Option Value :=
  if isLocal tag then none
  else if tag = coreTag "bool" then (bool? text).map .bool
  else if tag = coreTag "int" then (whole? text.toList).map .number
  else if tag = coreTag "float" then (real? text.toList).map fun x => .number (.float x)
  else if tag = coreTag "null" then if isNull text then some .null else none
  else if plain && tag.isNone then some (plainValue text)
  else some (.string text)

def maxDepth : Nat := 128

mutual

/-- The value of a node; `room` is how deep collections may still be nested. -/
def value? (room : Nat) : Node → Option Value
  | .scalar tag text plain => scalarValue? tag text plain
  | .sequence tag items =>
    match room with
    | 0 => none
    | room + 1 => if isLocal tag then none else (itemValues? room items).map .list
  | .mapping tag entries =>
    match room with
    | 0 => none
    | room + 1 =>
      if isLocal tag then none else (entryValues? room entries).map fun es => .dict (Dict.ofList es)

def itemValues? (room : Nat) : List Node → Option (List Value)
  | [] => some []
  | n :: ns => do return (← value? room n) :: (← itemValues? room ns)

/-- The key of an entry is a text, whatever it looks like. -/
def entryValues? (room : Nat) : List (Node × Node) → Option (List (String × Value))
  | [] => some []
  | (.scalar _ key _, n) :: rest => do return (key, ← value? room n) :: (← entryValues? room rest)
  | _ => none

end

/-- The entries of a document, or nothing if it is malformed or no mapping. -/
def parse (text : String) : Option Dict := do
  match ← Node.ofTokens? (← tokens? text) with
  | none => return []
  | some (.scalar _ "" true) => return []
  | some (.mapping _ entries) => return Dict.ofList (← entryValues? (maxDepth - 1) entries)
  | some _ => none

end ConstantScan.Yaml
