import ConstantScan.Config.Merge
import ConstantScan.Number.Decimal
import ConstantScan.Unicode.Blank

/-!
# Settings from variables

A variable sets the key path in its name. Its text is read as a value; one that cannot be read is
that text.
-/

namespace ConstantScan.Variable

/-! ## Texts of values -/

def isSpace (c : Char) : Bool := c == ' ' || c == '\t' || c == '\n' || c == '\x0c' || c == '\r'

def skipSpaces (cs : List Char) : List Char := cs.dropWhile isSpace

def isKeyChar (c : Char) : Bool := c.isAlphanum || c == '_' || c == '-'

def isSeparator (c : Char) : Bool :=
  c == ',' || c == '\x7b' || c == '\x7d' || c == '[' || c == ']'

/-- The inside of a string up to its closing quote; `acc` holds what is read, last first. -/
def stringBody (acc : List Char) : List Char → Option (String × List Char)
  | [] => none
  | '"' :: rest => some (String.ofList acc.reverse, rest)
  | '\\' :: c :: rest =>
    let c := match c with
      | 'n' => '\n'
      | 'r' => '\r'
      | 't' => '\t'
      | c => c
    stringBody (c :: acc) rest
  | c :: rest => stringBody (c :: acc) rest

def string? : List Char → Option (String × List Char)
  | '"' :: rest => stringBody [] rest
  | _ => none

def key? (cs : List Char) : Option (String × List Char) :=
  match string? cs with
  | some r => some r
  | none =>
    let key := cs.takeWhile isKeyChar
    if key.isEmpty || cs.head? == some '"' then none
    else some (String.ofList key, cs.drop key.length)

/-- A bare word: a number, or a text. -/
def bare (word : List Char) : Value :=
  let real := if word.contains '.' then Decimal.read? word else none
  let unsigned := Decimal.natural? (match word with
    | '+' :: rest => rest
    | cs => cs)
  let negative := match word with
    | '-' :: rest => Decimal.natural? rest
    | _ => none
  match real, unsigned, negative with
  | some x, _, _ => .number (.float x)
  | none, some n, _ =>
    if n < UInt64.size then .number (.unsigned n) else .string (String.ofList word)
  | none, none, some n =>
    if n ≤ Nat.pow 2 63 then .number (.signed (-(n : Int))) else .string (String.ofList word)
  | none, none, none => .string (String.ofList word)

mutual

def value? : (fuel : Nat) → List Char → Option (Value × List Char)
  | 0, _ => none
  | fuel + 1, cs =>
    let read : Option (Value × List Char) :=
      match skipSpaces cs with
      | 't' :: 'r' :: 'u' :: 'e' :: rest => some (.bool true, rest)
      | 'f' :: 'a' :: 'l' :: 's' :: 'e' :: rest => some (.bool false, rest)
      | '\x7b' :: rest =>
        (entries? [] fuel rest).map fun (es, rest) => (.dict (Dict.ofList es), rest)
      | '[' :: rest => (items? [] fuel rest).map fun (vs, rest) => (.list vs, rest)
      | '"' :: rest => (stringBody [] rest).map fun (s, rest) => (.string s, rest)
      | '\'' :: c :: '\'' :: rest => some (.char c, rest)
      | '\'' :: _ => none
      | cs =>
        let word := cs.takeWhile fun c => !isSeparator c
        some (bare (Unicode.trim word), cs.drop word.length)
    read.map fun (v, rest) => (v, skipSpaces rest)

/-- The items of a list up to its end; `acc` holds those before, last one first. -/
def items? (acc : List Value) : (fuel : Nat) → List Char → Option (List Value × List Char)
  | 0, _ => none
  | fuel + 1, cs =>
    match cs with
    | ']' :: rest => some (acc.reverse, rest)
    | cs =>
      match value? fuel cs with
      | some (v, ',' :: rest) => items? (v :: acc) fuel rest
      | some (v, ']' :: rest) => some ((v :: acc).reverse, rest)
      | _ => none

def entries? (acc : List (String × Value)) : (fuel : Nat) → List Char →
    Option (List (String × Value) × List Char)
  | 0, _ => none
  | fuel + 1, cs =>
    match cs with
    | '\x7d' :: rest => some (acc.reverse, rest)
    | cs =>
      match key? (skipSpaces cs) with
      | none => none
      | some (k, rest) =>
        match skipSpaces rest with
        | '=' :: rest =>
          match value? fuel rest with
          | some (v, ',' :: rest) => entries? ((k, v) :: acc) fuel rest
          | some (v, '\x7d' :: rest) => some (((k, v) :: acc).reverse, rest)
          | _ => none
        | _ => none

end

def value (text : String) : Value :=
  let cs := text.toList
  match value? (2 * cs.length + 2) cs with
  | some (v, []) => v
  | _ => .string text

/-! ## Names -/

def start : String := "PRECISION_SCAN_"

/-- Two underscores divide keys, as a dot does. -/
def splitKeys (current : List Char) : List Char → List (List Char)
  | [] => [current.reverse]
  | '_' :: '_' :: cs => current.reverse :: splitKeys [] cs
  | '.' :: cs => current.reverse :: splitKeys [] cs
  | c :: cs => splitKeys (c :: current) cs

/-- The key path in a name, whose letters may be of either case. -/
def keys? (name : String) : Option (List String) :=
  let cs := Unicode.trim name.toList
  let count := start.length
  if (cs.take count).map Char.toUpper = start.toList then
    let keys := splitKeys [] (cs.drop count)
    if keys.any List.isEmpty then none
    else some (keys.map fun k => String.ofList (k.map Char.toLower))
  else none

/-- What the variables set, each over those before it. -/
def layer (vars : List (String × String)) : Dict :=
  vars.foldl
    (fun d (name, text) =>
      match keys? name with
      | some (k :: ks) => Dict.merge d [(k, Value.nest ks (value text))]
      | _ => d)
    []

end ConstantScan.Variable
