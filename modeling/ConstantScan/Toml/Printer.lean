import ConstantScan.Toml.Parser

/-! # Writing TOML -/

namespace ConstantScan.Toml

/-! ## Strings

A string takes the first of the forms that it fits: in one pair of double quotes, in single ones, in
three double ones and in three single ones, always without escapes. The rest is escaped. -/

def longestRun (c : Char) (cs : List Char) : Nat :=
  (cs.foldl (fun (run, most) d => if d = c then (run + 1, max most (run + 1)) else (0, most))
    (0, 0)).2

def needsEscapes (cs : List Char) : Bool := cs.any fun c => isControl c && c != '\n'

def hexDigit (n : Nat) : Char :=
  if n < 10 then Char.ofNat ('0'.toNat + n) else Char.ofNat ('A'.toNat + (n - 10))

def numberEscape (n : Nat) : List Char :=
  ['\\', 'u'] ++ [n / 4096 % 16, n / 256 % 16, n / 16 % 16, n % 16].map hexDigit

/-- The characters between the quotes. With `lines` a newline stands for itself, and so do up to two
double quotes in a row; `quotes` counts those just written. -/
def escapeChars (lines : Bool) (quotes : Nat) : List Char → List Char
  | [] => []
  | c :: cs =>
    match c with
    | '"' =>
      if lines && quotes < 2 then '"' :: escapeChars lines (quotes + 1) cs
      else '\\' :: '"' :: escapeChars lines 0 cs
    | '\\' => '\\' :: '\\' :: escapeChars lines 0 cs
    | '\x08' => '\\' :: 'b' :: escapeChars lines 0 cs
    | '\t' => '\\' :: 't' :: escapeChars lines 0 cs
    | '\n' =>
      if lines then '\n' :: escapeChars lines 0 cs else '\\' :: 'n' :: escapeChars lines 0 cs
    | '\x0c' => '\\' :: 'f' :: escapeChars lines 0 cs
    | '\r' => '\\' :: 'r' :: escapeChars lines 0 cs
    | c =>
      if isControl c then numberEscape c.toNat ++ escapeChars lines 0 cs
      else c :: escapeChars lines 0 cs

/-- A newline follows the opening quotes if the string has one. -/
def opening (quotes : String) (cs : List Char) : String :=
  if cs.contains '\n' then quotes ++ "\n" else quotes

def basicText (cs : List Char) : String := "\"" ++ String.ofList (escapeChars false 0 cs) ++ "\""

def basicLines (cs : List Char) : String :=
  opening "\"\"\"" cs ++ String.ofList (escapeChars true 0 cs) ++ "\"\"\""

def quote (s : String) : String :=
  let cs := s.toList
  let clean := !needsEscapes cs
  let plain := clean && !cs.contains '\\'
  let newline := cs.contains '\n'
  if plain && !cs.contains '"' && !newline then basicText cs
  else if clean && !cs.contains '\'' && !newline then "'" ++ s ++ "'"
  else if plain && longestRun '"' cs ≤ 2 then basicLines cs
  else if clean && longestRun '\'' cs ≤ 2 then opening "'''" cs ++ s ++ "'''"
  else if newline then basicLines cs
  else basicText cs

/-! ## Values -/

def keyText (k : String) : String :=
  if !k.isEmpty && k.toList.all isBareKey then k else basicText k.toList

/-- A value that is no table; nothing for what has no written form. -/
def leaf? : Value → Option String
  | .bool b => some (if b then "true" else "false")
  | .number (.signed i) => some (toString i)
  | .number (.unsigned n) => some (toString n)
  | .number (.float x) => some x.marked
  | .string s => some (quote s)
  | .char c => some (quote (String.singleton c))
  | _ => none

/-- An array of leaves; more than one are written on lines of their own. -/
def array? (vs : List Value) : Option String :=
  (vs.mapM leaf?).map fun texts =>
    match texts with
    | [] => "[]"
    | [t] => "[" ++ t ++ "]"
    | ts => "[\n" ++ String.join (ts.map ("    " ++ · ++ ",\n")) ++ "]"

def isTable : Value → Bool
  | .dict _ => true
  | _ => false

/-- Whether a value is written under headers of its own. -/
def hasHeader : Value → Bool
  | .dict _ => true
  | .list vs => !vs.isEmpty && vs.all isTable
  | _ => false

def lineOf? (entry : String × Value) : Option String :=
  let text := match entry.2 with
    | .list vs => array? vs
    | v => leaf? v
  text.map fun t => keyText entry.1 ++ " = " ++ t ++ "\n"

/-! ## Documents -/

mutual

/-- A table with its header and the tables inside it, each as a block of lines. -/
def tableBlocks? (header : String) (path : String) (es : List (String × Value)) :
    Option (List String) := do
  let lines ← (es.filter fun e => !hasHeader e.2).mapM lineOf?
  let inner ← innerBlocks? path es
  let own := header ++ String.join lines
  return if own.isEmpty then inner else own :: inner

def innerBlocks? (path : String) : List (String × Value) → Option (List String)
  | [] => some []
  | (k, .dict es) :: rest => do
    let inner := path ++ keyText k
    let blocks ← tableBlocks? ("[" ++ inner ++ "]\n") (inner ++ ".") es
    return blocks ++ (← innerBlocks? path rest)
  | (k, .list vs) :: rest => do
    let blocks ← if hasHeader (.list vs) then itemBlocks? (path ++ keyText k) vs else some []
    return blocks ++ (← innerBlocks? path rest)
  | _ :: rest => innerBlocks? path rest

def itemBlocks? (path : String) : List Value → Option (List String)
  | [] => some []
  | .dict es :: rest => do
    let blocks ← tableBlocks? ("[[" ++ path ++ "]]\n") (path ++ ".") es
    return blocks ++ (← itemBlocks? path rest)
  | _ :: rest => itemBlocks? path rest

end

/-- A document with these entries; an empty line stands in front of each header. -/
def print? (es : List (String × Value)) : Option String :=
  (tableBlocks? "" "" es).map (String.intercalate "\n")

end ConstantScan.Toml
