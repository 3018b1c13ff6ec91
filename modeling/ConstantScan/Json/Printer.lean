import ConstantScan.Value

/-! # Writing JSON -/

namespace ConstantScan.Json

def hexDigit (n : Nat) : Char :=
  if n < 10 then Char.ofNat ('0'.toNat + n) else Char.ofNat ('a'.toNat + (n - 10))

/-- A character inside quotes. Controls are escaped, all else but the quote and backslash is not. -/
def escapeChar (c : Char) : List Char :=
  match c with
  | '"' => ['\\', '"']
  | '\\' => ['\\', '\\']
  | '\n' => ['\\', 'n']
  | '\r' => ['\\', 'r']
  | '\t' => ['\\', 't']
  | '\x08' => ['\\', 'b']
  | '\x0c' => ['\\', 'f']
  | c =>
    if c.toNat < 0x20 then
      ['\\', 'u', '0', '0', hexDigit (c.toNat / 16), hexDigit (c.toNat % 16)]
    else [c]

def quote (s : String) : String :=
  "\"" ++ String.ofList (s.toList.flatMap escapeChar) ++ "\""

def numberText : Number → String
  | .signed i => toString i
  | .unsigned n => toString n
  | .float x => x.marked

/-- The start of a line, two blanks for each open list or object. -/
def indent (depth : Nat) : String := String.ofList (List.replicate (2 * depth) ' ')

/-- Items on lines of their own between two brackets. -/
def enclose (start stop : String) (depth : Nat) (lines : List String) : String :=
  if lines.isEmpty then start ++ stop
  else
    start ++ "\n" ++ String.intercalate ",\n" (lines.map (indent (depth + 1) ++ ·)) ++ "\n" ++
      indent depth ++ stop

mutual

/-- A value whose first line is not indented. -/
def pretty (depth : Nat) : Value → String
  | .null => "null"
  | .bool b => if b then "true" else "false"
  | .number n => numberText n
  | .string s => quote s
  | .char c => quote (String.singleton c)
  | .list vs => enclose "[" "]" depth (prettyItems (depth + 1) [] vs)
  | .dict es => enclose "\x7b" "\x7d" depth (prettyMembers (depth + 1) [] es)

/-- The items after those in `acc`, which holds them last one first. -/
def prettyItems (depth : Nat) (acc : List String) : List Value → List String
  | [] => acc.reverse
  | v :: vs => prettyItems depth (pretty depth v :: acc) vs

def prettyMembers (depth : Nat) (acc : List String) : List (String × Value) → List String
  | [] => acc.reverse
  | (k, v) :: es => prettyMembers depth ((quote k ++ ": " ++ pretty depth v) :: acc) es

end

end ConstantScan.Json
