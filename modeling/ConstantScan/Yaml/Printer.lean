import ConstantScan.Value
import ConstantScan.Yaml.Cursor

/-! # Writing YAML -/

namespace ConstantScan.Yaml

/-! ## The form of a string -/

inductive Form
  | plain
  | single
  | double
  | literal
  deriving DecidableEq, Repr

/-- Words that some readers take for something else. -/
def specialWords : List String :=
  ["y", "yes", "n", "no", "on", "off", "true", "false", "null", "nan", "inf", "~"]

def isAmbiguous (cs : List Char) : Bool :=
  match cs with
  | [] => true
  | c :: _ =>
    c.isDigit || c == '-' || c == '.' || c == '+' ||
      specialWords.contains (String.ofList (cs.map Char.toLower))

def isPrintable (c : Char) : Bool :=
  let n := c.toNat
  c == '\n' || (0x20 ≤ n && n ≤ 0x7E) || (0xA0 ≤ n && n ≤ 0xFFFD && n ≠ 0xFEFF) || 0x10000 ≤ n

/-- What stands at the start, where a sign is taken for more than text. -/
def startsSpecially (cs : List Char) : Bool :=
  match cs with
  | '-' :: '-' :: '-' :: _ => true
  | '.' :: '.' :: '.' :: _ => true
  | c :: rest =>
    "#,[]\x7b\x7d&*!|>'\"%@`".toList.contains c ||
      ((c == '?' || c == ':' || c == '-') && rest.head?.all fun d => isBlank d || isBreak d)
  | [] => false

def hasPair (p q : Char → Bool) : List Char → Bool
  | a :: b :: rest => (p a && q b) || hasPair p q (b :: rest)
  | _ => false

/-- A colon in front of a blank or the end, or a hash after a blank. -/
def hasSign (cs : List Char) : Bool :=
  let isGap := fun c => isBlank c || isBreak c
  hasPair (· == ':') isGap cs || cs.getLast? == some ':' || hasPair isGap (· == '#') cs

def isSpace (c : Char) : Bool := c == ' '

def fitsDoubleOnly (cs : List Char) : Bool := hasPair isSpace isBreak cs || !cs.all isPrintable

def fitsPlain (cs : List Char) : Bool :=
  !fitsDoubleOnly cs && !cs.any isBreak && !startsSpecially cs && !hasSign cs &&
    cs.head? != some ' ' && cs.getLast? != some ' '

def fitsSingle (cs : List Char) : Bool := !fitsDoubleOnly cs && !hasPair isBreak isSpace cs

def fitsLiteral (cs : List Char) : Bool := !fitsDoubleOnly cs && cs.getLast? != some ' '

def formOf (cs : List Char) : Form :=
  let quoted := if fitsSingle cs then Form.single else .double
  if cs.contains '\n' then if fitsLiteral cs then .literal else .double
  else if isAmbiguous cs || !fitsPlain cs then quoted
  else .plain

/-! ## Strings -/

def indentation (indent : Nat) : List Char := List.replicate indent ' '

/-- The lines of a text; each that is not empty starts with the indentation. `fresh` says that a
line begins here. -/
def indentLines (indent : Nat) (fresh : Bool) : List Char → List Char
  | [] => []
  | c :: cs =>
    if isBreak c then c :: indentLines indent true cs
    else if fresh then indentation indent ++ c :: indentLines indent false cs
    else c :: indentLines indent false cs

/-- Quotes inside are written twice. -/
def singleText (indent : Nat) (cs : List Char) : List Char :=
  let doubled := cs.flatMap fun c => if c = '\'' then [c, c] else [c]
  let last := if cs.getLast?.any isBreak then indentation indent else []
  '\'' :: indentLines indent false doubled ++ last ++ ['\'']

def upperHex (n : Nat) : Char :=
  if n < 10 then Char.ofNat ('0'.toNat + n) else Char.ofNat ('A'.toNat + (n - 10))

/-- So many hexadecimal digits of a number, in front of `acc`. -/
def hexDigits (n : Nat) (acc : List Char) : (count : Nat) → List Char
  | 0 => acc
  | count + 1 => hexDigits (n / 16) (upperHex (n % 16) :: acc) count

def escapeOf (c : Char) : List Char :=
  let n := c.toNat
  let sign := match c with
    | '\x00' => some '0'
    | '\x07' => some 'a'
    | '\x08' => some 'b'
    | '\t' => some 't'
    | '\n' => some 'n'
    | '\x0b' => some 'v'
    | '\x0c' => some 'f'
    | '\r' => some 'r'
    | '\x1b' => some 'e'
    | '"' => some '"'
    | '\\' => some '\\'
    | '\u0085' => some 'N'
    | '\u00A0' => some '_'
    | '\u2028' => some 'L'
    | '\u2029' => some 'P'
    | _ => none
  match sign with
  | some s => ['\\', s]
  | none =>
    if n ≤ 0xFF then '\\' :: 'x' :: hexDigits n [] 2
    else if n ≤ 0xFFFF then '\\' :: 'u' :: hexDigits n [] 4
    else '\\' :: 'U' :: hexDigits n [] 8

def doubleText (cs : List Char) : List Char :=
  let body := cs.flatMap fun c =>
    if !isPrintable c || isBreak c || c == '"' || c == '\\' then escapeOf c else [c]
  '"' :: body ++ ['"']

/-- The signs after the mark of a literal: an indentation that does not show, and how it ends. -/
def literalSigns (cs : List Char) : List Char :=
  let hint := if cs.head?.any fun c => isSpace c || isBreak c then ['2'] else []
  match cs.reverse with
  | [] => hint ++ ['-']
  | [c] => hint ++ (if isBreak c then ['+'] else ['-'])
  | c :: d :: _ =>
    if !isBreak c then hint ++ ['-'] else if isBreak d then hint ++ ['+'] else hint

def literalText (indent : Nat) (cs : List Char) : List Char :=
  '|' :: literalSigns cs ++ '\n' :: indentLines indent true cs

/-- A string with the end of its line; `indent` is where further lines start. -/
def stringLine (indent : Nat) (s : String) : String :=
  let cs := s.toList
  let text := match formOf cs with
    | .plain => cs
    | .single => singleText indent cs
    | .double => doubleText cs
    | .literal => literalText indent cs
  let ends := formOf cs == .literal && cs.getLast?.any isBreak
  String.ofList (if ends then text else text ++ ['\n'])

/-! ## Values -/

def scalarLine (indent : Nat) : Value → String
  | .null => "null\n"
  | .bool b => if b then "true\n" else "false\n"
  | .number (.signed i) => toString i ++ "\n"
  | .number (.unsigned n) => toString n ++ "\n"
  | .number (.float x) => x.marked ++ "\n"
  | .string s => stringLine indent s
  | .char c => stringLine indent (String.singleton c)
  | .list _ => "[]\n"
  | .dict _ => "\x7b\x7d\n"

def blanks (n : Nat) : String := String.ofList (indentation n)

mutual

/-- The lines of a value after its key and colon, the key standing at `indent`. -/
def afterKey (indent : Nat) : Value → String
  | .list (v :: vs) => "\n" ++ itemLines indent (v :: vs)
  | .dict (e :: es) => "\n" ++ entryLines (indent + 2) true (e :: es)
  | v => " " ++ scalarLine (indent + 2) v

def itemLines (indent : Nat) : List Value → String
  | [] => ""
  | v :: vs => blanks indent ++ "- " ++ itemText indent v ++ itemLines indent vs

/-- An item after its dash, which stands at `indent`. -/
def itemText (indent : Nat) : Value → String
  | .list (v :: vs) => innerItems indent (v :: vs)
  | .dict (e :: es) => entryLines (indent + 2) false (e :: es)
  | v => scalarLine (indent + 2) v

/-- Items that start on the line of a dash. -/
def innerItems (indent : Nat) : List Value → String
  | [] => ""
  | v :: vs => "- " ++ itemText (indent + 2) v ++ itemLines (indent + 2) vs

/-- Entries at `indent`; the first one may stand on a line that has begun. -/
def entryLines (indent : Nat) (fresh : Bool) : List (String × Value) → String
  | [] => ""
  | (k, v) :: es =>
    let key := String.ofList ((stringLine indent k).toList.dropLast)
    (if fresh then blanks indent else "") ++ key ++ ":" ++ afterKey indent v ++
      entryLines indent true es

end

def print (es : List (String × Value)) : String :=
  if es.isEmpty then "\x7b\x7d\n" else entryLines 0 true es

end ConstantScan.Yaml
