/-! # Places in a YAML text -/

namespace ConstantScan.Yaml

/-! ## Characters -/

def isBreak (c : Char) : Bool :=
  c == '\n' || c == '\r' || c == '\u0085' || c == '\u2028' || c == '\u2029'

def isBlank (c : Char) : Bool := c == ' ' || c == '\t'

def isNameChar (c : Char) : Bool := c.isAlphanum || c == '_' || c == '-'

def isAllowed (c : Char) : Bool :=
  let n := c.toNat
  c == '\t' || c == '\n' || c == '\r' || (0x20 ≤ n && n ≤ 0x7E) || n == 0x85 ||
    (0xA0 ≤ n && n ≤ 0xFFFD) || 0x10000 ≤ n

/-- What is left of a text, and where in the text that is. -/
structure Cursor where
  rest : List Char
  line : Nat := 0
  column : Nat := 0
  index : Nat := 0
  deriving Repr

namespace Cursor

def peek (c : Cursor) : Option Char := c.rest.head?

/-- Whether the character so far on is `x`. -/
def sees (c : Cursor) (x : Char) (offset : Nat := 0) : Bool := c.rest[offset]? == some x

/-- Whether a blank, a line end or the end of the text is so far on. -/
def seesGap (c : Cursor) (offset : Nat := 0) : Bool :=
  c.rest[offset]?.all fun x => isBlank x || isBreak x

def seesBreak (c : Cursor) (offset : Nat := 0) : Bool := c.rest[offset]?.any isBreak

def seesBlank (c : Cursor) (offset : Nat := 0) : Bool := c.rest[offset]?.any isBlank

def atEnd (c : Cursor) : Bool := c.rest.isEmpty

def next (c : Cursor) : Cursor :=
  { c with rest := c.rest.tail, column := c.column + 1, index := c.index + 1 }

def skip (c : Cursor) (count : Nat) : Cursor :=
  { c with rest := c.rest.drop count, column := c.column + count, index := c.index + count }

/-- Moves over characters of one line; they come back, too. -/
def span (c : Cursor) (p : Char → Bool) : List Char × Cursor :=
  let text := c.rest.takeWhile fun x => p x && !isBreak x
  (text, c.skip text.length)

/-- Moves over a line end, if one is next; most of them read as a newline. -/
def nextLine (c : Cursor) : Option Char × Cursor :=
  let moved (count : Nat) : Cursor :=
    { rest := c.rest.drop count, line := c.line + 1, index := c.index + count }
  match c.rest with
  | '\r' :: '\n' :: _ => (some '\n', moved 2)
  | x :: _ =>
    if x == '\u2028' || x == '\u2029' then (some x, moved 1)
    else if isBreak x then (some '\n', moved 1)
    else (none, c)
  | [] => (none, c)

/-- A line that starts or ends a document. -/
def atDocumentMark (c : Cursor) : Bool :=
  c.column == 0 && c.seesGap 3 &&
    match c.rest with
    | '-' :: '-' :: '-' :: _ => true
    | '.' :: '.' :: '.' :: _ => true
    | _ => false

def skipComment (c : Cursor) : Cursor := if c.sees '#' then (c.span fun _ => true).2 else c

end Cursor

end ConstantScan.Yaml
