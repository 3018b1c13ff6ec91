import ConstantScan.Yaml.Scalar

/-!
# Tokens of a YAML text

Indentation becomes tokens that start and end collections. That a scalar is a key shows only at the
colon after it, so the tokens of a mapping and its key are put in front of it then.
-/

namespace ConstantScan.Yaml

inductive Token
  /-- `%YAML`; it may ask for a version that is not supported. -/
  | version (supported : Bool)
  | tagHandle (handle start : String)
  | documentStart
  | documentEnd
  | blockSequence
  | blockMapping
  | blockEnd
  | flowSequence
  | flowSequenceEnd
  | flowMapping
  | flowMappingEnd
  | blockEntry
  | flowEntry
  | key
  | value
  | alias (name : String)
  | anchor (name : String)
  | tag (handle rest : String)
  | scalar (text : String) (plain : Bool)
  deriving DecidableEq, Repr

structure KeyStart where
  /-- Nothing but a key may stand there. -/
  required : Bool
  number : Nat
  line : Nat
  column : Nat
  index : Nat

def maxKeyLength : Nat := 1024

structure Scanner where
  cursor : Cursor
  /-- The tokens so far, last one first. -/
  tokens : List Token := []
  count : Nat := 0
  /-- The column of the current block collection and those around it. -/
  indent : Int := -1
  indents : List Int := []
  keyAllowed : Bool := true
  /-- The last place where a key may have begun, for each flow collection around and the block. -/
  keys : List (Option KeyStart) := [none]

namespace Scanner

def inFlow (s : Scanner) : Bool := s.keys.length > 1

def add (s : Scanner) (t : Token) : Scanner :=
  { s with tokens := t :: s.tokens, count := s.count + 1 }

def insert (s : Scanner) (number : Nat) (t : Token) : Scanner :=
  let after := s.count - number
  { s with tokens := s.tokens.take after ++ t :: s.tokens.drop after, count := s.count + 1 }

def take (s : Scanner) (t : Token) (length : Nat) : Scanner :=
  { s.add t with cursor := s.cursor.skip length }

/-! ## Keys -/

def forgetKey (s : Scanner) : Option Scanner :=
  match s.keys with
  | some k :: rest => if k.required then none else some { s with keys := none :: rest }
  | _ => some s

def noteKey (s : Scanner) : Option Scanner :=
  if !s.keyAllowed then some s
  else
    s.forgetKey.map fun s =>
      let c := s.cursor
      let here : KeyStart :=
        { required := !s.inFlow && s.indent == c.column, number := s.count
          line := c.line, column := c.column, index := c.index }
      { s with keys := some here :: s.keys.tail }

/-- A key ends on its line and is not too long. -/
def isStale (c : Cursor) (k : KeyStart) : Bool :=
  k.line < c.line || k.index + maxKeyLength < c.index

def dropStaleKeys (s : Scanner) : Option Scanner :=
  let stale := s.keys.any fun k => k.any fun k => k.required && isStale s.cursor k
  if stale then none
  else some { s with keys := s.keys.map fun k => k.filter fun k => !isStale s.cursor k }

/-! ## Indentation -/

def indentTo (s : Scanner) (column number : Nat) (t : Token) : Scanner :=
  if s.inFlow || (column : Int) ≤ s.indent then s
  else { s with indents := s.indent :: s.indents, indent := column }.insert number t

def closeBlocks (s : Scanner) (column : Int) : List Int → Scanner
  | [] => s
  | outer :: rest =>
    if s.indent > column then
      { s.add .blockEnd with indent := outer, indents := rest }.closeBlocks column rest
    else s

def dedentTo (s : Scanner) (column : Int) : Scanner :=
  if s.inFlow then s else s.closeBlocks column s.indents

/-! ## Blanks and comments -/

def skipToToken (s : Scanner) : (fuel : Nat) → Scanner
  | 0 => s
  | fuel + 1 =>
    let c := s.cursor
    let c := if c.index = 0 && c.sees '\uFEFF' then c.next else c
    let tabs := s.inFlow || !s.keyAllowed
    let c := (c.span fun x => x == ' ' || (tabs && x == '\t')).2.skipComment
    if c.seesBreak then
      { s with cursor := c.nextLine.2, keyAllowed := s.keyAllowed || !s.inFlow }.skipToToken fuel
    else { s with cursor := c }

/-! ## Directives, anchors and tags -/

def name (c : Cursor) : Option (String × Cursor) :=
  let (text, c) := c.span isNameChar
  if text.isEmpty then none else some (String.ofList text, c)

/-- A handle of tags: `!`, `!!` or a name between two of them. -/
def tagHandle (directive : Bool) (c : Cursor) : Option (String × Cursor) :=
  if !c.sees '!' then none
  else
    let (text, c) := c.next.span isNameChar
    if c.sees '!' then some ("!" ++ String.ofList text ++ "!", c.next)
    else if directive && !text.isEmpty then none
    else some ("!" ++ String.ofList text, c)

def isUriChar (wide : Bool) (x : Char) : Bool :=
  isNameChar x || ";/?:@&=+$.%!~*'()".toList.contains x ||
    (wide && (x == ',' || x == '[' || x == ']'))

/-- The bytes of an escaped character in a tag have the form of hexadecimal numbers. -/
def hasGoodEscapes : List Char → Bool
  | [] => true
  | '%' :: a :: b :: rest =>
    (Unicode.Runs.hexDigit? a).isSome && (Unicode.Runs.hexDigit? b).isSome && hasGoodEscapes rest
  | '%' :: _ => false
  | _ :: rest => hasGoodEscapes rest

def uri (wide : Bool) (c : Cursor) : Option (String × Cursor) :=
  let (text, c) := c.span (isUriChar wide)
  if hasGoodEscapes text then some (String.ofList text, c) else none

def tag (c : Cursor) : Option (Token × Cursor) :=
  if c.sees '<' 1 then do
    let (text, c) ← uri true (c.skip 2)
    guard (!text.isEmpty && c.sees '>')
    return (.tag "" text, c.next)
  else do
    let (handle, c) ← tagHandle false c
    if handle.length > 1 && handle.toList.getLast? == some '!' then
      let (text, c) ← uri false c
      guard !text.isEmpty
      return (.tag handle text, c)
    else
      let (text, c) ← uri false c
      let full := String.ofList (handle.toList.drop 1) ++ text
      return (if full.isEmpty then .tag "" "!" else .tag "!" full, c)

def digits (c : Cursor) : Option (Nat × Cursor) :=
  let (text, c) := c.span Char.isDigit
  if text.isEmpty || text.length > 9 then none
  else some (text.foldl (fun n d => n * 10 + (d.toNat - '0'.toNat)) 0, c)

def skipBlanks (c : Cursor) : Cursor := (c.span isBlank).2

def directive (s : Scanner) : Option Scanner := do
  let (kind, c) ← name s.cursor.next
  guard c.seesGap
  let (s, c) ← match kind with
    | "YAML" => do
      let (major, c) ← digits (skipBlanks c)
      guard (c.sees '.')
      let (minor, c) ← digits c.next
      pure (s.add (.version (major == 1 && (minor == 1 || minor == 2))), c)
    | "TAG" => do
      let (handle, c) ← tagHandle true (skipBlanks c)
      guard c.seesBlank
      let (start, c) ← uri true (skipBlanks c)
      guard (!start.isEmpty && c.seesGap)
      pure (s.add (.tagHandle handle start), c)
    | _ => pure (s, (c.span fun _ => true).2)
  let c := (skipBlanks c).skipComment
  guard (c.atEnd || c.seesBreak)
  return { s with cursor := c.nextLine.2 }

def endsName (c : Cursor) : Bool :=
  c.seesGap || c.peek.any fun x => "?:,]\x7d%@`".toList.contains x

/-! ## One token -/

def flowToken? (s : Scanner) (x : Char) : Option (Option Scanner) :=
  let opening (t : Token) : Option Scanner :=
    s.noteKey.map fun s => { s.take t 1 with keys := none :: s.keys, keyAllowed := true }
  let closing (t : Token) : Option Scanner :=
    s.forgetKey.map fun s =>
      { s.take t 1 with keys := if s.inFlow then s.keys.tail else s.keys, keyAllowed := false }
  match x with
  | '[' => some (opening .flowSequence)
  | '\x7b' => some (opening .flowMapping)
  | ']' => some (closing .flowSequenceEnd)
  | '\x7d' => some (closing .flowMappingEnd)
  | ',' => some (s.forgetKey.map fun s => { s.take .flowEntry 1 with keyAllowed := true })
  | _ => none

def entryToken (s : Scanner) (t opener : Token) (allowed : Bool) : Option Scanner := do
  guard (s.inFlow || s.keyAllowed)
  let s := s.indentTo s.cursor.column s.count opener
  let s ← s.forgetKey
  return { s.take t 1 with keyAllowed := allowed }

def valueToken (s : Scanner) : Option Scanner :=
  match s.keys with
  | some k :: rest =>
    let s := (s.insert k.number .key).indentTo k.column k.number .blockMapping
    some { s.take .value 1 with keys := none :: rest, keyAllowed := false }
  | _ =>
    if s.inFlow then some { s.take .value 1 with keyAllowed := false }
    else if !s.keyAllowed then none
    else
      let s := s.indentTo s.cursor.column s.count .blockMapping
      some { s.take .value 1 with keyAllowed := true }

/-- Reads a token that may be a key or stand in front of one. -/
def nodeToken (s : Scanner) (read : Scanner → Option (Token × Cursor)) : Option Scanner := do
  let s ← s.noteKey
  let (t, c) ← read s
  return { s.add t with cursor := c, keyAllowed := false }

def quoted (single : Bool) (s : Scanner) : Option (Token × Cursor) :=
  let c := s.cursor.next
  (quotedText single [] (c.rest.length + 1) c).map fun (text, c) =>
    (.scalar (String.ofList text) false, c)

def blockScalar (s : Scanner) (literal : Bool) : Option Scanner := do
  let s ← s.forgetKey
  let (text, c) ← blockText literal s.indent s.cursor.next
  return { s.add (.scalar (String.ofList text) false) with cursor := c, keyAllowed := true }

def plain (s : Scanner) : Option Scanner := do
  let s ← s.noteKey
  let c := s.cursor
  let (text, c, broken) ←
    plainText s.inFlow (s.indent + 1) [] {} true (c.rest.length + 1) c
  return { s.add (.scalar (String.ofList text) true) with cursor := c, keyAllowed := broken }

def named (t : String → Token) (s : Scanner) : Option (Token × Cursor) := do
  let (n, c) ← name s.cursor.next
  guard (endsName c)
  return (t n, c)

def tagged (s : Scanner) : Option (Token × Cursor) := do
  let (t, c) ← tag s.cursor
  guard (c.seesGap || (s.inFlow && c.sees ','))
  return (t, c)

/-- Leaves all collections, as the mark of a document or a directive does. -/
def leaveAll (s : Scanner) : Option Scanner :=
  (s.dedentTo (-1)).forgetKey.map fun s => { s with keyAllowed := false }

def startsPlain (s : Scanner) (x : Char) : Bool :=
  !(isBlank x || "-?:,[]\x7b\x7d#&*!|>'\"%@`".toList.contains x) ||
    (x == '-' && !s.cursor.seesBlank 1) ||
    (!s.inFlow && (x == '?' || x == ':') && !s.cursor.seesGap 1)

def token (s : Scanner) (x : Char) : Option Scanner :=
  let c := s.cursor
  if c.column = 0 && x == '%' then s.leaveAll.bind directive
  else if c.atDocumentMark then
    s.leaveAll.map (·.take (if x == '-' then .documentStart else .documentEnd) 3)
  else
    match s.flowToken? x with
    | some read => read
    | none =>
      if x == '-' && c.seesGap 1 then
        if s.inFlow then s.forgetKey.map fun s => { s.take .blockEntry 1 with keyAllowed := true }
        else s.entryToken .blockEntry .blockSequence true
      else if x == '?' && (s.inFlow || c.seesGap 1) then
        s.entryToken .key .blockMapping (!s.inFlow)
      else if x == ':' && (s.inFlow || c.seesGap 1) then s.valueToken
      else
        match x with
        | '*' => s.nodeToken (named .alias)
        | '&' => s.nodeToken (named .anchor)
        | '!' => s.nodeToken tagged
        | '\'' => s.nodeToken (quoted true)
        | '"' => s.nodeToken (quoted false)
        | x =>
          if x == '|' && !s.inFlow then s.blockScalar true
          else if x == '>' && !s.inFlow then s.blockScalar false
          else if s.startsPlain x then s.plain
          else none

def run (s : Scanner) : (fuel : Nat) → Option (List Token)
  | 0 => none
  | fuel + 1 =>
    match (s.skipToToken (s.cursor.rest.length + 1)).dropStaleKeys with
    | none => none
    | some s =>
      let s := s.dedentTo s.cursor.column
      match s.cursor.peek with
      | none => s.leaveAll.map (·.tokens.reverse)
      | some x => (s.token x).bind (·.run fuel)

end Scanner

def tokens? (text : String) : Option (List Token) :=
  let cs := text.toList
  if cs.all isAllowed then Scanner.run { cursor := { rest := cs } } (cs.length + 1) else none

end ConstantScan.Yaml
