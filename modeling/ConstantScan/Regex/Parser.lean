import ConstantScan.Regex.CharClass

/-! # Reading regular expressions -/

namespace ConstantScan.Regex

open Unicode (Run Runs isBlank)

/-- A part that is read, with the measures that are limited. -/
structure Piece where
  regex : Regex
  /-- How deep groups, sets, repetitions, sequences and choices stand in one another. -/
  depth : Nat := 0
  /-- About how many bytes a compiled form takes. -/
  size : Nat := 0
  /-- An operator may repeat it. -/
  repeatable : Bool := true

def maxDepth : Nat := 250

def maxSize : Nat := 10 * 1024 * 1024

/-- The parts between the last opening parenthesis and here. -/
structure Level where
  flags : Flags := {}
  /-- The choices that are complete, last one first. -/
  choices : List Piece := []
  /-- The parts of the choice that is being read, last one first. -/
  pieces : List Piece := []

def deepest (ps : List Piece) : Nat := ps.foldl (fun d p => max d p.depth) 0

def total (ps : List Piece) : Nat := ps.foldl (fun n p => n + p.size) 0

/-- The pieces one after another; they come last one first. -/
def sequence : List Piece → Piece
  | [] => { regex := .empty }
  | [p] => p
  | ps =>
    { regex := ps.foldl (fun r p => andThen p.regex r) .empty
      depth := deepest ps + 1
      size := total ps }

def Level.finish (l : Level) : Piece :=
  match sequence l.pieces :: l.choices with
  | [p] => p
  | [] => { regex := .empty }
  | p :: ps =>
    { regex := ps.foldl (fun r q => alt q.regex r) p.regex
      depth := deepest (p :: ps) + 1
      size := total (p :: ps) + 40 * (ps.length + 1) }

def Level.push (l : Level) (p : Piece) : Level := { l with pieces := p :: l.pieces }

/-! ## Single pieces -/

def setPiece (s : List Run) : Piece :=
  { regex := .one s
    size := if Runs.below 0x7F s then 40 + 8 * s.length else 75 * s.length }

def charPiece? (f : Flags) (c : Char) : Option Piece :=
  let s := Runs.single c.toNat
  if !f.ignoreCase then some { regex := .one s, size := 32 * c.utf8Size }
  else if f.unicode || c.toNat < 0x80 then some (setPiece (f.closeCase s))
  else none

def dotPiece? (f : Flags) : Option Piece :=
  let ends : List Run :=
    if f.dotAll then []
    else if f.returns then [⟨10, 10⟩, ⟨13, 13⟩]
    else [⟨10, 10⟩]
  if f.unicode then some (setPiece (Runs.complement f.top ends)) else none

def lookPiece (l : Look) : Piece := { regex := .look l, size := 32 }

def caretLook (f : Flags) : Look :=
  if !f.multiLine then .textStart else if f.returns then .returnLineStart else .lineStart

def dollarLook (f : Flags) : Look :=
  if !f.multiLine then .textEnd else if f.returns then .returnLineEnd else .lineEnd

def setPiece? (f : Flags) (s : List Run) : Option Piece :=
  if f.permits s then some (setPiece s) else none

def escapePiece? (f : Flags) : Escape → Option Piece
  | .char c => charPiece? f c
  | .code n =>
    if f.unicode || n < 0x80 then (scalar? n).bind (charPiece? f) else none
  | .set s => setPiece? f s
  | .look l => some (lookPiece l)

/-! ## Repetition -/

def Level.repeat? (l : Level) (least : Nat) (most : Option Nat) : Option Level :=
  match l.pieces with
  | [] => none
  | p :: ps =>
    if !p.repeatable then none
    else
      let (least, most) :=
        if p.regex.isWidthless then (min least 1, some (min (most.getD 1) 1)) else (least, most)
      let copies := most.getD (least + 1)
      let size := (p.size + 32) * copies + 32
      if size > maxSize then none
      else
        some { l with pieces :=
          { regex := p.regex.repeated least most, depth := p.depth + 1, size } :: ps }

def readCount (f : Flags) (cs : List Char) : Option (Nat × List Char) :=
  let cs := cs.dropWhile isBlank
  let isInner := fun (c : Char) => c.isDigit || (f.spaced && isBlank c)
  let digits := cs.takeWhile isInner
  let kept := digits.filter Char.isDigit
  let value := kept.foldl (fun v c => v * 10 + (c.toNat - '0'.toNat)) 0
  if kept.isEmpty || value ≥ UInt32.size then none
  else some (value, f.skip ((cs.drop digits.length).dropWhile isBlank))

/-- Skips a mark that asks for the shortest match first. -/
def skipLazy : List Char → List Char
  | '?' :: cs => cs
  | cs => cs

/-- After an opening brace: the bounds and what follows the closing brace. -/
def readBounds (f : Flags) (cs : List Char) : Option (Nat × Option Nat × List Char) := do
  let (least, rest) ← readCount f (f.skip cs)
  match rest with
  | '\x7d' :: rest => return (least, some least, f.skip rest)
  | ',' :: rest =>
    match f.skip rest with
    | '\x7d' :: rest => return (least, none, f.skip rest)
    | rest =>
      let (most, rest) ← readCount f rest
      match rest with
      | '\x7d' :: rest => if least ≤ most then return (least, some most, f.skip rest) else none
      | _ => none
  | _ => none

/-! ## Groups -/

/-- Sets one flag; `U` swaps laziness and so changes nothing here. -/
def Flags.set? (f : Flags) (value : Bool) : Char → Option Flags
  | 'i' => some { f with ignoreCase := value }
  | 'm' => some { f with multiLine := value }
  | 's' => some { f with dotAll := value }
  | 'R' => some { f with returns := value }
  | 'x' => some { f with spaced := value }
  | 'u' => some { f with unicode := value }
  | 'U' => some f
  | _ => none

def readFlags (f : Flags) (value : Bool) (seen : List Char) (dangling : Bool) :
    List Char → Option (Flags × Bool × Char × List Char)
  | [] => none
  | c :: cs =>
    if c = ':' || c = ')' then
      if dangling then none else some (f, !seen.isEmpty, c, cs)
    else if seen.contains c then none
    else if c = '-' then readFlags f false (c :: seen) true cs
    else (f.set? value c).bind fun f => readFlags f value (c :: seen) false cs

def isNameStart (c : Char) : Bool := c == '_' || Unicode.isAlphabetic c

def isNameRest (c : Char) : Bool :=
  c == '_' || c == '.' || c == '[' || c == ']' || Unicode.isAlphabetic c || Unicode.isNumeric c

def readName (cs : List Char) : Option (List Char × List Char) :=
  match cs.takeWhile (· != '>') with
  | [] => none
  | c :: name =>
    if isNameStart c && name.all isNameRest then
      match cs.drop (name.length + 1) with
      | _ :: rest => some (c :: name, rest)
      | [] => none
    else none

structure State where
  level : Level := {}
  /-- The levels around the current one, nearest first. -/
  outer : List Level := []
  names : List (List Char) := []

def State.openGroup (s : State) (flags : Flags) : State :=
  { s with level := { flags }, outer := s.level :: s.outer }

def openGroup (s : State) (cs : List Char) : Option (State × List Char) :=
  let f := s.level.flags
  let named (rest : List Char) : Option (State × List Char) := do
    let (name, rest) ← readName rest
    guard (!s.names.contains name)
    return ({ s with names := name :: s.names }.openGroup f, rest)
  match f.skip cs with
  | '?' :: '=' :: _ => none
  | '?' :: '!' :: _ => none
  | '?' :: '<' :: '=' :: _ => none
  | '?' :: '<' :: '!' :: _ => none
  | '?' :: 'P' :: '<' :: rest => named rest
  | '?' :: '<' :: rest => named rest
  | '?' :: rest => do
    let (flags, any, last, rest) ← readFlags f true [] false rest
    if last = ')' then
      guard any
      let mark : Piece := { regex := .empty, repeatable := false }
      return ({ s with level := { s.level.push mark with flags } }, rest)
    else return (s.openGroup flags, rest)
  | rest => some (s.openGroup f, rest)

def State.closeGroup? (s : State) : Option State :=
  match s.outer with
  | [] => none
  | l :: outer =>
    let p := s.level.finish
    some { s with
      level := l.push { p with depth := p.depth + 1, size := p.size + 64, repeatable := true }
      outer }

/-! ## The whole expression -/

def State.map? (s : State) (l : Option Level) : Option State := l.map ({ s with level := · })

def readStep (s : State) (c : Char) (cs : List Char) : Option (State × List Char) :=
  let l := s.level
  let f := l.flags
  let push (p : Option Piece) (rest : List Char) : Option (State × List Char) :=
    p.map fun p => ({ s with level := l.push p }, rest)
  match c with
  | '(' => openGroup s cs
  | ')' => s.closeGroup?.map (·, cs)
  | '|' =>
    some ({ s with level := { l with choices := sequence l.pieces :: l.choices, pieces := [] } },
      cs)
  | '[' =>
    (readBracketed f cs).bind fun (set, rest) =>
      push (some { setPiece set.runs with depth := set.depth }) rest
  | '?' => (s.map? (l.repeat? 0 (some 1))).map (·, skipLazy cs)
  | '*' => (s.map? (l.repeat? 0 none)).map (·, skipLazy cs)
  | '+' => (s.map? (l.repeat? 1 none)).map (·, skipLazy cs)
  | '\x7b' =>
    (readBounds f cs).bind fun (least, most, rest) =>
      (s.map? (l.repeat? least most)).map (·, skipLazy rest)
  | '\\' => (readEscape f cs).bind fun (e, rest) => push (escapePiece? f e) rest
  | '.' => push (dotPiece? f) cs
  | '^' => push (some (lookPiece (caretLook f))) cs
  | '$' => push (some (lookPiece (dollarLook f))) cs
  | c => push (charPiece? f c) cs

def readAll (s : State) : (fuel : Nat) → List Char → Option State
  | 0, _ => none
  | fuel + 1, cs =>
    match s.level.flags.skip cs with
    | [] => some s
    | c :: cs => (readStep s c cs).bind fun (s, rest) => readAll s fuel rest

/-- The expression that the text writes, or nothing if it is malformed or too large. -/
def ofChars? (cs : List Char) : Option Regex := do
  let s ← readAll {} (cs.length + 1) cs
  guard s.outer.isEmpty
  let p := s.level.finish
  guard (p.depth ≤ maxDepth && p.size ≤ maxSize)
  return p.regex

def ofString? (text : String) : Option Regex := ofChars? text.toList

/-- The expression that the text writes, or what there is to say of a text that writes none. -/
def read (text : String) : Except String Regex :=
  match ofString? text with
  | some r => .ok r
  | none => .error ("regex parse error: " ++ text)

end ConstantScan.Regex
