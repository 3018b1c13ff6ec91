import ConstantScan.Regex.Basic
import ConstantScan.Unicode.Case

/-! # Reading escapes and bracketed sets -/

namespace ConstantScan.Regex

open Unicode (Run Runs isBlank)

/-! ## Flags -/

structure Flags where
  ignoreCase : Bool := false
  multiLine : Bool := false
  dotAll : Bool := false
  returns : Bool := false
  spaced : Bool := false
  unicode : Bool := true
  deriving DecidableEq, Repr

/-- The greatest member of a complement: a code point, or a byte where Unicode is off. -/
def Flags.top (f : Flags) : Nat := if f.unicode then Unicode.maxCodePoint else 0xFF

def skipComments : (inComment : Bool) → List Char → List Char
  | _, [] => []
  | true, c :: cs => skipComments (c != '\n') cs
  | false, c :: cs =>
    if isBlank c then skipComments false cs
    else if c = '#' then skipComments true cs
    else c :: cs

def Flags.skip (f : Flags) (cs : List Char) : List Char :=
  if f.spaced then skipComments false cs else cs

def Flags.closeCase (f : Flags) (s : List Run) : List Run :=
  if !f.ignoreCase then s
  else if f.unicode then Runs.closeCase s
  else Runs.closeAsciiCase s

/-- Where Unicode is off a set, and each part of one, holds ASCII only. -/
def Flags.permits (f : Flags) (s : List Run) : Bool := f.unicode || Runs.below 0x7F s

/-- Closes a set under case if the flags ask for it, then negates it. -/
def Flags.settle? (f : Flags) (negated : Bool) (s : List Run) : Option (List Run) :=
  let closed := f.closeCase s
  let s := if negated then Runs.complement f.top closed else closed
  if f.permits s then some s else none

/-! ## Escapes -/

inductive Escape
  | char (c : Char)
  | code (n : Nat)
  | set (s : List Run)
  | look (l : Look)
  deriving Repr

def scalar? (n : Nat) : Option Char :=
  if h : n.isValidChar then some (Char.ofNatAux n h) else none

def hexDigits (f : Flags) (value : Nat) : (count : Nat) → List Char → Option (Nat × List Char)
  | 0, cs => some (value, cs)
  | n + 1, cs =>
    match f.skip cs with
    | [] => none
    | c :: cs => (Runs.hexDigit? c).bind fun d => hexDigits f (value * 16 + d) n cs

def bracedHex (f : Flags) (value : Option Nat) (inComment : Bool) :
    List Char → Option (Nat × List Char)
  | [] => none
  | c :: cs =>
    if inComment then bracedHex f value (c != '\n') cs
    else if f.spaced && isBlank c then bracedHex f value false cs
    else if f.spaced && c = '#' then bracedHex f value true cs
    else if c = '\x7d' then value.map (·, cs)
    else (Runs.hexDigit? c).bind fun d => bracedHex f (some (value.getD 0 * 16 + d)) false cs

def hexEscape (f : Flags) (kind : Char) (cs : List Char) : Option (Escape × List Char) :=
  match f.skip cs with
  | [] => none
  | c :: rest =>
    if c = '\x7b' then do
      let (n, rest) ← bracedHex f none false rest
      let c ← scalar? n
      return (.char c, rest)
    else do
      let width := if kind = 'x' then 2 else if kind = 'u' then 4 else 8
      let (n, rest) ← hexDigits f 0 width (c :: rest)
      let c ← scalar? n
      return (if kind = 'x' then .code n else .char c, rest)

/-- Splits at the first `!=`, else at the first colon, else at the first equals sign. -/
def splitProperty (name : List Char) : Option (Bool × String × String) :=
  let cut (negated : Bool) (width : Nat) (at? : Option Nat) :=
    at?.map fun i =>
      (negated, String.ofList (name.take i), String.ofList (name.drop (i + width)))
  let unequal := (name.zip (name.drop 1)).findIdx? (· == ('!', '='))
  (cut true 2 unequal).or
    ((cut false 1 (name.findIdx? (· == ':'))).or (cut false 1 (name.findIdx? (· == '='))))

def bracedName (f : Flags) (cs : List Char) : Option (List Char × List Char) :=
  let name := cs.takeWhile (· != '\x7d')
  match cs.drop name.length with
  | [] => none
  | _ :: rest => some (if f.spaced then name.filter (!isBlank ·) else name, rest)

def propertyEscape (f : Flags) (negated : Bool) (cs : List Char) :
    Option (Escape × List Char) := do
  guard f.unicode
  match f.skip cs with
  | [] => none
  | c :: rest =>
    if c = '\x7b' then
      let (name, rest) ← bracedName f rest
      match splitProperty name with
      | some (unequal, property, value) =>
        let s ← f.settle? (negated != unequal) (← Unicode.valued? property value)
        return (.set s, rest)
      | none =>
        let s ← f.settle? negated (← Unicode.named? (String.ofList name))
        return (.set s, rest)
    else if c = '\\' then none
    else
      let s ← f.settle? negated (← Unicode.named? (String.singleton c))
      return (.set s, rest)

def asciiDigits : List Run := [⟨0x30, 0x39⟩]

def asciiBlanks : List Run := [⟨0x09, 0x0D⟩, ⟨0x20, 0x20⟩]

def asciiWords : List Run := [⟨0x30, 0x39⟩, ⟨0x41, 0x5A⟩, ⟨0x5F, 0x5F⟩, ⟨0x61, 0x7A⟩]

def shorthand (f : Flags) (c : Char) : List Run :=
  let s :=
    match c.toLower with
    | 'd' => if f.unicode then Unicode.digitRuns else asciiDigits
    | 's' => if f.unicode then Unicode.blankRuns else asciiBlanks
    | _ => if f.unicode then Unicode.wordRuns else asciiWords
  if c.isUpper then Runs.complement f.top s else s

def metaCharacters : List Char := "\\.+*?()|[]\x7b\x7d^$#&-~".toList

def isEscapable (c : Char) : Bool :=
  metaCharacters.contains c ||
    (c.toNat < 0x80 && !c.isAlphanum && c != '<' && c != '>')

def namedEdge? (name : String) : Option WordEdge :=
  match name with
  | "start" => some .start
  | "end" => some .stop
  | "start-half" => some .startHalf
  | "end-half" => some .stopHalf
  | _ => none

def isEdgeLetter (c : Char) : Bool := c.isAlpha || c == '-'

/-- After `\b`: a word edge in braces, unless the braces cannot hold one and so are a count. -/
def bracedEdge (f : Flags) (cs : List Char) : Option (WordEdge × List Char) :=
  match cs with
  | '\x7b' :: rest =>
    match f.skip rest with
    | [] => none
    | c :: more =>
      if !isEdgeLetter c then some (.edge, cs)
      else do
        let inner := fun (d : Char) => isEdgeLetter d || (f.spaced && isBlank d)
        let name := (c :: more).takeWhile inner
        let kind ← namedEdge? (String.ofList (name.filter isEdgeLetter))
        match (c :: more).drop name.length with
        | '\x7d' :: rest => return (kind, rest)
        | _ => none
  | _ => some (.edge, cs)

def readEscape (f : Flags) : List Char → Option (Escape × List Char)
  | [] => none
  | c :: cs =>
    if c.isDigit then none
    else if c = 'x' || c = 'u' || c = 'U' then hexEscape f c cs
    else if c = 'p' || c = 'P' then propertyEscape f (c == 'P') cs
    else if "dswDSW".toList.contains c then some (.set (shorthand f c), cs)
    else if isEscapable c then some (.char c, cs)
    else
      match c with
      | 'a' => some (.char '\x07', cs)
      | 'f' => some (.char '\x0c', cs)
      | 't' => some (.char '\t', cs)
      | 'n' => some (.char '\n', cs)
      | 'r' => some (.char '\r', cs)
      | 'v' => some (.char '\x0b', cs)
      | 'A' => some (.look .textStart, cs)
      | 'z' => some (.look .textEnd, cs)
      | 'b' => (bracedEdge f cs).map fun (kind, rest) => (.look (.word kind (!f.unicode)), rest)
      | 'B' => some (.look (.word .inside (!f.unicode)), cs)
      | '<' => some (.look (.word .start (!f.unicode)), cs)
      | '>' => some (.look (.word .stop (!f.unicode)), cs)
      | _ => none

/-! ## Bracketed sets -/

def posixSet? (name : String) : Option (List Run) :=
  match name with
  | "alnum" => some [⟨0x30, 0x39⟩, ⟨0x41, 0x5A⟩, ⟨0x61, 0x7A⟩]
  | "alpha" => some [⟨0x41, 0x5A⟩, ⟨0x61, 0x7A⟩]
  | "ascii" => some [⟨0, 0x7F⟩]
  | "blank" => some [⟨0x09, 0x09⟩, ⟨0x20, 0x20⟩]
  | "cntrl" => some [⟨0, 0x1F⟩, ⟨0x7F, 0x7F⟩]
  | "digit" => some asciiDigits
  | "graph" => some [⟨0x21, 0x7E⟩]
  | "lower" => some [⟨0x61, 0x7A⟩]
  | "print" => some [⟨0x20, 0x7E⟩]
  | "punct" => some [⟨0x21, 0x2F⟩, ⟨0x3A, 0x40⟩, ⟨0x5B, 0x60⟩, ⟨0x7B, 0x7E⟩]
  | "space" => some asciiBlanks
  | "upper" => some [⟨0x41, 0x5A⟩]
  | "word" => some asciiWords
  | "xdigit" => some [⟨0x30, 0x39⟩, ⟨0x41, 0x46⟩, ⟨0x61, 0x66⟩]
  | _ => none

/-- After an opening bracket: whether a named set is negated, and what follows its closing bracket. -/
def readPosix : List Char → Option (Bool × List Run × List Char)
  | ':' :: cs =>
    let (negated, cs) := match cs with
      | '^' :: rest => (true, rest)
      | _ => (false, cs)
    let name := cs.takeWhile (· != ':')
    match cs.drop name.length with
    | ':' :: ']' :: rest =>
      (posixSet? (String.ofList name)).map fun s => (negated, s, rest)
    | _ => none
  | _ => none

inductive SetOperator
  | inter
  | diff
  | symmDiff
  deriving DecidableEq, Repr

def SetOperator.apply (f : Flags) (op : SetOperator) (a b : List Run) : List Run :=
  let a := f.closeCase a
  let b := f.closeCase b
  match op with
  | inter => Runs.inter f.top a b
  | diff => Runs.diff f.top a b
  | symmDiff => Runs.symmDiff f.top a b

/-- A set, and how deep sets, unions and operators stand in one another in its text. -/
structure Nested where
  runs : List Run
  depth : Nat := 0
  deriving Repr

structure Members where
  runs : List Run := []
  count : Nat := 0
  depth : Nat := 0
  deriving Repr

def Members.add (m : Members) (s : Nested) : Members :=
  ⟨Runs.union s.runs m.runs, m.count + 1, max m.depth s.depth⟩

def Members.union (m : Members) : Nested :=
  ⟨m.runs, if m.count > 1 then m.depth + 1 else m.depth⟩

inductive SetFrame
  | bracket (outer : Members) (negated : Bool)
  | operator (op : SetOperator) (lhs : Nested)
  deriving Repr

/-- Closes an operator that waits for its right side. -/
def closeOperator (f : Flags) (rhs : Nested) : List SetFrame → Nested × List SetFrame
  | .operator op lhs :: stack =>
    (⟨op.apply f lhs.runs rhs.runs, max lhs.depth rhs.depth + 1⟩, stack)
  | stack => (rhs, stack)

/-- The dashes at the start of a set stand for themselves. -/
def addDashes (f : Flags) (m : Members) : List Char → Members × List Char
  | [] => (m, [])
  | c :: cs =>
    if c = '-' then addDashes f (m.add { runs := Runs.single c.toNat }) cs
    else if f.spaced && isBlank c then addDashes f m cs
    else (m, c :: cs)

/-- After an opening bracket: whether it negates, and the members that can only stand first. -/
def openBracket (f : Flags) (cs : List Char) : Bool × Members × List Char :=
  let cs := f.skip cs
  let (negated, cs) := match cs with
    | '^' :: rest => (true, f.skip rest)
    | _ => (false, cs)
  match addDashes f {} cs with
  | (⟨_, 0, _⟩, ']' :: rest) => (negated, Members.add {} { runs := Runs.single ']'.toNat }, rest)
  | (m, cs) => (negated, m, cs)

def readMember (f : Flags) : List Char → Option ((Nat ⊕ List Run) × List Char)
  | [] => none
  | '\\' :: cs => do
    let (e, rest) ← readEscape f cs
    match e with
    | .char c => if f.unicode || c.toNat < 0x80 then return (.inl c.toNat, rest) else none
    | .code n => if f.unicode || n < 0x80 then return (.inl n, rest) else none
    | .set s => if f.permits s then return (.inr s, rest) else none
    | .look _ => none
  | c :: cs => if f.unicode || c.toNat < 0x80 then some (.inl c.toNat, cs) else none

def readRange (f : Flags) (cs : List Char) : Option (List Run × List Char) := do
  let (first, rest) ← readMember f cs
  let rest := f.skip rest
  let alone : Option (List Run × List Char) :=
    match first with
    | .inl n => some (Runs.single n, rest)
    | .inr s => some (s, rest)
  match rest with
  | [] => none
  | '-' :: more =>
    match f.skip more with
    | ']' :: _ => alone
    | '-' :: _ => alone
    | next =>
      let (last, rest) ← readMember f next
      match first, last with
      | .inl a, .inl b => if a ≤ b then some ([⟨a, b⟩], rest) else none
      | _, _ => none
  | _ => alone

def readSet (f : Flags) (acc : Members) (stack : List SetFrame) :
    (fuel : Nat) → List Char → Option (Nested × List Char)
  | 0, _ => none
  | fuel + 1, cs =>
    match f.skip cs with
    | [] => none
    | '[' :: rest =>
      match readPosix rest with
      | some (negated, s, rest) =>
        (f.settle? negated s).bind fun s => readSet f (acc.add { runs := s }) stack fuel rest
      | none =>
        let (negated, first, rest) := openBracket f rest
        readSet f first (.bracket acc negated :: stack) fuel rest
    | ']' :: rest =>
      match closeOperator f acc.union stack with
      | (s, .bracket outer negated :: stack) =>
        (f.settle? negated s.runs).bind fun runs =>
          let s : Nested := ⟨runs, s.depth + 1⟩
          if stack.isEmpty then some (s, rest) else readSet f (outer.add s) stack fuel rest
      | _ => none
    | '&' :: '&' :: rest =>
      let (lhs, stack) := closeOperator f acc.union stack
      readSet f {} (.operator .inter lhs :: stack) fuel rest
    | '-' :: '-' :: rest =>
      let (lhs, stack) := closeOperator f acc.union stack
      readSet f {} (.operator .diff lhs :: stack) fuel rest
    | '~' :: '~' :: rest =>
      let (lhs, stack) := closeOperator f acc.union stack
      readSet f {} (.operator .symmDiff lhs :: stack) fuel rest
    | cs =>
      match readRange f cs with
      | some (s, rest) => readSet f (acc.add { runs := s }) stack fuel rest
      | none => none

def readBracketed (f : Flags) (cs : List Char) : Option (Nested × List Char) :=
  let (negated, first, rest) := openBracket f cs
  readSet f first [.bracket {} negated] (cs.length + 1) rest

end ConstantScan.Regex
