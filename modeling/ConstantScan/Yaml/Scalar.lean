import ConstantScan.Unicode.Runs
import ConstantScan.Yaml.Cursor

/-! # The texts of scalars -/

namespace ConstantScan.Yaml

open Unicode (Runs)

/-! ## Blanks and line ends inside a text -/

structure Gap where
  blanks : List Char := []
  first : Option Char := none
  /-- The line ends after it, last one first. -/
  more : List Char := []
  broken : Bool := false

/-- What a gap reads as: one line end as a blank, more of them as all but the first. -/
def Gap.text (g : Gap) : List Char :=
  if !g.broken then g.blanks.reverse
  else
    match g.first with
    | some '\n' => if g.more.isEmpty then [' '] else g.more.reverse
    | some c => c :: g.more.reverse
    | none => g.more.reverse

/-- Reads blanks and line ends. Left of `indent` no tab may stand. -/
def readGap (indent : Option Int) (g : Gap) : (fuel : Nat) → Cursor → Option (Gap × Cursor)
  | 0, _ => none
  | fuel + 1, c =>
    match c.rest with
    | x :: _ =>
      if isBlank x then
        if g.broken && x == '\t' && indent.any ((c.column : Int) < ·) then none
        else readGap indent (if g.broken then g else { g with blanks := x :: g.blanks }) fuel c.next
      else if isBreak x then
        let (b, c) := c.nextLine
        let g :=
          if g.broken then { g with more := b.toList ++ g.more }
          else { first := b, broken := true }
        readGap indent g fuel c
      else some (g, c)
    | [] => some (g, c)

/-! ## Quoted scalars -/

def scalarOf? (n : Nat) : Option Char :=
  if h : n.isValidChar then some (Char.ofNatAux n h) else none

def numbered (count : Nat) (c : Cursor) : Option (Char × Cursor) := do
  let ds := c.rest.take count
  guard (ds.length = count)
  let n ← ds.foldlM (fun n d => (Runs.hexDigit? d).map (n * 16 + ·)) 0
  return (← scalarOf? n, c.skip count)

def escape (c : Cursor) : Option (Char × Cursor) := do
  let x ← c.peek
  let c := c.next
  let plain (y : Char) : Option (Char × Cursor) := some (y, c)
  match x with
  | '0' => plain '\x00'
  | 'a' => plain '\x07'
  | 'b' => plain '\x08'
  | 't' => plain '\t'
  | '\t' => plain '\t'
  | 'n' => plain '\n'
  | 'v' => plain '\x0b'
  | 'f' => plain '\x0c'
  | 'r' => plain '\r'
  | 'e' => plain '\x1b'
  | ' ' => plain ' '
  | '"' => plain '"'
  | '/' => plain '/'
  | '\\' => plain '\\'
  | 'N' => plain '\u0085'
  | '_' => plain '\u00A0'
  | 'L' => plain '\u2028'
  | 'P' => plain '\u2029'
  | 'x' => numbered 2 c
  | 'u' => numbered 4 c
  | 'U' => numbered 8 c
  | _ => none

/-- The text of a quoted scalar after its opening quote; `acc` holds what is read, last character
first. -/
def quotedText (single : Bool) (acc : List Char) : (fuel : Nat) → Cursor →
    Option (List Char × Cursor)
  | 0, _ => none
  | fuel + 1, c =>
    if c.atDocumentMark then none
    else
      match c.rest with
      | [] => none
      | x :: rest =>
        if isBlank x || isBreak x then
          (readGap none {} (c.rest.length + 1) c).bind fun (g, c) =>
            quotedText single (g.text.reverse ++ acc) fuel c
        else if single && x == '\'' then
          if rest.head? == some '\'' then quotedText single ('\'' :: acc) fuel (c.skip 2)
          else some (acc.reverse, c.next)
        else if !single && x == '"' then some (acc.reverse, c.next)
        else if !single && x == '\\' then
          if c.seesBreak 1 then
            (readGap none { broken := true } (c.rest.length + 1) c.next.nextLine.2).bind
              fun (g, c) => quotedText single (g.text.reverse ++ acc) fuel c
          else (escape c.next).bind fun (y, c) => quotedText single (y :: acc) fuel c
        else quotedText single (x :: acc) fuel c.next

/-! ## Plain scalars -/

def isFlowMark (x : Char) : Bool :=
  x == ',' || x == '[' || x == ']' || x == '\x7b' || x == '\x7d'

def endsPlain (flow : Bool) (c : Cursor) : Bool :=
  (c.sees ':' && c.seesGap 1) ||
    (flow && (c.peek.any isFlowMark || (c.sees '?' && c.seesGap 1)))

/-- The text of a plain scalar, what follows it, and whether it ended in a new line. `gap` is what
was read since the last character of the text. -/
def plainText (flow : Bool) (indent : Int) (acc : List Char) (gap : Gap) (start : Bool) :
    (fuel : Nat) → Cursor → Option (List Char × Cursor × Bool)
  | 0, _ => none
  | fuel + 1, c =>
    let done := some (acc.reverse, c, gap.broken)
    if start && (c.atDocumentMark || c.sees '#') then done
    else
      match c.rest with
      | [] => done
      | x :: _ =>
        if isBlank x || isBreak x then
          match readGap (some indent) {} (c.rest.length + 1) c with
          | none => none
          | some (g, c) =>
            if !flow && (c.column : Int) < indent then some (acc.reverse, c, g.broken)
            else plainText flow indent acc g true fuel c
        else if flow && x == ':' && c.rest[1]?.any fun y => y == '?' || isFlowMark y then none
        else if endsPlain flow c then done
        else plainText flow indent (x :: (gap.text.reverse ++ acc)) {} false fuel c.next

/-! ## Block scalars -/

inductive Chomp
  | clip
  | strip
  | keep
  deriving DecidableEq

def blockSigns (c : Cursor) : Option (Chomp × Nat × Cursor) :=
  let chomp? (c : Cursor) : Option Chomp :=
    if c.sees '+' then some .keep else if c.sees '-' then some .strip else none
  let digit? (c : Cursor) : Option Nat :=
    c.peek.bind fun x => if x.isDigit then some (x.toNat - '0'.toNat) else none
  match chomp? c, digit? c with
  | some h, _ =>
    match digit? c.next with
    | some 0 => none
    | some n => some (h, n, c.next.next)
    | none => some (h, 0, c.next)
  | none, some 0 => none
  | none, some n =>
    match chomp? c.next with
    | some h => some (h, n, c.next.next)
    | none => some (.clip, n, c.next)
  | none, none => some (.clip, 0, c)

/-- Reads indentation and empty lines. An `indent` of zero is not known yet. The line ends come
last one first, with the greatest column that was reached. -/
def blockGap (indent : Nat) (breaks : List Char) (deepest : Nat) : (fuel : Nat) → Cursor →
    Option (List Char × Nat × Cursor)
  | 0, _ => none
  | fuel + 1, c =>
    let inside (column : Nat) : Bool := indent = 0 || column < indent
    let spaces := c.rest.takeWhile (· == ' ')
    let c := c.skip (if indent = 0 then spaces.length else min spaces.length (indent - c.column))
    let deepest := max deepest c.column
    if inside c.column && c.sees '\t' then none
    else if c.seesBreak then
      let (b, c) := c.nextLine
      blockGap indent (b.toList ++ breaks) deepest fuel c
    else some (breaks, deepest, c)

/-- The lines of a block scalar. `first` is the end of the line before and `more` the empty lines
after it; `blankBefore` says whether that line began with a blank. -/
def blockLines (literal : Bool) (indent : Nat) (acc : List Char) (first : Option Char)
    (more : List Char) (blankBefore : Bool) : (fuel : Nat) → Cursor →
    Option (List Char × Option Char × List Char × Cursor)
  | 0, _ => none
  | fuel + 1, c =>
    if c.column ≠ indent || c.atEnd then some (acc, first, more, c)
    else
      let blank := c.seesBlank
      let joined :=
        if !literal && first == some '\n' && !blankBefore && !blank then
          if more.isEmpty then [' '] else []
        else first.toList
      let (line, c) := c.span fun _ => true
      let acc := line.reverse ++ more ++ joined ++ acc
      let (first, c) := c.nextLine
      match blockGap indent [] 0 (c.rest.length + 1) c with
      | none => none
      | some (more, _, c) => blockLines literal indent acc first more blank fuel c

/-- The text of a block scalar after its mark; `parent` is the indentation around it. -/
def blockText (literal : Bool) (parent : Int) (c : Cursor) : Option (List Char × Cursor) := do
  let (chomp, increment, c) ← blockSigns c
  let c := (c.span isBlank).2.skipComment
  guard (c.atEnd || c.seesBreak)
  let c := c.nextLine.2
  let fuel := c.rest.length + 2
  let given : Nat := if increment = 0 then 0 else (max parent 0).toNat + increment
  let (breaks, deepest, c) ← blockGap given [] 0 fuel c
  let indent := if given ≠ 0 then given else max deepest (max (parent + 1).toNat 1)
  let (acc, first, more, c) ← blockLines literal indent [] none breaks false fuel c
  let acc := if chomp = .strip then acc else first.toList ++ acc
  let acc := if chomp = .keep then more ++ acc else acc
  return (acc.reverse, c)

end ConstantScan.Yaml
