import ConstantScan.Value
import ConstantScan.Unicode.Runs

/-! # Reading JSON -/

namespace ConstantScan.Json

open Unicode (Runs)

def isBlank (c : Char) : Bool := c == ' ' || c == '\n' || c == '\t' || c == '\r'

def skip (cs : List Char) : List Char := cs.dropWhile isBlank

/-! ## Strings -/

def hex4 : List Char → Option (Nat × List Char)
  | a :: b :: c :: d :: rest => do
    let a ← Runs.hexDigit? a
    let b ← Runs.hexDigit? b
    let c ← Runs.hexDigit? c
    let d ← Runs.hexDigit? d
    return (((a * 16 + b) * 16 + c) * 16 + d, rest)
  | _ => none

def scalar? (n : Nat) : Option Char :=
  if h : n.isValidChar then some (Char.ofNatAux n h) else none

/-- After a backslash and `u`: one unit, or two that form a pair of surrogates. -/
def unicodeEscape (cs : List Char) : Option (Char × List Char) := do
  let (high, rest) ← hex4 cs
  if 0xD800 ≤ high && high < 0xDC00 then
    match rest with
    | '\\' :: 'u' :: rest =>
      let (low, rest) ← hex4 rest
      guard (0xDC00 ≤ low && low < 0xE000)
      let c ← scalar? (0x10000 + (high - 0xD800) * 0x400 + (low - 0xDC00))
      return (c, rest)
    | _ => none
  else
    let c ← scalar? high
    return (c, rest)

def escape : List Char → Option (Char × List Char)
  | '"' :: cs => some ('"', cs)
  | '\\' :: cs => some ('\\', cs)
  | '/' :: cs => some ('/', cs)
  | 'b' :: cs => some ('\x08', cs)
  | 'f' :: cs => some ('\x0c', cs)
  | 'n' :: cs => some ('\n', cs)
  | 'r' :: cs => some ('\r', cs)
  | 't' :: cs => some ('\t', cs)
  | 'u' :: cs => unicodeEscape cs
  | _ => none

/-- The text up to the closing quote; `acc` holds what is read, last character first. -/
def stringBody (acc : List Char) : (fuel : Nat) → List Char → Option (List Char × List Char)
  | 0, _ => none
  | fuel + 1, cs =>
    match cs with
    | [] => none
    | '"' :: rest => some (acc.reverse, rest)
    | '\\' :: rest => (escape rest).bind fun (c, rest) => stringBody (c :: acc) fuel rest
    | c :: rest => if c.toNat < 0x20 then none else stringBody (c :: acc) fuel rest

/-! ## Numbers -/

def maxUnsigned : Nat := UInt64.size - 1

/-- A whole number with as many leading digits as 64 bits hold, and how many digits were cut. -/
def wholePart (digits : List Char) : Nat × Nat :=
  digits.foldl
    (fun (v, cut) c =>
      let next := v * 10 + (c.toNat - '0'.toNat)
      if cut = 0 && next ≤ maxUnsigned then (next, 0) else (v, cut + 1))
    (0, 0)

/-- Takes more digits into the significand while 64 bits hold it. -/
def fractionPart (significand : Nat) (digits : List Char) : Nat × Nat :=
  (digits.foldl
    (fun ((v, taken), full) c =>
      let next := v * 10 + (c.toNat - '0'.toNat)
      if !full && next ≤ maxUnsigned then ((next, taken + 1), false) else ((v, taken), true))
    ((significand, 0), false)).1

/-- Scales by powers of ten, at most 308 at a time; nothing if the result has no finite value. -/
def scale (f : Float) (exponent : Int) : (fuel : Nat) → Option Float
  | 0 => some f
  | fuel + 1 =>
    if exponent.natAbs ≤ 308 then
      let power := Float.ofScientific 1 false exponent.natAbs
      if exponent ≥ 0 then
        let g := f * power
        if g.isInf then none else some g
      else some (f / power)
    else if f == 0 then some f
    else if exponent ≥ 0 then none
    else scale (f / Float.ofScientific 1 false 308) (exponent + 308) fuel

def toDouble? (negative : Bool) (significand : Nat) (exponent : Int) : Option Double :=
  (scale significand.toUInt64.toFloat exponent (exponent.natAbs / 308 + 2)).map fun f =>
    Double.ofFloat (if negative then -f else f)

def spanDigits (cs : List Char) : List Char × List Char :=
  let digits := cs.takeWhile Char.isDigit
  (digits, cs.drop digits.length)

def exponentPart : List Char → Option (Option Int × List Char)
  | c :: cs =>
    if c = 'e' || c = 'E' then
      let (negative, cs) := match cs with
        | '-' :: cs => (true, cs)
        | '+' :: cs => (false, cs)
        | cs => (false, cs)
      let (digits, rest) := spanDigits cs
      if digits.isEmpty then none
      else
        let n := digits.foldl (fun v c => min (v * 10 + (c.toNat - '0'.toNat)) 100000) 0
        some (some (if negative then -(n : Int) else n), rest)
    else some (none, c :: cs)
  | [] => some (none, [])

def wholeNumber? (negative : Bool) (value cut : Nat) : Option Number :=
  if cut = 0 && !negative then some (.unsigned value)
  else if cut = 0 && 0 < value && value ≤ Nat.pow 2 63 then some (.signed (-(value : Int)))
  else (toDouble? negative value cut).map .float

/-- A number after its sign. -/
def unsignedNumber (negative : Bool) (cs : List Char) : Option (Number × List Char) :=
  let (digits, rest) := spanDigits cs
  let leadingZero := match digits with
    | '0' :: _ :: _ => true
    | _ => false
  if digits.isEmpty || leadingZero then none
  else
    let (value, cut) := wholePart digits
    match rest with
    | '.' :: more =>
      let (places, rest) := spanDigits more
      if places.isEmpty then none
      else do
        let (e, rest) ← exponentPart rest
        let (significand, taken) := if cut = 0 then fractionPart value places else (value, 0)
        let x ← toDouble? negative significand ((cut : Int) - taken + e.getD 0)
        return (.float x, rest)
    | _ => do
      let (e, rest) ← exponentPart rest
      match e with
      | none =>
        let n ← wholeNumber? negative value cut
        return (n, rest)
      | some e =>
        let x ← toDouble? negative value (cut + e)
        return (.float x, rest)

def number : List Char → Option (Number × List Char)
  | '-' :: cs => unsignedNumber true cs
  | cs => unsignedNumber false cs

/-! ## Values -/

/-- How many lists and objects may be open at once. -/
def maxOpen : Nat := 127

mutual

/-- A value at the start of the text; `room` is how many lists and objects may still open. -/
def value (room : Nat) : (fuel : Nat) → List Char → Option (Value × List Char)
  | 0, _ => none
  | fuel + 1, cs =>
    match skip cs with
    | 'n' :: 'u' :: 'l' :: 'l' :: rest => some (.null, rest)
    | 't' :: 'r' :: 'u' :: 'e' :: rest => some (.bool true, rest)
    | 'f' :: 'a' :: 'l' :: 's' :: 'e' :: rest => some (.bool false, rest)
    | '"' :: rest =>
      (stringBody [] fuel rest).map fun (s, rest) => (.string (String.ofList s), rest)
    | '[' :: rest =>
      match room with
      | 0 => none
      | room + 1 =>
        match skip rest with
        | ']' :: rest => some (.list [], rest)
        | rest => (items room [] fuel rest).map fun (vs, rest) => (.list vs, rest)
    | '\x7b' :: rest =>
      match room with
      | 0 => none
      | room + 1 =>
        match skip rest with
        | '\x7d' :: rest => some (.dict [], rest)
        | rest => (members room [] fuel rest).map fun (d, rest) => (.dict (Dict.ofList d), rest)
    | rest => (number rest).map fun (n, rest) => (.number n, rest)

def items (room : Nat) (acc : List Value) : (fuel : Nat) → List Char →
    Option (List Value × List Char)
  | 0, _ => none
  | fuel + 1, cs =>
    match value room fuel cs with
    | none => none
    | some (v, rest) =>
      match skip rest with
      | ',' :: rest => items room (v :: acc) fuel rest
      | ']' :: rest => some ((v :: acc).reverse, rest)
      | _ => none

def members (room : Nat) (acc : Dict) : (fuel : Nat) → List Char → Option (Dict × List Char)
  | 0, _ => none
  | fuel + 1, cs =>
    match skip cs with
    | '"' :: rest =>
      match stringBody [] fuel rest with
      | none => none
      | some (key, rest) =>
        match skip rest with
        | ':' :: rest =>
          match value room fuel rest with
          | none => none
          | some (v, rest) =>
            let acc := (String.ofList key, v) :: acc
            match skip rest with
            | ',' :: rest => members room acc fuel rest
            | '\x7d' :: rest => some (acc.reverse, rest)
            | _ => none
        | _ => none
    | _ => none

end

def parseChars (cs : List Char) : Option Value :=
  match value maxOpen (cs.length + 1) cs with
  | some (v, rest) => if (skip rest).isEmpty then some v else none
  | none => none

def parse (text : String) : Option Value := parseChars text.toList

end ConstantScan.Json
