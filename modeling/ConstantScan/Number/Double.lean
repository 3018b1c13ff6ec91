/-!
# Binary floating point

Finite numbers are written with the fewest digits that read back, found in exact arithmetic.
-/

namespace ConstantScan

/-- A number in the 64-bit binary format, by its bits. -/
structure Double where
  bits : UInt64
  deriving DecidableEq, Repr, Inhabited

/-- The digits and the power of ten of a decimal: `digits * 10 ^ exponent`. -/
structure Decimal where
  digits : Nat
  exponent : Int
  deriving DecidableEq, Repr

/-- The quotient to the nearest whole number; a half goes to the even neighbour. -/
def roundDiv (n d : Nat) : Nat :=
  let q := n / d
  let twice := 2 * (n % d)
  if twice < d then q else if d < twice then q + 1 else q + q % 2

namespace Double

/-- How many binary digits a number has. -/
def precision : Nat := 53

/-- The number nearest to a whole number, which is one itself. -/
def nearest (n : Nat) : Nat :=
  let unit := Nat.pow 2 (n.log2 + 1 - precision)
  roundDiv n unit * unit

def ofFloat (x : Float) : Double := ⟨x.toBits⟩

def toFloat (d : Double) : Float := Float.ofBits d.bits

def zero : Double := ⟨0⟩

def infinity : Double := ⟨0x7FF0000000000000⟩

def nan : Double := ⟨0x7FF8000000000000⟩

def negate (d : Double) : Double := ⟨d.bits ^^^ 0x8000000000000000⟩

/-- The magnitude nearest to `mantissa * 10 ^ exponent`, which is far from the ends of the format
if its exponent is. -/
def magnitudeOf (mantissa : Nat) (exponent : Int) : Double :=
  let size := exponent + (toString mantissa).length
  if mantissa = 0 || size < -400 then zero
  else if size > 400 then infinity
  else
    match exponent with
    | .ofNat e => ofFloat (Float.ofScientific mantissa false e)
    | .negSucc e => ofFloat (Float.ofScientific mantissa true (e + 1))

def ofDecimal (negative : Bool) (mantissa : Nat) (exponent : Int) : Double :=
  let d := magnitudeOf mantissa exponent
  if negative then d.negate else d

def isNegative (d : Double) : Bool := d.bits.toNat ≥ Nat.pow 2 63

def exponentBits (d : Double) : Nat := d.bits.toNat / Nat.pow 2 52 % Nat.pow 2 11

def fractionBits (d : Double) : Nat := d.bits.toNat % Nat.pow 2 52

def isNaN (d : Double) : Bool := d.exponentBits == 2047 && d.fractionBits != 0

def isInfinite (d : Double) : Bool := d.exponentBits == 2047 && d.fractionBits == 0

def parts (d : Double) : Nat × Int :=
  if d.exponentBits = 0 then (d.fractionBits, -1074)
  else (Nat.pow 2 52 + d.fractionBits, (d.exponentBits : Int) - 1075)

/-! ## The fewest digits -/

/-- A magnitude and the ends of the interval that rounds to it, over one denominator. -/
structure Interval where
  low : Nat
  value : Nat
  high : Nat
  denominator : Nat
  /-- Whether the ends round to the value, too. -/
  closed : Bool

def interval (d : Double) : Interval :=
  let (m, q) := d.parts
  let narrow := d.fractionBits = 0 && d.exponentBits > 1
  let up := Nat.pow 2 q.toNat
  { low := (if narrow then 4 * m - 1 else 4 * m - 2) * up
    value := 4 * m * up
    high := (4 * m + 2) * up
    denominator := 4 * Nat.pow 2 (-q).toNat
    closed := m % 2 == 0 }

def Interval.holds (i : Interval) (numerator scale : Nat) : Bool :=
  let low := i.low * scale
  let high := i.high * scale
  if i.closed then low ≤ numerator && numerator ≤ high else low < numerator && numerator < high

/-- A multiple of `10 ^ exponent` that rounds to the value, the nearer one if there are two. -/
def Interval.onGrid? (i : Interval) (exponent : Int) : Option Nat :=
  let scale := Nat.pow 10 (-exponent).toNat
  let unit := i.denominator * Nat.pow 10 exponent.toNat
  let below := i.value * scale / unit
  let hit (k : Nat) := i.holds (k * unit) scale
  if hit below && hit (below + 1) then
    let gap := i.value * scale - below * unit
    some (if gap * 2 ≤ unit then below else below + 1)
  else if hit below && below ≠ 0 then some below
  else if hit (below + 1) then some (below + 1)
  else none

/-- The least `e` with `value < 10 ^ e`, searched upward from `e`. -/
def Interval.magnitude (i : Interval) (e : Int) : (fuel : Nat) → Int
  | 0 => e
  | fuel + 1 =>
    if i.value * Nat.pow 10 (-e).toNat < i.denominator * Nat.pow 10 e.toNat then e
    else i.magnitude (e + 1) fuel

def Interval.search (i : Interval) (exponent : Int) : (fuel : Nat) → Decimal
  | 0 => ⟨0, 0⟩
  | fuel + 1 =>
    match i.onGrid? exponent with
    | some k => ⟨k, exponent⟩
    | none => i.search (exponent - 1) fuel

def dropZeros (digits : Nat) (exponent : Int) : (fuel : Nat) → Decimal
  | 0 => ⟨digits, exponent⟩
  | fuel + 1 =>
    if digits % 10 = 0 && digits ≠ 0 then dropZeros (digits / 10) (exponent + 1) fuel
    else ⟨digits, exponent⟩

/-- The shortest decimal that reads back as the magnitude of a finite number. -/
def shortest (d : Double) : Decimal :=
  if d.parts.1 = 0 then ⟨0, 0⟩
  else
    let i := d.interval
    let s := i.search (i.magnitude (-330) 700) 20
    dropZeros s.digits s.exponent 20

/-! ## Texts -/

def zeros (n : Nat) : String := String.ofList (List.replicate n '0')

/-- Positional notation, with a point only where digits follow it. -/
def positional (d : Decimal) : String :=
  let text := toString d.digits
  let count := text.length
  if d.exponent ≥ 0 then text ++ zeros d.exponent.toNat
  else
    let places := (-d.exponent).toNat
    if places < count then
      String.ofList (text.toList.take (count - places)) ++ "." ++
        String.ofList (text.toList.drop (count - places))
    else "0." ++ zeros (places - count) ++ text

def signed (d : Double) (magnitude : String) : String :=
  if d.isNegative then "-" ++ magnitude else magnitude

/-- The plain text: no exponent, and no point for whole numbers. -/
def plain (d : Double) : String :=
  if d.isNaN then "NaN"
  else if d.isInfinite then d.signed "inf"
  else d.signed (positional d.shortest)

/-- The marked text: whole numbers end in `.0`, very large and small ones have an exponent. -/
def marked (d : Double) : String :=
  let s := d.shortest
  let text := toString s.digits
  let point := (text.length : Int) + s.exponent
  if s.digits = 0 then d.signed "0.0"
  else if -5 < point && point ≤ 16 then
    d.signed (if s.exponent ≥ 0 then positional s ++ ".0" else positional s)
  else
    let mantissa :=
      match text.toList with
      | [] => ""
      | [c] => String.singleton c
      | c :: cs => String.ofList (c :: '.' :: cs)
    d.signed (mantissa ++ "e" ++ toString (point - 1))

end Double

end ConstantScan
