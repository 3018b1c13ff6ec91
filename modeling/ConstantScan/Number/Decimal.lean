import ConstantScan.Number.Double

/-! # Reading decimal numbers -/

namespace ConstantScan

namespace Decimal

def digitValue (c : Char) : Nat := c.toNat - '0'.toNat

def ofDigits (cs : List Char) : Nat := cs.foldl (fun n c => n * 10 + digitValue c) 0

def spanDigits (cs : List Char) : List Char × List Char :=
  (cs.takeWhile Char.isDigit, cs.dropWhile Char.isDigit)

theorem spanDigits_append (cs : List Char) : (spanDigits cs).1 ++ (spanDigits cs).2 = cs :=
  List.takeWhile_append_dropWhile

/-- A sign at the start: whether it is a minus, and the rest. -/
def splitSign : List Char → Bool × List Char
  | '-' :: cs => (true, cs)
  | '+' :: cs => (false, cs)
  | cs => (false, cs)

/-- An exponent that is the rest of a text; zero if nothing is left. -/
def exponent? : List Char → Option Int
  | [] => some 0
  | c :: cs =>
    if c = 'e' || c = 'E' then
      let (negative, digits) := splitSign cs
      if digits.isEmpty || !digits.all Char.isDigit then none
      else
        let n : Int := ofDigits digits
        some (if negative then -n else n)
    else none

/-- The number that a text writes: digits with a point among them, at an end or missing, then an
exponent if it has one. -/
def read? (cs : List Char) : Option Double :=
  let (negative, cs) := splitSign cs
  let (whole, rest) := spanDigits cs
  let (places, rest) := match rest with
    | '.' :: rest => spanDigits rest
    | rest => ([], rest)
  if whole.isEmpty && places.isEmpty then none
  else
    (exponent? rest).map fun e =>
      Double.ofDecimal negative (ofDigits (whole ++ places)) (e - places.length)

def natural? (cs : List Char) : Option Nat :=
  if cs.isEmpty || !cs.all Char.isDigit then none else some (ofDigits cs)

end Decimal

end ConstantScan
