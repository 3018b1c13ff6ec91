/-! # Sets of code points as ascending runs -/

namespace ConstantScan.Unicode

/-- The code points from `first` to `last`, both included. -/
structure Run where
  first : Nat
  last : Nat
  deriving DecidableEq, Repr, Inhabited

/-- A set of code points: ascending runs with a gap between one and the next. -/
abbrev Runs := List Run

def maxCodePoint : Nat := 0x10FFFF

namespace Runs

def contains (n : Nat) : List Run → Bool
  | [] => false
  | r :: rs => if n < r.first then false else n ≤ r.last || contains n rs

/-- Adds a run; it swallows the runs that it meets or touches. -/
def insert (r : Run) : List Run → List Run
  | [] => [r]
  | s :: ss =>
    if r.last + 1 < s.first then r :: s :: ss
    else if s.last + 1 < r.first then s :: insert r ss
    else insert ⟨min r.first s.first, max r.last s.last⟩ ss

def union (a b : List Run) : List Run := a.foldr insert b

/-- What the runs leave out between `low` and `top`. -/
def gaps (low top : Nat) : List Run → List Run
  | [] => if low ≤ top then [⟨low, top⟩] else []
  | r :: rs =>
    if low < r.first then ⟨low, r.first - 1⟩ :: gaps (r.last + 1) top rs
    else gaps (r.last + 1) top rs

def complement (top : Nat) (a : List Run) : List Run := gaps 0 top a

def inter (top : Nat) (a b : List Run) : List Run :=
  complement top (union (complement top a) (complement top b))

def diff (top : Nat) (a b : List Run) : List Run := inter top a (complement top b)

def symmDiff (top : Nat) (a b : List Run) : List Run :=
  union (diff top a b) (diff top b a)

def single (n : Nat) : List Run := [⟨n, n⟩]

theorem contains_single (n m : Nat) : contains n (single m) = true ↔ n = m := by
  simp [contains, single]
  omega

/-- No code point is above `top`. -/
def below (top : Nat) (a : List Run) : Bool := a.all (·.last ≤ top)

/-! ## The written form

Items are separated by blanks. An item is the gap since the run before, and for a run longer than
one code point a dash and the length of the rest, both in hexadecimal. -/

def hexDigit? (c : Char) : Option Nat :=
  if '0' ≤ c && c ≤ '9' then some (c.toNat - '0'.toNat)
  else if 'a' ≤ c && c ≤ 'f' then some (c.toNat - 'a'.toNat + 10)
  else if 'A' ≤ c && c ≤ 'F' then some (c.toNat - 'A'.toNat + 10)
  else none

/-- A reader in the middle of a list of runs, which it holds last one first. -/
structure Reader where
  runs : List Run := []
  next : Nat := 0
  gap : Nat := 0
  rest : Option Nat := none

def Reader.flush (s : Reader) : Reader :=
  let first := s.next + s.gap
  let last := first + s.rest.getD 0
  { runs := ⟨first, last⟩ :: s.runs, next := last + 1 }

def Reader.read (s : Reader) (c : Char) : Reader :=
  if c = ' ' then s.flush
  else if c = '-' then { s with rest := some 0 }
  else
    let d := (hexDigit? c).getD 0
    match s.rest with
    | none => { s with gap := s.gap * 16 + d }
    | some n => { s with rest := some (n * 16 + d) }

def decode (text : String) : List Run :=
  if text.isEmpty then [] else (text.foldl Reader.read {}).flush.runs.reverse

end Runs

end ConstantScan.Unicode
