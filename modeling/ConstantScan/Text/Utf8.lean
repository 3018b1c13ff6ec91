/-!
# Reading UTF-8

Bytes that are no character read as U+FFFD, one for each longest start of a character.
-/

namespace ConstantScan

/-- Contents and names of files. -/
abbrev Bytes := List UInt8

namespace Utf8

/-- A character whose last bytes are still to come. -/
structure Partial where
  bits : Nat
  missing : Nat
  /-- The least and the greatest byte that may come next. -/
  low : UInt8 := 0x80
  high : UInt8 := 0xBF
  deriving DecidableEq, Repr

/-- The longer characters, by their first byte. -/
def leading? (b : UInt8) : Option Partial :=
  let n := b.toNat
  if b < 0xC2 then none
  else if b < 0xE0 then some { bits := n - 0xC0, missing := 1 }
  else if b = 0xE0 then some { bits := 0, missing := 2, low := 0xA0 }
  else if b = 0xED then some { bits := 0xD, missing := 2, high := 0x9F }
  else if b < 0xF0 then some { bits := n - 0xE0, missing := 2 }
  else if b = 0xF0 then some { bits := 0, missing := 3, low := 0x90 }
  else if b < 0xF4 then some { bits := n - 0xF0, missing := 3 }
  else if b = 0xF4 then some { bits := 4, missing := 3, high := 0x8F }
  else none

def replacement : Char := '\uFFFD'

/-- A reader in the middle of a text, which it holds last character first. -/
structure Reader where
  text : List Char := []
  pending : Option Partial := none
  deriving DecidableEq, Repr

namespace Reader

def emit (s : Reader) (c : Char) : Reader := { text := c :: s.text }

def abandon (s : Reader) : Reader :=
  match s.pending with
  | none => s
  | some _ => s.emit replacement

def start (s : Reader) (b : UInt8) : Reader :=
  if b < 0x80 then s.emit (Char.ofNat b.toNat)
  else
    match leading? b with
    | some p => { s with pending := some p }
    | none => s.emit replacement

def read (s : Reader) (b : UInt8) : Reader :=
  match s.pending with
  | none => s.start b
  | some p =>
    if p.low ≤ b && b ≤ p.high then
      let bits := p.bits * 64 + b.toNat % 64
      if p.missing = 1 then s.emit (Char.ofNat bits)
      else { s with pending := some { bits, missing := p.missing - 1 } }
    else s.abandon.start b

end Reader

def decode (bs : Bytes) : List Char := (bs.foldl Reader.read {}).abandon.text.reverse

def encode (cs : List Char) : Bytes := cs.flatMap String.utf8EncodeChar

def ofString (s : String) : Bytes := s.toByteArray.toList

/-- Whether the bytes are a text, and nothing had to be replaced. -/
def isValid (bs : Bytes) : Bool := encode (decode bs) == bs

def toString (bs : Bytes) : String := String.ofList (decode bs)

theorem decode_nil : decode [] = [] := rfl

end Utf8

end ConstantScan
