import ConstantScan.Unicode.Property

/-! # Regular expressions -/

namespace ConstantScan

open Unicode (Run Runs)

/-! ## Positions in a text -/

/-- The characters on both sides of a position, none at an end of the text. -/
structure Around where
  before : Option Char
  after : Option Char
  deriving DecidableEq, Repr

/-- Which sides of a position a word must or must not touch. -/
inductive WordEdge
  | edge
  | inside
  | start
  | stop
  | startHalf
  | stopHalf
  deriving DecidableEq, Repr

/-- A condition on a position; it matches no character. -/
inductive Look
  | textStart
  | textEnd
  | lineStart
  | lineEnd
  /-- The start of a line where a return, a newline or both together end the line before. -/
  | returnLineStart
  | returnLineEnd
  /-- `ascii` restricts words to the letters and digits of ASCII and the underscore. -/
  | word (kind : WordEdge) (ascii : Bool)
  deriving DecidableEq, Repr

def isAsciiWord (c : Char) : Bool := c.isAlphanum || c == '_'

def Look.isWord (ascii : Bool) : Option Char → Bool
  | none => false
  | some c => if ascii then isAsciiWord c else Unicode.isWord c

def WordEdge.holds (left right : Bool) : WordEdge → Bool
  | edge => left != right
  | inside => left == right
  | start => !left && right
  | stop => left && !right
  | startHalf => !left
  | stopHalf => !right

def Look.holds (p : Around) : Look → Bool
  | textStart => p.before.isNone
  | textEnd => p.after.isNone
  | lineStart => p.before.isNone || p.before == some '\n'
  | lineEnd => p.after.isNone || p.after == some '\n'
  | returnLineStart =>
    p.before.isNone || p.before == some '\n' || (p.before == some '\r' && p.after != some '\n')
  | returnLineEnd =>
    p.after.isNone || p.after == some '\r' || (p.after == some '\n' && p.before != some '\r')
  | word kind ascii => kind.holds (isWord ascii p.before) (isWord ascii p.after)

/-! ## Expressions -/

inductive Regex
  | empty
  | look (l : Look)
  | one (set : List Run)
  | cat (r s : Regex)
  | alt (r s : Regex)
  | star (r : Regex)
  deriving DecidableEq, Repr

namespace Regex

def optional (r : Regex) : Regex := alt r empty

def times (r : Regex) : Nat → Regex
  | 0 => empty
  | 1 => r
  | n + 1 => cat r (times r n)

def upTo (r : Regex) : Nat → Regex
  | 0 => empty
  | 1 => optional r
  | n + 1 => optional (cat r (upTo r n))

def andThen : Regex → Regex → Regex
  | empty, s => s
  | r, empty => r
  | r, s => cat r s

/-- At least `least` times, and at most `most` times if that is given. -/
def repeated (r : Regex) (least : Nat) : Option Nat → Regex
  | none => andThen (times r least) (star r)
  | some most => andThen (times r least) (upTo r (most - least))

/-- No match of it holds a character. -/
def isWidthless : Regex → Bool
  | empty | look _ => true
  | one _ => false
  | cat r s | alt r s => r.isWidthless && s.isWidthless
  | star r => r.isWidthless

end Regex

end ConstantScan
