/-!
# Lines

A line ends in a return, a newline, or a return and a newline. A text that ends in one of these has
no further line after it.
-/

namespace ConstantScan.Lines

variable {α : Type} [DecidableEq α]

/-- A reader in the middle of a text; it holds lines and the items of a line last one first. -/
structure Reader (α : Type) where
  lines : List (List α) := []
  current : List α := []
  /-- The item just read was a return. -/
  afterReturn : Bool := false
  deriving DecidableEq, Repr

def Reader.endLine (s : Reader α) (afterReturn : Bool) : Reader α :=
  { lines := s.current.reverse :: s.lines, afterReturn }

/-- Reads one item of a text where `cr` is the return and `lf` the newline. -/
def Reader.read (cr lf : α) (s : Reader α) (x : α) : Reader α :=
  if x = lf then
    if s.afterReturn then { s with afterReturn := false } else s.endLine false
  else if x = cr then s.endLine true
  else { s with current := x :: s.current, afterReturn := false }

def Reader.finish (s : Reader α) : List (List α) :=
  match s.current with
  | [] => s.lines.reverse
  | _ => (s.endLine false).lines.reverse

/-- The lines without their ends. -/
def split (cr lf : α) (xs : List α) : List (List α) := (xs.foldl (Reader.read cr lf) {}).finish

end ConstantScan.Lines
