import ConstantScan.Text.Style

/-! # Status lines around reports -/

namespace ConstantScan

@[ext]
structure Printed where
  out : String := ""
  err : String := ""
  deriving DecidableEq, Repr, Inhabited

namespace Printed

def append (p q : Printed) : Printed := ⟨p.out ++ q.out, p.err ++ q.err⟩

instance : Append Printed := ⟨append⟩

def line (text : String) : Printed := { out := text ++ "\n" }

def errorLine (text : String) : Printed := { err := text ++ "\n" }

def join (ps : List Printed) : Printed := ps.foldl append {}

end Printed

structure Console where
  verbose : Bool
  color : Bool
  deriving DecidableEq, Repr

namespace Console

/-- `available` says whether colors are on at all. -/
def make (verbose noColor available : Bool) : Console := ⟨verbose, !noColor && available⟩

def paint (c : Console) (s : Style) (text : String) : String := s.paint c.color text

def success (c : Console) (message : String) : Printed :=
  .line (c.paint (.colored .green) "✔" ++ " " ++ message)

def error (c : Console) (message : String) : Printed :=
  .errorLine (c.paint (.colored .red) "✖" ++ " " ++ message)

def warning (c : Console) (message : String) : Printed :=
  .errorLine (c.paint (.colored .yellow) "⚠" ++ " " ++ message)

def step (c : Console) (message : String) : Printed :=
  .line (c.paint (.colored .cyan) "❯" ++ " " ++ message)

def detail (c : Console) (message : String) : Printed :=
  if c.verbose then .errorLine (c.paint .dim "ℹ" ++ " " ++ c.paint .dim message) else {}

def header (c : Console) (title : String) : Printed := .line (c.paint .bold title)

/-- How many characters a key takes at least. -/
def keyWidth : Nat := 14

def padded (key : String) : String :=
  key ++ String.ofList (List.replicate (keyWidth - key.length) ' ')

def keyValue (c : Console) (key value : String) (highlight : Bool) : Printed :=
  let style := if highlight then Style.boldColored .green else .plain
  .line ("  " ++ c.paint .dim (padded key) ++ " " ++ c.paint style value)

def status (c : Console) (status message : String) (good : Bool) : Printed :=
  let icon := if good then "✓" else "✗"
  let color := if good then Color.green else .red
  .line (c.paint .bold icon ++ " " ++ c.paint (.boldColored color) status ++ " " ++ message)

end Console

end ConstantScan
