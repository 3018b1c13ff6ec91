/-! # Coloured text -/

namespace ConstantScan

inductive Color
  | red
  | green
  | yellow
  | cyan
  deriving DecidableEq, Repr

def Color.code : Color → Nat
  | red => 31
  | green => 32
  | yellow => 33
  | cyan => 36

inductive Weight
  | bold
  | dim
  deriving DecidableEq, Repr

def Weight.code : Weight → Nat
  | bold => 1
  | dim => 2

structure Style where
  color : Option Color := none
  weight : Option Weight := none
  deriving DecidableEq, Repr

namespace Style

/-- The sequence that switches to a code. -/
def switch (code : Nat) : String := "\x1b[" ++ toString code ++ "m"

def reset : String := switch 0

/-- The color comes before the weight. -/
def codes (s : Style) : List Nat :=
  (s.color.map Color.code).toList ++ (s.weight.map Weight.code).toList

/-- The text in the style, or as it is if styles are off. -/
def paint (s : Style) (on : Bool) (text : String) : String :=
  if on && !s.codes.isEmpty then String.join (s.codes.map switch) ++ text ++ reset else text

theorem paint_off (s : Style) (text : String) : s.paint false text = text := rfl

def plain : Style := {}

def bold : Style := { weight := some .bold }

def dim : Style := { weight := some .dim }

def colored (c : Color) : Style := { color := some c }

def boldColored (c : Color) : Style := { color := some c, weight := some .bold }

end Style

end ConstantScan
