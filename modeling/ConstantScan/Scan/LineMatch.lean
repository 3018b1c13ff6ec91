import ConstantScan.Rule.Basic
import ConstantScan.Text.Utf8
import ConstantScan.Text.Lines

/-! # The lines of a content that rules match -/

namespace ConstantScan

structure LineMatch where
  /-- The first line is 1. -/
  line : Nat
  /-- The whole line, without its end. -/
  text : String
  rule : String
  deriving DecidableEq, Repr

def textLines (text : List Char) : List (List Char) := Lines.split '\r' '\n' text

namespace RuleSet

def scanLine (rules : RuleSet) (number : Nat) (line : List Char) : List LineMatch :=
  (rules.matching line).map fun r => ⟨number, String.ofList line, r.name⟩

def scanLines (rules : RuleSet) (lines : List (List Char)) : List LineMatch :=
  (lines.zipIdx 1).flatMap fun (line, number) => rules.scanLine number line

/-- Line by line, and for each line rule by rule. -/
def scan (rules : RuleSet) (content : Bytes) : List LineMatch :=
  rules.scanLines (textLines (Utf8.decode content))

end RuleSet

end ConstantScan
