import ConstantScan.Regex.Matcher
import ConstantScan.Path

/-!
# Globs

A glob is matched against the bytes of a path: a character that takes several bytes counts as
several.
-/

namespace ConstantScan

open Unicode (Run Runs)

inductive GlobPart
  | literal (c : Char)
  /-- `?` -/
  | any
  /-- `*` -/
  | many
  /-- `**` and a slash at the start -/
  | outerDirs
  /-- A slash and `**` at the end -/
  | allBelow
  /-- `**` between slashes, which belong to it -/
  | innerDirs
  | set (negated : Bool) (ranges : List (Char × Char))
  | choice (branches : List (List GlobPart))
  deriving Repr

structure Glob where
  parts : List GlobPart
  /-- `*`, `?` and sets do not match a slash. -/
  keepsSlash : Bool := false
  deriving Repr

inductive GlobError
  | unclosedSet
  | invalidRange (first last : Char)
  | unclosedChoice
  | unopenedChoice
  | danglingEscape
  deriving DecidableEq, Repr

def GlobError.message : GlobError → String
  | unclosedSet => "unclosed character class; missing ']'"
  | invalidRange first last =>
    "invalid range; '" ++ String.singleton first ++ "' > '" ++ String.singleton last ++ "'"
  | unclosedChoice =>
    "unclosed alternate group; missing '\x7d' (maybe escape '\x7b' with '[\x7b]'?)"
  | unopenedChoice =>
    "unopened alternate group; missing '\x7b' (maybe escape '\x7d' with '[\x7d]'?)"
  | danglingEscape => "dangling '\\'"

namespace GlobPart

/-! ## What the parts match -/

def allBytes : List Run := [⟨0, 0xFF⟩]

def slashRun : List Run := Runs.single Path.slash.toNat

def notSlash : List Run := Runs.complement 0xFF slashRun

/-- One byte of those that `?` matches. -/
def oneByte (keepsSlash : Bool) : Regex := .one (if keepsSlash then notSlash else allBytes)

def slashRegex : Regex := .one slashRun

def allRegex : Regex := .star (.one allBytes)

def charRegex (c : Char) : Regex :=
  (String.utf8EncodeChar c).foldr (fun b r => Regex.andThen (.one (Runs.single b.toNat)) r) .empty

/-- The bytes of a range: between the last byte of its first and the first byte of its last
character, and the other bytes of the two. -/
def rangeBytes (range : Char × Char) : List Run :=
  let bytes (c : Char) := (String.utf8EncodeChar c).map UInt8.toNat
  let singles (ns : List Nat) : List Run := ns.foldl (fun s n => Runs.insert ⟨n, n⟩ s) []
  let first := bytes range.1
  let last := bytes range.2
  if range.1 = range.2 then singles first
  else
    Runs.insert ⟨first.getLastD 0, last.headD 0⟩
      (Runs.union (singles first.dropLast) (singles last.tail))

def setBytes (negated : Bool) (ranges : List (Char × Char)) : List Run :=
  let s := ranges.foldl (fun s r => Runs.union (rangeBytes r) s) []
  if negated then Runs.complement 0xFF s else s

mutual

/-- The parts as an expression on bytes; nothing if they leave no trace, as `{}` does. -/
def regexOf (keepsSlash : Bool) : List GlobPart → Option Regex
  | [] => none
  | p :: ps =>
    match partRegex keepsSlash p, regexOf keepsSlash ps with
    | none, r => r
    | some r, none => some r
    | some r, some s => some (.cat r s)

def partRegex (keepsSlash : Bool) : GlobPart → Option Regex
  | literal c => some (charRegex c)
  | any => some (oneByte keepsSlash)
  | many => some (.star (oneByte keepsSlash))
  | outerDirs => some (.alt (.optional slashRegex) (.cat allRegex slashRegex))
  | allBelow => some (.cat slashRegex allRegex)
  | innerDirs => some (.alt slashRegex (.cat slashRegex (.cat allRegex slashRegex)))
  | set negated ranges => some (.one (setBytes negated ranges))
  | choice branches => choiceRegex keepsSlash branches

/-- One of the branches; those that leave no trace do not count. -/
def choiceRegex (keepsSlash : Bool) : List (List GlobPart) → Option Regex
  | [] => none
  | b :: bs =>
    match regexOf keepsSlash b, choiceRegex keepsSlash bs with
    | none, r => r
    | some r, none => some r
    | some r, some s => some (.alt r s)

end

end GlobPart

namespace Glob

/-- The expression that the bytes of a whole path have to match. -/
def regex (g : Glob) : Regex :=
  match g.parts with
  | [.outerDirs] => GlobPart.allRegex
  | parts => (GlobPart.regexOf g.keepsSlash parts).getD .empty

def matchesBytes (g : Glob) (bytes : Bytes) : Bool :=
  (Regex.cat (.look .textStart) (.cat g.regex (.look .textEnd))).isFoundIn
    (bytes.map fun b => Char.ofNat b.toNat)

def matchesPath (g : Glob) (p : Path) : Bool := g.matchesBytes p.bytes

end Glob

end ConstantScan
