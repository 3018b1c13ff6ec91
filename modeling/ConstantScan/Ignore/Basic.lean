import ConstantScan.Glob.Parser

/-!
# Ignore files

An ignore file rules over the paths below its directory. Of its lines the last that matches a path
decides.
-/

namespace ConstantScan

inductive Verdict
  | ignored
  | allowed
  deriving DecidableEq, Repr

structure IgnoreRule where
  glob : Glob
  verdict : Verdict
  /-- It is about directories alone. -/
  onlyDirs : Bool
  deriving Repr

def dropStart (start bytes : Bytes) : Bytes :=
  if start.isPrefixOf bytes then bytes.drop start.length else bytes

def dotSlash : Bytes := [0x2E, Path.slash]

structure IgnoreFile where
  /-- The directory that its paths start from. -/
  dir : Path
  /-- The last line comes first. -/
  rules : List IgnoreRule := []
  deriving Repr

namespace IgnoreFile

/-- The part of a path that the rules see. -/
def place (f : IgnoreFile) (path : Bytes) : Bytes :=
  let path := dropStart dotSlash path
  let dir := dropStart dotSlash f.dir.bytes
  if Path.components ⟨dir⟩ = [.here] || !path.contains Path.slash then path
  else dropStart [Path.slash] (dropStart dir path)

def verdict? (f : IgnoreFile) (path : Bytes) (isDir : Bool) : Option Verdict :=
  if f.rules.isEmpty then none
  else
    let place := f.place path
    (f.rules.find? fun r => (!r.onlyDirs || isDir) && r.glob.matchesBytes place).map
      IgnoreRule.verdict

end IgnoreFile

end ConstantScan
