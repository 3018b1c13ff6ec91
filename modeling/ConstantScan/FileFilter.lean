import ConstantScan.Config.Basic
import ConstantScan.Glob.Parser
import ConstantScan.NameSet

/-! # Which files are scanned and which directories are entered -/

namespace ConstantScan

structure FileFilter where
  /-- Without a leading dot, none of them empty. -/
  extensions : NameSet
  prunedDirs : NameSet
  /-- A file whose place under the root matches one of them is left out. -/
  ignored : List Glob

/-- How globs are put together to be matched at once, or what is wrong with them as a whole. -/
abbrev GlobJoiner := List Glob → Except String Unit

inductive FilterError
  | invalidGlob (glob : String) (cause : GlobError)
  /-- Globs that can all be read cannot be put together. -/
  | globSet (cause : String)
  deriving DecidableEq, Repr

namespace FilterError

def message : FilterError → String
  | invalidGlob glob _ => "Invalid ignore glob '" ++ glob ++ "'"
  | globSet _ => "Failed to build ignore globs"

def causes : FilterError → List String
  | invalidGlob glob cause => ["error parsing glob '" ++ glob ++ "': " ++ cause.message]
  | globSet cause => [cause]

end FilterError

namespace FileFilter

def normalExtensions (extensions : List String) : NameSet :=
  .ofList ((extensions.map bareExtension).filter (!·.isEmpty))

def readGlob (text : String) : Except FilterError Glob :=
  (Glob.ofString text).mapError (.invalidGlob text)

/-- Puts any globs together. -/
def joinAny : GlobJoiner := fun _ => .ok ()

def ofSettings (settings : ScanSettings) (join : GlobJoiner := joinAny) :
    Except FilterError FileFilter := do
  let ignored ← settings.ignorePaths.mapM readGlob
  (join ignored).mapError .globSet
  return { extensions := normalExtensions settings.extensions
           prunedDirs := .ofList settings.excludeDirs
           ignored }

/-- Whether a name is a stem that is not empty, a dot and one of the extensions. -/
def hasExtension (f : FileFilter) (name : Bytes) : Bool :=
  f.extensions.names.any fun e =>
    let ending := 0x2E :: Utf8.ofString e
    ending.length < name.length && ending.isSuffixOf name

def isScannable (f : FileFilter) (p : Path) : Bool := p.fileName?.any f.hasExtension

/-- `place` is the path below the root. -/
def isIgnored (f : FileFilter) (place : Path) : Bool := f.ignored.any (·.matchesPath place)

def isPruned (f : FileFilter) (dirName : String) : Bool := f.prunedDirs.contains dirName

end FileFilter

end ConstantScan
