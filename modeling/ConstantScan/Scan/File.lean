import ConstantScan.Config.Basic
import ConstantScan.FileTree
import ConstantScan.Number.Double
import ConstantScan.Scan.LineMatch

/-! # Scanning one file -/

namespace ConstantScan

inductive SkipReason
  | unreadable (error : ReadError)
  /-- The size in bytes and the limit in units of `bytesPerMb`. -/
  | tooLarge (size limit : Nat)
  | binary
  deriving DecidableEq, Repr

inductive FileOutcome
  | scanned (found : List LineMatch)
  | skipped (reason : SkipReason)
  deriving DecidableEq, Repr

def FileOutcome.found : FileOutcome → List LineMatch
  | scanned found => found
  | skipped _ => []

/-! ## Size -/

def bytesPerMb : Nat := 1024 * 1024

/-- Whether that many bytes are more than the limit in megabytes. Both are compared as floating point
numbers, where the division by a power of two is exact. -/
def exceeds (size limit : Nat) : Bool :=
  bytesPerMb * Double.nearest limit < Double.nearest size

def sizeText (size : Nat) : String :=
  let tenths := roundDiv (Double.nearest size * 10) bytesPerMb
  toString (tenths / 10) ++ "." ++ toString (tenths % 10)

def SkipReason.message : SkipReason → String
  | unreadable e => "could not read file: " ++ e.message
  | tooLarge size limit =>
    "file is " ++ sizeText size ++ "MB, limit is " ++ toString limit ++ "MB"
  | binary => "binary content"

/-! ## Kind of content -/

/-- What a text may start with to say how it is encoded. -/
def byteOrderMarks : List Bytes :=
  [[0xEF, 0xBB, 0xBF], [0x00, 0x00, 0xFE, 0xFF], [0xFF, 0xFE, 0x00, 0x00], [0xFE, 0xFF],
    [0xFF, 0xFE]]

/-- How documents and images start that may hold no zero byte early on. -/
def binaryMarks : List Bytes := [[0x25, 0x50, 0x44, 0x46], [0x89, 0x50, 0x4E, 0x47]]

def inspectedLength : Nat := 1024

def isBinary (content : Bytes) : Bool :=
  let starts (marks : List Bytes) := marks.any (·.isPrefixOf content)
  !starts byteOrderMarks && ((content.take inspectedLength).contains 0 || starts binaryMarks)

/-! ## The scan -/

def loadFile (settings : ScanSettings) (t : FileTree) (p : Path) : Except SkipReason Bytes := do
  let node ← (t.look p).mapError .unreadable
  let size := match node with
    | .file content => content.length
    | _ => 0
  if exceeds size settings.maxFileSizeMb then throw (.tooLarge size settings.maxFileSizeMb)
  let content ← (t.read p).mapError .unreadable
  if settings.skipBinaryFiles && isBinary content then throw .binary
  return content

def scanFile (rules : RuleSet) (settings : ScanSettings) (t : FileTree) (p : Path) : FileOutcome :=
  match loadFile settings t p with
  | .ok content => .scanned (rules.scan content)
  | .error reason => .skipped reason

end ConstantScan
