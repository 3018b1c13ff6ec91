import ConstantScan.Ignore.Basic
import ConstantScan.Unicode.Blank

/-! # Reading ignore files -/

namespace ConstantScan.IgnoreRule

def endsWith (ending : String) (cs : List Char) : Bool := ending.toList.isSuffixOf cs

def startsWith (start : String) (cs : List Char) : Bool := start.toList.isPrefixOf cs

/-- Blanks at the end do not count unless the last one is escaped. -/
def trimLine (cs : List Char) : List Char :=
  if endsWith "\\ " cs then cs else Unicode.trimEnd cs

/-- A line without the signs at its start: the rest, the verdict and whether it is anchored. -/
def splitSigns (cs : List Char) : List Char × Verdict × Bool :=
  if startsWith "\\!" cs || startsWith "\\#" cs then (cs.tail, .ignored, false)
  else
    let allows := startsWith "!" cs
    let cs := if allows then cs.tail else cs
    let anchored := startsWith "/" cs
    (if anchored then cs.tail else cs, if allows then .allowed else .ignored, anchored)

/-- A slash at the end asks for a directory; a backslash in front of it goes, too. -/
def splitSlash (cs : List Char) : List Char × Bool :=
  if endsWith "\\/" cs then (cs.dropLast.dropLast, true)
  else if endsWith "/" cs then (cs.dropLast, true)
  else (cs, false)

/-- A pattern without a slash matches at any depth; one that ends in `/**` matches what is below a
directory and not the directory. -/
def globText (anchored : Bool) (cs : List Char) : List Char :=
  let free := !anchored && !cs.contains '/' && !(startsWith "**/" cs || cs = "**".toList)
  let cs := if free then "**/".toList ++ cs else cs
  if endsWith "/**" cs then cs ++ "/*".toList else cs

/-- The rule of a line; none for a comment, an empty line or a line that is no glob. -/
def ofLine? (line : List Char) : Option IgnoreRule :=
  if startsWith "#" line then none
  else
    let cs := trimLine line
    if cs.isEmpty then none
    else
      let (cs, verdict, anchored) := splitSigns cs
      let (cs, onlyDirs) := splitSlash cs
      match Glob.ofString (String.ofList (globText anchored cs)) true true with
      | .ok glob => some { glob, verdict, onlyDirs }
      | .error _ => none

end ConstantScan.IgnoreRule

namespace ConstantScan.IgnoreFile

/-- The bytes up to the next newline and those after it, if there is one. -/
def cutLine (content : Bytes) : Bytes × Option Bytes :=
  let line := content.takeWhile (· != 0x0A)
  match content.drop line.length with
  | [] => (line, none)
  | _ :: rest => (line, some rest)

/-- Reads line by line and stops at a line that is no text; `acc` holds rules last one first. -/
def readLines (acc : List IgnoreRule) (first : Bool) : (fuel : Nat) → Bytes → List IgnoreRule
  | 0, _ => acc
  | fuel + 1, content =>
    let (line, rest) := cutLine content
    if !Utf8.isValid line then acc
    else
      let text := Utf8.decode line
      let text := if rest.isSome && text.getLast? = some '\r' then text.dropLast else text
      let text := if first then text.dropWhile (· == '\uFEFF') else text
      let acc := (IgnoreRule.ofLine? text).toList ++ acc
      match rest with
      | none => acc
      | some rest => readLines acc false fuel rest

def ofContent (dir : Path) (content : Bytes) : IgnoreFile :=
  { dir, rules := readLines [] true (content.length + 1) content }

end ConstantScan.IgnoreFile
