import ConstantScan.Environment
import ConstantScan.Ignore.Parser

/-!
# The ignore files that rule over a place

Each kind of ignore file is asked on its own, the nearest directory first, and the kinds one after
the other.
-/

namespace ConstantScan

structure DirRules where
  general : IgnoreFile
  git : IgnoreFile
  gitExclude : IgnoreFile

namespace IgnoreFile

/-- The rules in a file; none if it cannot be read. -/
def load (t : FileTree) (dir file : Path) : IgnoreFile :=
  match t.read file with
  | .ok content => ofContent dir content
  | .error _ => { dir }

end IgnoreFile

def DirRules.load (t : FileTree) (dir : Path) : DirRules :=
  let file (name : String) := IgnoreFile.load t dir (dir.join (.ofString name))
  { general := file ".ignore", git := file ".gitignore", gitExclude := file ".git/info/exclude" }

/-! ## The rules of a user -/

namespace UserRules

def isBlankByte (b : UInt8) : Bool := b == 0x20 || (0x09 ≤ b && b ≤ 0x0D)

def skipBlanks (bs : Bytes) : Bytes := bs.dropWhile isBlankByte

def lowerByte (b : UInt8) : UInt8 := if 0x41 ≤ b && b ≤ 0x5A then b + 0x20 else b

/-- What follows a key, letters of both cases being the same. -/
def afterKey? (key bytes : Bytes) : Option Bytes :=
  if (bytes.take key.length).map lowerByte = key then some (bytes.drop key.length) else none

/-- After a value: blanks with a quote among them may come before the end of the line. -/
def endsLine (bs : Bytes) : Bool :=
  let blanks := bs.takeWhile isBlankByte
  let rest := bs.drop blanks.length
  rest.isEmpty || blanks.contains 0x0A ||
    (rest.head? == some 0x22 &&
      (let after := rest.tail.takeWhile isBlankByte
       (rest.tail.drop after.length).isEmpty || after.contains 0x0A))

/-- The value of `excludesfile` if the line is about it. -/
def excludesOfLine? (bs : Bytes) : Option Bytes := do
  let rest ← afterKey? (Utf8.ofString "excludesfile") (skipBlanks bs)
  match skipBlanks rest with
  | 0x3D :: rest =>
    let rest := skipBlanks rest
    let rest := if rest.head? = some 0x22 then skipBlanks rest.tail else rest
    let word := rest.takeWhile (!isBlankByte ·)
    let value := if word.getLast? = some 0x22 then word.dropLast else word
    if value.isEmpty || !endsLine (rest.drop word.length) then none else some value
  | _ => none

/-- The first line that names a file of rules; `fuel` bounds the lines. -/
def excludes? : (fuel : Nat) → Bytes → Option Bytes
  | 0, _ => none
  | fuel + 1, content =>
    match excludesOfLine? content, IgnoreFile.cutLine content with
    | some v, _ => some v
    | none, (_, some rest) => excludes? fuel rest
    | none, (_, none) => none

/-- The file that the settings of git in a file name; `~` stands for the home directory. -/
def namedIn? (env : Environment) (settings : Path) : Option Path :=
  match env.files.read settings with
  | .ok content =>
    match excludes? (content.length + 1) content with
    | some value =>
      if Utf8.isValid value then
        let text := Utf8.toString value
        some (.ofString ((env.home?.map fun h => text.replace "~" h.toString).getD text))
      else none
    | none => none
  | .error _ => none

def path? (env : Environment) : Option Path :=
  ((env.home?.map (·.join (.ofString ".gitconfig"))).bind (namedIn? env)).or <|
    ((env.desktopConfigDir?.map (·.join (.ofString "git/config"))).bind (namedIn? env)).or
      (env.desktopConfigDir?.map (·.join (.ofString "git/ignore")))

def load (env : Environment) : IgnoreFile :=
  match path? env with
  | some p => IgnoreFile.load env.files env.workDir p
  | none => { dir := env.workDir }

end UserRules

/-! ## The chain -/

structure IgnoreChain where
  /-- The directories of the walk, nearest first. -/
  inside : List DirRules
  /-- The directories above the root, nearest first. -/
  above : List DirRules
  /-- The root as it was given, and the absolute path to it. -/
  root : Path
  place : Option Path
  user : IgnoreFile

namespace IgnoreChain

/-- The directories above a place, nearest first. -/
def ancestors : Location → List Path
  | [] => []
  | _ :: l => Location.path l :: ancestors l

def ofRoot (env : Environment) (root : Path) : IgnoreChain :=
  let location := (env.files.resolve root).toOption
  { inside := [DirRules.load env.files root]
    above := (location.elim [] ancestors).map (DirRules.load env.files)
    root
    place := location.map Location.path
    user := UserRules.load env }

def enter (c : IgnoreChain) (t : FileTree) (dir : Path) : IgnoreChain :=
  { c with inside := DirRules.load t dir :: c.inside }

def absolute (c : IgnoreChain) (place : Path) (path : Bytes) : Bytes :=
  let below :=
    if c.root.components = [.here] then path
    else dropStart [Path.slash] (dropStart (dropStart dotSlash c.root.bytes) path)
  (place.join ⟨below⟩).bytes

def verdict? (c : IgnoreChain) (path : Path) (isDir : Bool) : Option Verdict :=
  let bytes := dropStart dotSlash path.bytes
  let ask (kind : DirRules → IgnoreFile) : Option Verdict :=
    (c.inside.findSome? fun d => (kind d).verdict? bytes isDir).or <|
      c.place.bind fun place =>
        let absolute := c.absolute place bytes
        c.above.findSome? fun d => (kind d).verdict? absolute isDir
  (ask DirRules.general).or <|
    (ask DirRules.git).or <|
      (ask DirRules.gitExclude).or (c.user.verdict? bytes isDir)

/-- A hidden entry is left out unless a rule allows it. -/
def leavesOut (c : IgnoreChain) (path : Path) (name : Bytes) (isDir : Bool) : Bool :=
  match c.verdict? path isDir with
  | some .ignored => true
  | some .allowed => false
  | none => name.head? == some 0x2E

end IgnoreChain

end ConstantScan
