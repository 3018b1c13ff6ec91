import ConstantScan.Cli.Program

/-! # The executable: reads the files that a run looks at, runs, and prints -/

namespace ConstantScan.Disk

/-! ## Files -/

def place (path : String) := (IO.FS.DirEntry.mk "/" path).path

def attempt {α : Type} (act : IO α) : IO (Option α) :=
  tryCatch (some <$> act) fun _ => pure none

def bytesOf? (path : String) : IO (Option Bytes) := do
  return (← attempt (IO.FS.readBinFile path)).map (·.toList)

/-- A tree with the files at the paths; those that are missing are passed over. -/
def withFiles (t : FileTree) (paths : List String) : IO FileTree :=
  paths.foldlM
    (fun t path => do
      match ← bytesOf? path with
      | some content => return t.put (.ofString path) (.file content)
      | none => return t)
    t

/-- What stands at a path, with all that is below it, and where links lead. The contents of files
that are not kept are not read. -/
partial def nodeAt? (keeps : Path → Bool) (path : String) :
    IO (Option FileNode × List String) := do
  let metadata : Option IO.FS.Metadata ← attempt (place path).symlinkMetadata
  let type : Option IO.FS.FileType := metadata.map IO.FS.Metadata.type
  match type with
  | none => return (none, [])
  | some .dir =>
    let mut children := []
    let mut links := []
    let entries : Option (Array IO.FS.DirEntry) ← attempt (place path).readDir
    for e in entries.getD #[] do
      let (node, more) ← nodeAt? keeps e.path.toString
      links := more ++ links
      if let some node := node then
        children := (Utf8.ofString e.fileName, node) :: children
    return (some (.dir children.reverse), links)
  | some .symlink =>
    let target := ((← attempt (IO.FS.realPath path)).map toString).getD ""
    return (some (.link (Utf8.ofString target)), [target])
  | some .other => return (some .special, [])
  | some .file =>
    let content ← if keeps (.ofString path) then bytesOf? path else pure (some [])
    return (content.map .file, [])

/-- A tree with what stands at the paths and where links below them lead. -/
partial def withAll (keeps : Path → Bool) (seen : List String) (t : FileTree) :
    List String → IO FileTree
  | [] => return t
  | path :: paths => do
    if path.isEmpty || seen.contains path then withAll keeps seen t paths
    else
      let (node, links) ← nodeAt? keeps path
      let t := match node with
        | some node => t.put (.ofString path) node
        | none => t
      withAll keeps (path :: seen) t (links ++ paths)

/-! ## What a run looks at -/

def fields (separator : UInt8) (bytes : Bytes) : List Bytes := bytes.splitOn separator

/-- The variables of this process, names and values as bytes. -/
def readVars : IO (List (Bytes × Bytes)) := do
  return (fields 0 ((← bytesOf? "/proc/self/environ").getD [])).filterMap fun entry =>
    let name := entry.takeWhile (· != 0x3D)
    if name.isEmpty || name.length = entry.length then none
    else some (name, entry.drop (name.length + 1))

/-- Those of the variables that are texts. -/
def texts (vars : List (Bytes × Bytes)) : List (String × String) :=
  vars.filterMap fun (name, value) =>
    if Utf8.isValid name && Utf8.isValid value then
      some (Utf8.toString name, Utf8.toString value)
    else none

/-- The home directory that the user database has for the user of this process. -/
def accountHome? : IO (Option Path) := do
  let status := Utf8.toString ((← bytesOf? "/proc/self/status").getD [])
  let ids := (status.splitOn "\n").find? (·.startsWith "Uid:")
  let user := ids.map fun line => Utf8.ofString ((line.splitOn "\t").getD 1 "")
  let accounts := (fields 0x0A ((← bytesOf? "/etc/passwd").getD [])).map (fields 0x3A)
  let home := (accounts.find? (·[2]? == user)).bind (·[5]?)
  return home.bind fun bytes => if bytes.isEmpty then none else some ⟨bytes⟩

def home? (vars : List (Bytes × Bytes)) : IO (Option Path) := do
  match vars.lookup (Utf8.ofString "HOME") with
  | some (b :: bytes) => return some ⟨b :: bytes⟩
  | _ => accountHome?

def cores : IO Nat := do
  let text := Utf8.toString ((← bytesOf? "/proc/cpuinfo").getD [])
  return max 1 ((text.splitOn "\n").filter (·.startsWith "processor")).length

/-- The files of these names in a directory and in those above it. -/
def filesAbove (dir : Path) (names : List String) : List Path :=
  let location := (dir.segments.filter (· ≠ [])).reverse
  (Environment.placesAbove location).flatMap fun p => names.map (p.join <| .ofString ·)

def configFiles (env : Environment) (configFile : Option Path) : List Path :=
  let user := env.home?.toList.flatMap fun home => ConfigFormat.all.map fun f =>
    home.join (.ofString (".config/precision-scan/config." ++ f.name))
  user ++ filesAbove env.workDir (ConfigFormat.all.map fun f => "precision-scan." ++ f.name) ++
    configFile.toList.map env.workDir.join

/-- The files outside the root that tell what to leave out of a walk. -/
def ignoreFiles (env : Environment) (root : Path) : List Path :=
  let user := env.home?.toList.flatMap fun home =>
    [".gitconfig", ".config/git/config", ".config/git/ignore"].map (home.join <| .ofString ·)
  user ++ filesAbove root [".ignore", ".gitignore", ".git/info/exclude"]

def ignoreNames : List String := [".ignore", ".gitignore", "exclude"]

def withInvocation (i : Cli.Invocation) (env : Environment) : IO Environment := do
  let settings := (configFiles env i.configFile).map Path.toString
  let env := { env with files := ← withFiles env.files settings }
  let x := i.context env (.orderly 1) false fun _ => false
  match x.prepared? i.request with
  | none => return env
  | some p =>
    let keeps (file : Path) : Bool :=
      p.scanner.filter.isScannable file ||
        ignoreNames.any fun n => file.fileName? == some (Utf8.ofString n)
    let roots := p.targets.map fun t => env.workDir.join t.root
    let files ← withAll keeps [] env.files (roots.map Path.toString)
    let files ← withFiles files ((roots.flatMap (ignoreFiles env)).map Path.toString)
    return { env with files := ← withFiles files settings }

/-- A tree with nothing but the working directory. If that is removed, its place has a name that no
directory can have. -/
def bareTree : IO FileTree := do
  match ← attempt IO.currentDir with
  | some dir =>
    let current := ((Path.ofString (toString dir)).segments.filter (· ≠ [])).reverse
    return { root := FileNode.put (.dir []) current.reverse (.dir []), current }
  | none => return { root := .dir [], current := [[]] }

def environment (words : List String) : IO Environment := do
  let vars ← readVars
  let env := { files := ← bareTree, vars := texts vars, home? := ← home? vars }
  match Cli.Invocation.ofWords words with
  | .ok i => withInvocation i env
  | .error _ => return env

end ConstantScan.Disk

open ConstantScan in
def main (words : List String) : IO UInt32 := do
  let env ← Disk.environment words
  let terminal ← (← IO.getStdout).isTty
  let machine := Machine.orderly (← Disk.cores)
  let result := Cli.runProgram env machine (Cli.colorsOn env terminal) words
  IO.print result.printed.out
  IO.eprint result.printed.err
  return result.code.toUInt32
