import ConstantScan.Path

/-!
# Trees of files

A tree as the scanner sees it: contents, directories, symbolic links and entries of other kinds.
Looking a path up follows links, as many as `maxLinks`. There are no permissions: all that is in a
tree may be read and listed. What cannot be read is a path that is too long or that leads to no
file, and it is passed over like any other failure to read.
-/

namespace ConstantScan

inductive ReadError
  | notFound
  | notDirectory
  | isDirectory
  | nameTooLong
  | tooManyLinks
  | noDevice
  | nulByte
  deriving DecidableEq, Repr

def ReadError.message : ReadError → String
  | notFound => "No such file or directory (os error 2)"
  | notDirectory => "Not a directory (os error 20)"
  | isDirectory => "Is a directory (os error 21)"
  | nameTooLong => "File name too long (os error 36)"
  | tooManyLinks => "Too many levels of symbolic links (os error 40)"
  | noDevice => "No such device or address (os error 6)"
  | nulByte => "file name contained an unexpected NUL byte"

inductive FileNode
  | file (content : Bytes)
  | dir (entries : List (Bytes × FileNode))
  | link (target : Bytes)
  /-- An entry of another kind, such as a socket; it cannot be opened. -/
  | special
  deriving Inhabited, Repr

/-- The place of an entry: the names on the way from the root, last one first. -/
abbrev Location := List Bytes

def Location.path : Location → Path
  | [] => ⟨[Path.slash]⟩
  | l => ⟨l.reverse.flatMap (Path.slash :: ·)⟩

namespace FileNode

def isDir : FileNode → Bool
  | dir _ => true
  | _ => false

def isFile : FileNode → Bool
  | file _ => true
  | _ => false

def entries : FileNode → List (Bytes × FileNode)
  | dir es => es
  | _ => []

def child? (n : FileNode) (name : Bytes) : Option FileNode := n.entries.lookup name

/-- The entry at the end of the names, links not followed. -/
def find? (n : FileNode) : List Bytes → Option FileNode
  | [] => some n
  | name :: names => (n.child? name).bind (·.find? names)

/-- Replaces the child of that name or adds it as the last. -/
def setChild (name : Bytes) (child : FileNode) :
    List (Bytes × FileNode) → List (Bytes × FileNode)
  | [] => [(name, child)]
  | (n, c) :: rest => if n = name then (name, child) :: rest else (n, c) :: setChild name child rest

/-- Puts an entry at the end of the names; directories are made on the way. -/
def put (n : FileNode) (names : List Bytes) (entry : FileNode) : FileNode :=
  match names with
  | [] => entry
  | name :: names =>
    let child := (n.child? name).getD (dir [])
    dir (setChild name (put child names entry) n.entries)

end FileNode

/-- A tree and the directory that relative paths start from. If nothing stands at that place, the
directory has been removed. -/
structure FileTree where
  root : FileNode
  current : Location

namespace FileTree

def maxLinks : Nat := 40

def maxNameLength : Nat := 255

def maxPathLength : Nat := 4095

def at? (t : FileTree) (l : Location) : Option FileNode := t.root.find? l.reverse

/-- What a path that leads to a place comes to. A directory that has been removed is empty. -/
def nodeAt (t : FileTree) (l : Location) : FileNode := (t.at? l).getD (.dir [])

def standsInDir (t : FileTree) : Bool := (t.at? t.current).any (·.isDir)

/-- The steps of a path; a slash at the end asks for a directory, as `.` does. -/
def steps (p : Path) : List Bytes :=
  let names := p.segments.filter (· ≠ [])
  if p.bytes.getLast? = some Path.slash then names ++ [Path.dot] else names

/-- Takes the steps one by one. The last one is not followed through a link unless `follow`. -/
def walkSteps (t : FileTree) (follow : Bool) (links : Nat) (l : Location) (todo : List Bytes) :
    Except ReadError Location :=
  match todo with
  | [] => .ok l
  | name :: rest =>
    match t.nodeAt l with
    | .dir es =>
      if name = Path.dot then walkSteps t follow links l rest
      else if name = Path.dotDot then walkSteps t follow links l.tail rest
      else if name.length > maxNameLength then .error .nameTooLong
      else
        match es.lookup name with
        | none => .error .notFound
        | some (.link target) =>
          if rest.isEmpty && !follow then .ok (name :: l)
          else
            match links with
            | 0 => .error .tooManyLinks
            | links + 1 =>
              if target = [] then .error .notFound
              else
                walkSteps t follow links (if Path.isAbsolute ⟨target⟩ then [] else l)
                  (steps ⟨target⟩ ++ rest)
        | some _ => walkSteps t follow links (name :: l) rest
    | _ => .error .notDirectory
termination_by (links, todo.length)

def resolve (t : FileTree) (p : Path) (follow : Bool := true) : Except ReadError Location :=
  if p.bytes.contains 0 then .error .nulByte
  else if p.bytes = [] then .error .notFound
  else if p.bytes.length > maxPathLength then .error .nameTooLong
  else t.walkSteps follow maxLinks (if p.isAbsolute then [] else t.current) (steps p)

def look (t : FileTree) (p : Path) (follow : Bool := true) : Except ReadError FileNode :=
  (t.resolve p follow).map t.nodeAt

/-- Whether something is there once links are followed. -/
def «exists» (t : FileTree) (p : Path) : Bool := (t.look p).isOk

def isFile (t : FileTree) (p : Path) : Bool :=
  match t.look p with
  | .ok n => n.isFile
  | .error _ => false

def isDir (t : FileTree) (p : Path) : Bool :=
  match t.look p with
  | .ok n => n.isDir
  | .error _ => false

def read (t : FileTree) (p : Path) : Except ReadError Bytes := do
  match ← t.look p with
  | .file content => return content
  | .special => throw .noDevice
  | _ => throw .isDirectory

/-! ## Building trees -/

/-- The place a path names, directories on the way being made or followed. -/
def placeOf (t : FileTree) (p : Path) : Location :=
  (steps p).foldl
    (fun l name =>
      if name = Path.dot then l
      else if name = Path.dotDot then l.tail
      else name :: l)
    (if p.isAbsolute then [] else t.current)

/-- Puts an entry at a path. -/
def put (t : FileTree) (p : Path) (entry : FileNode) : FileTree :=
  { t with root := t.root.put (t.placeOf p).reverse entry }

end FileTree

end ConstantScan
