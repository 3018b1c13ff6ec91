import ConstantScan.FileFilter
import ConstantScan.Ignore.Chain

/-!
# Walks

A walk yields the files below a root that the filter lets pass, the entries of a directory in the
order of their names.
-/

namespace ConstantScan

structure Walker where
  filter : FileFilter
  followsLinks : Bool
  respectsIgnoreFiles : Bool

def Walker.ofSettings (filter : FileFilter) (settings : ScanSettings) : Walker :=
  { filter
    followsLinks := settings.followSymlinks
    respectsIgnoreFiles := settings.respectGitignore }

structure Visit where
  path : Path
  location : Location
  /-- The places of the directories that the walk is in, this one included. -/
  entered : List Location
  chain : IgnoreChain

namespace Walker

def sortEntries (es : List (Bytes × FileNode)) : List (Bytes × FileNode) :=
  es.mergeSort fun a b => a.1 ≤ b.1

/-- What an entry is once links are followed, if the walk follows them. A link to a directory that
the walk is in is nothing. -/
def target? (w : Walker) (t : FileTree) (v : Visit) (path : Path) (name : Bytes)
    (node : FileNode) : Option (Location × FileNode) :=
  match node with
  | .link _ =>
    if w.followsLinks then
      match t.resolve path with
      | .ok l =>
        let n := t.nodeAt l
        if n.isDir && v.entered.contains l then none else some (l, n)
      | .error _ => none
    else none
  | n => some (name :: v.location, n)

def leavesOut (w : Walker) (v : Visit) (path : Path) (name : Bytes) (isDir : Bool) : Bool :=
  w.respectsIgnoreFiles && v.chain.leavesOut path name isDir

def accepts (w : Walker) (root path : Path) : Bool :=
  w.filter.isScannable path && !w.filter.isIgnored (.ofComponents (path.relativeTo root))

def enter (w : Walker) (t : FileTree) (v : Visit) (path : Path) (location : Location) : Visit :=
  { path, location, entered := location :: v.entered
    chain := if w.respectsIgnoreFiles then v.chain.enter t path else v.chain }

/-- The files that an entry of the directory of the visit brings; `below` gives those of a directory
that is entered. -/
def entryFiles (w : Walker) (t : FileTree) (root : Path) (below : Visit → FileNode → List Path)
    (v : Visit) (entry : Bytes × FileNode) : List Path :=
  let name := entry.1
  let path := v.path.joinName name
  match w.target? t v path name entry.2 with
  | none => []
  | some (location, node) =>
    if w.leavesOut v path name node.isDir then []
    else
      match node with
      | .file _ => if w.accepts root path then [path] else []
      | .dir _ =>
        if w.filter.isPruned (Utf8.toString name) then []
        -- The entries of a directory are listed by its path, as the root is looked up.
        else if path.bytes.length > FileTree.maxPathLength then []
        else below (w.enter t v path location) node
      | .link _ | .special => []

/-- The files below the directory of the visit. The depth is bounded by `fuel`. -/
def files (w : Walker) (t : FileTree) (root : Path) : (fuel : Nat) → Visit → FileNode → List Path
  | 0, _, _ => []
  | fuel + 1, v, dir =>
    (sortEntries dir.entries).flatMap (w.entryFiles t root (files w t root fuel) v)

/-- The only root that names no entry. -/
def standardInput : Path := .ofString "-"

end Walker

namespace FileNode

mutual

def size : FileNode → Nat
  | dir es => entriesSize es + 1
  | _ => 1

def entriesSize : List (Bytes × FileNode) → Nat
  | [] => 0
  | (_, n) :: es => n.size + entriesSize es

end

end FileNode

/-- The files that are to be scanned. A root that is missing has none. -/
def Walker.walk (w : Walker) (env : Environment) (root : Path) : List Path :=
  let t := env.files
  match t.resolve root with
  | .error _ => []
  | .ok location =>
    match t.nodeAt location with
    | .file _ =>
      if root.components != standardInput.components && w.accepts root root then [root] else []
    | .dir es =>
      if root.components = standardInput.components then []
      else
        let chain : IgnoreChain :=
          if w.respectsIgnoreFiles then .ofRoot env root
          else { inside := [], above := [], root, place := none, user := { dir := env.workDir } }
        let bound := t.root.size + 1
        w.files t root (bound * bound) { path := root, location, entered := [location], chain }
          (.dir es)
    | .link _ | .special => []

end ConstantScan
