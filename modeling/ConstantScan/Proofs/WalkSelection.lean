import ConstantScan.Proofs.Lookup
import ConstantScan.Proofs.Walk
import Mathlib

/-!
# The files that a walk selects

Without links and ignore files a walk yields the regular files below its root that the filter
selects by the names on the way to them, each of them once. What it does not get to is in a
directory whose path is too long to be looked up.
-/

namespace ConstantScan

/-- Whether a filter selects the entry `name` that the directories `dirs` lead to from `dir`. The
directory itself is in no list of names, so what it is called does not matter. -/
structure FileFilter.Selects (f : FileFilter) (dir : FileNode) (dirs : List Bytes)
    (name : Bytes) : Prop where
  isFile : ∃ content, dir.find? (dirs ++ [name]) = some (.file content)
  notPruned : ∀ d ∈ dirs, f.isPruned (Utf8.toString d) = false
  hasExtension : f.hasExtension name = true
  notIgnored : f.isIgnored (.ofNames (dirs ++ [name])) = false

namespace Walker

variable {w : Walker} {env : Environment} {root : Path} {dir : FileNode}

/-- What a file is judged by once its path is known to be one of names below the root. -/
theorem accepts_below (w : Walker) (root : Path) {dirs : List Bytes} {name : Bytes}
    (h : ∀ n ∈ dirs ++ [name], ProperName n) :
    w.accepts root (root.below (dirs ++ [name])) =
      (w.filter.hasExtension name && !w.filter.isIgnored (.ofNames (dirs ++ [name]))) := by
  rw [accepts, FileFilter.isScannable, Path.fileName?_below root h, Path.relativeTo_below root h,
    Path.ofNames, Option.any_some]

theorem mem_walk_iff (hw : w.IsPlain) (htree : env.files.root.Proper)
    (hlook : env.files.look root = .ok dir) (hdir : dir.isDir = true)
    (hroot : root.components ≠ standardInput.components) (p : Path) :
    p ∈ w.walk env root ↔
      ∃ dirs name, w.filter.Selects dir dirs name ∧
        (root.below dirs).bytes.length ≤ FileTree.maxPathLength ∧
        p = root.below (dirs ++ [name]) := by
  have hproper : dir.Proper := FileTree.Proper.look htree hlook
  obtain ⟨fuel, v, hwalk, rfl, hfuel⟩ := w.walk_of_dir env hlook hdir hroot
  rw [hwalk, w.mem_files_iff _ v.path hw hproper hfuel (FileTree.length_of_look hlook)]
  constructor
  · rintro ⟨dirs, name, content, hfind, hdirs, hshort, haccepts, rfl⟩
    rw [accepts_below w v.path (hproper.names_of_find? hfind), Bool.and_eq_true,
      Bool.not_eq_true'] at haccepts
    exact ⟨dirs, name, ⟨⟨content, hfind⟩, hdirs, haccepts.1, haccepts.2⟩, hshort, rfl⟩
  · rintro ⟨dirs, name, ⟨⟨content, hfind⟩, hdirs, hextension, hignored⟩, hshort, rfl⟩
    refine ⟨dirs, name, content, hfind, hdirs, hshort, ?_, rfl⟩
    rw [accepts_below w v.path (hproper.names_of_find? hfind), hextension, hignored]
    rfl

theorem walk_nodup (w : Walker) (env : Environment) (h : env.files.root.Proper) (root : Path) :
    (w.walk env root).Nodup := by
  refine (w.walk_ascending env h root).imp ?_
  rintro p q hbefore rfl
  exact List.lt_irrefl _ hbefore

/-- A plain walk of a directory yields exactly the files that the filter selects in directories
whose paths are not too long, each of them once and in the order of the components of their
paths. -/
theorem walk_yields_selected (hw : w.IsPlain) (htree : env.files.root.Proper)
    (hlook : env.files.look root = .ok dir) (hdir : dir.isDir = true)
    (hroot : root.components ≠ standardInput.components) :
    (∀ p, p ∈ w.walk env root ↔
        ∃ dirs name, w.filter.Selects dir dirs name ∧
          (root.below dirs).bytes.length ≤ FileTree.maxPathLength ∧
          p = root.below (dirs ++ [name])) ∧
      (∀ dirs name, w.filter.Selects dir dirs name →
        (root.below dirs).bytes.length ≤ FileTree.maxPathLength →
        (w.walk env root).count (root.below (dirs ++ [name])) = 1) ∧
      (w.walk env root).Pairwise Path.Before := by
  have hmem := mem_walk_iff hw htree hlook hdir hroot
  refine ⟨hmem, fun dirs name h hshort => ?_, w.walk_ascending env htree root⟩
  exact List.count_eq_one_of_mem (w.walk_nodup env htree root)
    ((hmem _).2 ⟨dirs, name, h, hshort, rfl⟩)

def sourceName : Bytes := [0x61, 0x2E, 0x70, 0x79]

/-- A directory that is called as the standard input is, with one file. -/
def dashed : Environment where
  files := { root := .dir [([0x2D], .dir [(sourceName, .file [])])], current := [] }
  vars := []

def pythonWalker : Walker where
  filter := { extensions := .ofList ["py"], prunedDirs := .empty, ignored := [] }
  followsLinks := false
  respectsIgnoreFiles := false

theorem pythonWalker_isPlain : pythonWalker.IsPlain := ⟨rfl, rfl⟩

theorem pythonWalker_selects :
    pythonWalker.filter.Selects (.dir [(sourceName, .file [])]) [] sourceName where
  isFile := ⟨[], rfl⟩
  notPruned := by simp
  hasExtension := by cbv
  notIgnored := rfl

theorem dashed_proper : dashed.files.root.Proper := by
  have hsource : (FileNode.dir [(sourceName, .file [])]).Proper :=
    .dir (by decide) (by decide) (by simp [FileNode.Proper.file])
  exact .dir (by decide) (by decide) (by simp [hsource])

theorem walk_yields_selected_dash :
    (pythonWalker.walk dashed (.ofString "/-")).count (.ofString "/-/a.py") = 1 := by
  have hbelow : Path.ofString "/-/a.py" = (Path.ofString "/-").below ([] ++ [sourceName]) := by
    cbv
  have hlook : dashed.files.look (.ofString "/-") = .ok (.dir [(sourceName, .file [])]) := by cbv
  have hcomponents : (Path.ofString "/-").components = [.root, .name [0x2D]] := by cbv
  have hinput : standardInput.components = [.name [0x2D]] := by cbv
  rw [hbelow]
  exact (walk_yields_selected pythonWalker_isPlain dashed_proper hlook rfl
    (by rw [hcomponents, hinput]; decide)).2.1 [] sourceName pythonWalker_selects
      (FileTree.length_of_look hlook)

/-- A slash at the end does not make the name of the standard input another one. -/
theorem walk_of_standardInput (w : Walker) (env : Environment) {root : Path}
    (h : root.components = standardInput.components) : w.walk env root = [] := by
  unfold walk
  dsimp only
  split
  · rfl
  · split
    · simp [h]
    · simp [h]
    · rfl
    · rfl

/-- A path that is as long as one may be, to the directory that `dashed` starts from. -/
def longRoot : Path := .dotted 2047 ⟨Path.dot⟩

theorem length_longRoot : longRoot.bytes.length = FileTree.maxPathLength :=
  Path.length_dotted _ _

theorem look_longRoot : dashed.files.look longRoot = .ok dashed.files.root := by
  have hstanding : dashed.files.Standing :=
    ⟨⟨_, rfl⟩, by simp [dashed], by simp [dashed], by simp [dashed]⟩
  have hdot : dashed.files.look ⟨Path.dot⟩ = .ok dashed.files.root := by cbv
  rw [← hdot]
  exact FileTree.look_dotted (by decide) rfl hstanding (Nat.le_of_eq length_longRoot)

theorem components_longRoot : longRoot.components ≠ standardInput.components := by
  have hrelative : longRoot.isAbsolute = false := Path.not_isAbsolute_dotted rfl _
  have hhead : longRoot.segments.head? = some Path.dot := Path.head?_segments_dotted 2046 _
  have hinput : standardInput.components = [.name [0x2D]] := by cbv
  rw [Path.components, hrelative, hhead, hinput]
  simp

theorem pythonWalker_selects_below :
    pythonWalker.filter.Selects dashed.files.root [[0x2D]] sourceName where
  isFile := ⟨[], rfl⟩
  notPruned := by simp [pythonWalker, FileFilter.isPruned, NameSet.empty, NameSet.contains]
  hasExtension := by cbv
  notIgnored := rfl

/-- Below a path that is as long as one may be no directory is listed. -/
theorem not_mem_walk_dashed (hlook : dashed.files.look root = .ok dashed.files.root)
    (hroot : root.components ≠ standardInput.components)
    (hlength : root.bytes.length = FileTree.maxPathLength) :
    root.below ([[0x2D]] ++ [sourceName]) ∉ pythonWalker.walk dashed root := by
  intro h
  obtain ⟨dirs, name, ⟨⟨_, hfind⟩, _, _, _⟩, hshort, hp⟩ :=
    (mem_walk_iff pythonWalker_isPlain dashed_proper hlook rfl hroot _).1 h
  obtain ⟨_, hfind'⟩ := pythonWalker_selects_below.isFile
  have hproper := dashed_proper.names_of_find? hfind'
  have hnames := root.below_injective hproper (dashed_proper.names_of_find? hfind) hp
  obtain rfl : [[0x2D]] = dirs := (List.append_inj' hnames rfl).1
  have hlong : root.bytes.length < (root.below [[0x2D]]).bytes.length :=
    root.length_lt_joinName (hproper [0x2D] (by simp))
  rw [hlength] at hlong
  exact Nat.not_lt.2 hshort hlong

/-- It is not enough that the root is spelled otherwise than the standard input, and neither that
its components are others. -/
theorem not_walk_yields_selected :
    (¬ ∀ (w : Walker) (env : Environment) (root : Path) (dir : FileNode), w.IsPlain →
      env.files.root.Proper → env.files.look root = .ok dir → dir.isDir = true →
      root ≠ standardInput →
      ∀ p, p ∈ w.walk env root ↔
        ∃ dirs name, w.filter.Selects dir dirs name ∧ p = root.below (dirs ++ [name])) ∧
    ¬ ∀ (w : Walker) (env : Environment) (root : Path) (dir : FileNode), w.IsPlain →
      env.files.root.Proper → env.files.look root = .ok dir → dir.isDir = true →
      root.components ≠ standardInput.components →
      ∀ p, p ∈ w.walk env root ↔
        ∃ dirs name, w.filter.Selects dir dirs name ∧ p = root.below (dirs ++ [name]) := by
  constructor
  · intro h
    have hlook : dashed.files.look (.ofString "-/") = .ok (.dir [(sourceName, .file [])]) := by cbv
    have hne : Path.ofString "-/" ≠ standardInput := by
      have hbytes : (Path.ofString "-/").bytes = [0x2D, 0x2F] := by cbv
      have hinput : standardInput.bytes = [0x2D] := by cbv
      intro e
      rw [e, hinput] at hbytes
      exact absurd hbytes (by decide)
    have hmem := (h pythonWalker dashed (.ofString "-/") _ pythonWalker_isPlain dashed_proper hlook
      rfl hne _).2 ⟨[], sourceName, pythonWalker_selects, rfl⟩
    rw [walk_of_standardInput pythonWalker dashed (by cbv)] at hmem
    exact List.not_mem_nil hmem
  · intro h
    have hmem := (h pythonWalker dashed longRoot _ pythonWalker_isPlain dashed_proper
      look_longRoot rfl components_longRoot _).2 ⟨_, _, pythonWalker_selects_below, rfl⟩
    exact not_mem_walk_dashed look_longRoot components_longRoot length_longRoot hmem

end Walker

end ConstantScan
