import ConstantScan.Proofs.RuleSets
import ConstantScan.Proofs.Walk
import Mathlib

/-!
# Walks that leave out more

Fewer extensions, more directories that are not entered, more globs, ignore files that are respected
and links that are not followed: each of them takes paths out of a walk. None of them brings one in
or moves one, whatever links and ignore files the tree holds.
-/

namespace ConstantScan

namespace NameSet

theorem ofList_subset {names names' : List String} (h : names ⊆ names') :
    (ofList names).names ⊆ (ofList names').names := fun _ hn => mem_ofList.2 (h (mem_ofList.1 hn))

end NameSet

/-! ## Filters -/

/-- The first filter lets nothing pass that the second one stops. -/
structure FileFilter.Narrows (f f' : FileFilter) : Prop where
  extensions : f.extensions.names ⊆ f'.extensions.names
  prunedDirs : f'.prunedDirs.names ⊆ f.prunedDirs.names
  ignored : f'.ignored ⊆ f.ignored

namespace FileFilter.Narrows

variable {f f' : FileFilter} (h : f.Narrows f')

include h

theorem hasExtension {name : Bytes} (hname : f.hasExtension name = true) :
    f'.hasExtension name = true := by
  obtain ⟨e, he, hends⟩ := List.any_eq_true.1 hname
  exact List.any_eq_true.2 ⟨e, h.extensions he, hends⟩

theorem isScannable {p : Path} (hp : f.isScannable p = true) : f'.isScannable p = true := by
  unfold FileFilter.isScannable at hp ⊢
  cases hname : p.fileName? with
  | none => simp [hname] at hp
  | some name =>
    rw [hname] at hp
    exact h.hasExtension hp

theorem isIgnored {place : Path} (hplace : f'.isIgnored place = true) :
    f.isIgnored place = true := by
  obtain ⟨g, hg, hmatch⟩ := List.any_eq_true.1 hplace
  exact List.any_eq_true.2 ⟨g, h.ignored hg, hmatch⟩

theorem isPruned {name : String} (hname : f'.isPruned name = true) : f.isPruned name = true :=
  List.contains_iff_mem.2 (h.prunedDirs (List.contains_iff_mem.1 hname))

end FileFilter.Narrows

/-! ## Walkers -/

/-- The first walker has no way and no file that the second one does not have. -/
structure Walker.Narrows (w w' : Walker) : Prop where
  filter : w.filter.Narrows w'.filter
  followsLinks : w.followsLinks = true → w'.followsLinks = true
  respectsIgnoreFiles : w'.respectsIgnoreFiles = true → w.respectsIgnoreFiles = true

/-- Visits of one directory, by the same way. The ignore files are the same as far as the walker
asks for them. -/
structure Visit.Matches (w' : Walker) (v v' : Visit) : Prop where
  path : v'.path = v.path
  location : v'.location = v.location
  entered : v'.entered = v.entered
  chain : w'.respectsIgnoreFiles = true → v'.chain = v.chain

namespace Walker.Narrows

variable {w w' : Walker} (h : w.Narrows w') (t : FileTree) (root : Path)

include h

theorem accepts {path : Path} (hpath : w.accepts root path = true) :
    w'.accepts root path = true := by
  simp only [Walker.accepts, Bool.and_eq_true, Bool.not_eq_true'] at hpath ⊢
  refine ⟨h.filter.isScannable hpath.1, ?_⟩
  exact Bool.eq_false_iff.2 fun hignored =>
    Bool.eq_false_iff.1 hpath.2 (h.filter.isIgnored hignored)

variable {v v' : Visit} (hv : v.Matches w' v')

include hv

theorem target? {path : Path} {name : Bytes} {node : FileNode} {e : Location × FileNode}
    (he : w.target? t v path name node = some e) : w'.target? t v' path name node = some e := by
  unfold Walker.target? at he ⊢
  rw [hv.entered, hv.location]
  split
  · -- A link has to be followed by the first walker, hence it is by the second.
    dsimp only at he
    split at he
    · next hlinks => rwa [if_pos (h.followsLinks hlinks)]
    · simp at he
  · next hlink =>
    split at he
    · next target => exact absurd rfl (hlink target)
    · exact he

theorem leavesOut {path : Path} {name : Bytes} {isDir : Bool}
    (hout : w'.leavesOut v' path name isDir = true) : w.leavesOut v path name isDir = true := by
  simp only [Walker.leavesOut, Bool.and_eq_true] at hout ⊢
  exact ⟨h.respectsIgnoreFiles hout.1, hv.chain hout.1 ▸ hout.2⟩

theorem enter (path : Path) (l : Location) :
    (w.enter t v path l).Matches w' (w'.enter t v' path l) where
  path := rfl
  location := rfl
  entered := by simp only [Walker.enter, hv.entered]
  chain hw' := by
    simp only [Walker.enter, if_pos hw', if_pos (h.respectsIgnoreFiles hw'), hv.chain hw']

/-- An entry brings no more, if no directory below it does. -/
theorem entryFiles_sublist {below below' : Visit → FileNode → List Path}
    (hbelow : ∀ u u' node, u.Matches w' u' → (below u node).Sublist (below' u' node))
    (e : Bytes × FileNode) :
    (w.entryFiles t root below v e).Sublist (w'.entryFiles t root below' v' e) := by
  unfold Walker.entryFiles
  dsimp only
  rw [hv.path]
  cases htarget : w.target? t v (v.path.joinName e.1) e.1 e.2 with
  | none => exact List.nil_sublist _
  | some ln =>
    obtain ⟨l, node⟩ := ln
    rw [h.target? t hv htarget]
    dsimp only
    -- Whatever the narrower walk goes past or into, the other one goes past or into, too.
    split
    · exact List.nil_sublist _
    · next hstays =>
      rw [if_neg fun hout => hstays (h.leavesOut hv hout)]
      cases node with
      | file content =>
        dsimp only
        split
        · next haccepts => rw [if_pos (h.accepts root haccepts)]
        · exact List.nil_sublist _
      | dir es =>
        dsimp only
        split
        · exact List.nil_sublist _
        · next henters =>
          rw [if_neg fun hpruned => henters (h.filter.isPruned hpruned)]
          split
          · exact List.nil_sublist _
          · exact hbelow _ _ _ (h.enter t hv _ l)
      | link target => exact List.nil_sublist _
      | special => exact List.nil_sublist _

omit hv in
theorem files_sublist (fuel : Nat) (v v' : Visit) (dir : FileNode) (hv : v.Matches w' v') :
    (w.files t root fuel v dir).Sublist (w'.files t root fuel v' dir) := by
  induction fuel generalizing v v' dir with
  | zero => exact List.nil_sublist _
  | succ fuel ih =>
    rw [Walker.files, Walker.files]
    exact List.Sublist.flatMap_right _ fun e _ => h.entryFiles_sublist t root hv ih e

omit hv in
theorem walk_sublist (env : Environment) (root : Path) :
    (w.walk env root).Sublist (w'.walk env root) := by
  unfold Walker.walk
  dsimp only
  split
  · exact List.nil_sublist _
  · next l _ =>
    split
    · split
      · next haccepts =>
        rw [Bool.and_eq_true] at haccepts
        rw [if_pos (by rw [haccepts.1, h.accepts root haccepts.2]; rfl)]
      · exact List.nil_sublist _
    · split
      · exact List.nil_sublist _
      · refine h.files_sublist _ root _ _ _ _ ⟨rfl, rfl, rfl, fun hw' => ?_⟩
        simp only [if_pos hw', if_pos (h.respectsIgnoreFiles hw')]
    · exact List.nil_sublist _
    · exact List.nil_sublist _

end Walker.Narrows

/-! ## Settings -/

/-- As far as a walk asks, the first settings are the second ones with exclusions added. -/
structure ScanSettings.Narrows (s s' : ScanSettings) : Prop where
  extensions : s.extensions ⊆ s'.extensions
  excludeDirs : s'.excludeDirs ⊆ s.excludeDirs
  ignorePaths : s'.ignorePaths ⊆ s.ignorePaths
  followSymlinks : s.followSymlinks = true → s'.followSymlinks = true
  respectGitignore : s'.respectGitignore = true → s.respectGitignore = true

theorem FileFilter.normalExtensions_subset {extensions extensions' : List String}
    (h : extensions ⊆ extensions') :
    (normalExtensions extensions).names ⊆ (normalExtensions extensions').names :=
  NameSet.ofList_subset (List.filter_subset _ (List.map_subset _ h))

/-- Of items that can all be read, some can be read too, and nothing else comes of them. -/
theorem mapM_of_subset {ε α β : Type} {f : α → Except ε β} {xs xs' : List α} {ys' : List β}
    (h : xs ⊆ xs') (hread : xs'.mapM f = .ok ys') : ∃ ys, xs.mapM f = .ok ys ∧ ys ⊆ ys' := by
  have hforall := mapM_eq_ok_iff.1 hread
  obtain ⟨ys, hys⟩ := exists_mapM_eq_ok fun x hx =>
    have ⟨y, _, hy⟩ := exists_mem_of_forall₂ hforall.flip (h hx)
    ⟨y, hy⟩
  refine ⟨ys, hys, fun y hy => ?_⟩
  obtain ⟨x, hx, hxy⟩ := exists_mem_of_forall₂ (mapM_eq_ok_iff.1 hys) hy
  obtain ⟨y', hy', hxy'⟩ := exists_mem_of_forall₂ hforall.flip (h hx)
  exact Except.ok.inj (hxy.symm.trans hxy') ▸ hy'

namespace ScanSettings.Narrows

variable {s s' : ScanSettings} (h : s.Narrows s') {f : FileFilter}

include h

theorem exists_filter (hf : FileFilter.ofSettings s = .ok f) :
    ∃ f', FileFilter.ofSettings s' = .ok f' ∧ f.Narrows f' := by
  unfold FileFilter.ofSettings at hf ⊢
  cases hglobs : s.ignorePaths.mapM FileFilter.readGlob with
  | error e => simp [hglobs, bind, Except.bind] at hf
  | ok globs =>
    obtain ⟨globs', hglobs', hsub⟩ := mapM_of_subset h.ignorePaths hglobs
    rw [hglobs] at hf
    rw [hglobs']
    refine ⟨_, rfl, ?_⟩
    obtain rfl := Except.ok.inj hf
    exact ⟨FileFilter.normalExtensions_subset h.extensions,
      NameSet.ofList_subset h.excludeDirs, hsub⟩

theorem walker {f' : FileFilter} (hf : f.Narrows f') :
    (Walker.ofSettings f s).Narrows (.ofSettings f' s') :=
  ⟨hf, h.followSymlinks, h.respectGitignore⟩

/-- More exclusions only exclude: of the ascending paths some are left, in their order. Where a
filter can be made with all exclusions, it can be made with fewer. -/
theorem walk_only_excludes (hf : FileFilter.ofSettings s = .ok f) :
    ∃ f', FileFilter.ofSettings s' = .ok f' ∧ ∀ (env : Environment) (root : Path),
      ((Walker.ofSettings f s).walk env root).Sublist ((Walker.ofSettings f' s').walk env root) ∧
        (env.files.root.Proper →
          ((Walker.ofSettings f s).walk env root).Pairwise Path.Before ∧
          ((Walker.ofSettings f' s').walk env root).Pairwise Path.Before) := by
  obtain ⟨f', hf', hnarrows⟩ := h.exists_filter hf
  refine ⟨f', hf', fun env root => ⟨(h.walker hnarrows).walk_sublist env root, fun htree => ?_⟩⟩
  exact ⟨Walker.walk_ascending _ env htree root, Walker.walk_ascending _ env htree root⟩

end ScanSettings.Narrows

/-- The sources `.b.py` and `a.py`, and the link `c.py` to the second one. -/
def linkedSources : Environment where
  files := {
    root := .dir [
      ([0x2E, 0x62, 0x2E, 0x70, 0x79], .file []),
      ([0x61, 0x2E, 0x70, 0x79], .file []),
      ([0x63, 0x2E, 0x70, 0x79], .link [0x61, 0x2E, 0x70, 0x79])]
    current := [] }
  vars := []

theorem linkedSources_proper : linkedSources.files.root.Proper :=
  .dir (by decide) (by decide) (by simp [FileNode.Proper.file, FileNode.Proper.link])

def wideSettings : ScanSettings := { extensions := ["js", "py"], followSymlinks := true }

def narrowSettings : ScanSettings := { extensions := ["py"], respectGitignore := true }

theorem narrowSettings_narrows : narrowSettings.Narrows wideSettings where
  extensions := by simp [narrowSettings, wideSettings]
  excludeDirs := List.Subset.refl _
  ignorePaths := List.Subset.refl _
  followSymlinks := by simp [narrowSettings]
  respectGitignore := by simp [wideSettings]

theorem walk_only_excludes_linkedSources :
    ∃ f', FileFilter.ofSettings wideSettings = .ok f' ∧
      [Path.ofString "/a.py"].Sublist
        ((Walker.ofSettings f' wideSettings).walk linkedSources (.ofString "/")) ∧
      ((Walker.ofSettings f' wideSettings).walk linkedSources (.ofString "/")).Pairwise
        Path.Before := by
  let f : FileFilter :=
    { extensions := .ofList ["py"]
      prunedDirs := .ofList narrowSettings.excludeDirs
      ignored := [] }
  have hwalk : (Walker.ofSettings f narrowSettings).walk linkedSources (.ofString "/") =
      [.ofString "/a.py"] := by cbv
  obtain ⟨f', hf', hwalks⟩ := narrowSettings_narrows.walk_only_excludes (f := f) rfl
  obtain ⟨hsub, hordered⟩ := hwalks linkedSources (.ofString "/")
  exact ⟨f', hf', hwalk ▸ hsub, (hordered linkedSources_proper).2⟩

end ConstantScan
