import ConstantScan.Proofs.FileTree
import Mathlib.Data.List.Sort
import Mathlib.Order.RelIso.Basic

/-!
# What a walk yields, and in which order

A walk goes through a directory by the names of its entries, so it yields paths in the order of
their components. Without links and ignore files, what it yields is said by the tree alone.
-/

namespace ConstantScan.Walker

variable (w : Walker) (t : FileTree) (root : Path)

/-! ## One entry -/

theorem entryFiles_cases (below : Visit → FileNode → List Path) (v : Visit)
    (e : Bytes × FileNode) :
    w.entryFiles t root below v e = [] ∨
      w.entryFiles t root below v e = [v.path.joinName e.1] ∨
      ∃ l node, w.target? t v (v.path.joinName e.1) e.1 e.2 = some (l, node) ∧
        w.entryFiles t root below v e = below (w.enter t v (v.path.joinName e.1) l) node := by
  unfold entryFiles
  dsimp only
  cases htarget : w.target? t v (v.path.joinName e.1) e.1 e.2 with
  | none => exact Or.inl rfl
  | some ln =>
    obtain ⟨l, node⟩ := ln
    dsimp only
    split
    · exact Or.inl rfl
    · cases node with
      | file content =>
        dsimp only
        split
        · exact Or.inr (Or.inl rfl)
        · exact Or.inl rfl
      | dir es =>
        dsimp only
        split
        · exact Or.inl rfl
        · split
          · exact Or.inl rfl
          · exact Or.inr (Or.inr ⟨l, _, rfl, rfl⟩)
      | link target => exact Or.inl rfl
      | special => exact Or.inl rfl

/-- Following a link leads to what the tree holds somewhere else. -/
theorem proper_of_target? (ht : t.root.Proper) {v : Visit} {path : Path} {name : Bytes}
    {node n : FileNode} {l : Location} (hnode : node.Proper)
    (h : w.target? t v path name node = some (l, n)) : n.Proper := by
  unfold target? at h
  split at h
  · split at h
    · split at h
      · next m hm =>
        dsimp only at h
        split at h
        · simp at h
        · simp only [Option.some.injEq, Prod.mk.injEq] at h
          exact h.2 ▸ FileTree.Proper.nodeAt ht m
      · simp at h
    · simp at h
  · simp only [Option.some.injEq, Prod.mk.injEq] at h
    exact h.2 ▸ hnode

/-! ## The order -/

theorem sortEntries_perm (es : List (Bytes × FileNode)) : (sortEntries es).Perm es :=
  List.mergeSort_perm _ _

theorem sortEntries_ascending {es : List (Bytes × FileNode)} (h : (es.map Prod.fst).Nodup) :
    (sortEntries es).Pairwise fun a b => a.1 < b.1 := by
  have hsorted : (sortEntries es).Pairwise fun a b => a.1 ≤ b.1 :=
    List.pairwise_mergeSort' (Order.Preimage Prod.fst (· ≤ ·)) es
  have hdistinct : (sortEntries es).Pairwise fun a b => a.1 ≠ b.1 := by
    have hnodup := ((sortEntries_perm es).map Prod.fst).nodup_iff.2 h
    exact List.pairwise_map.1 hnodup
  exact hsorted.imp₂ (fun a b hle hne => Std.lt_of_le_of_ne hle hne) hdistinct

/-- An entry brings its own path or what lies below it, if what is brought from below lies there. -/
theorem exists_names_of_mem_entryFiles (ht : t.root.Proper) {below : Visit → FileNode → List Path}
    (hbelow : ∀ v node p, node.Proper → p ∈ below v node →
      ∃ name names, (∀ n ∈ name :: names, ProperName n) ∧ p = v.path.below (name :: names))
    {v : Visit} {e : Bytes × FileNode} {p : Path} (hname : ProperName e.1) (hnode : e.2.Proper)
    (h : p ∈ w.entryFiles t root below v e) :
    ∃ names, (∀ n ∈ e.1 :: names, ProperName n) ∧ p = v.path.below (e.1 :: names) := by
  rcases w.entryFiles_cases t root below v e with hnil | hself | ⟨l, node, htarget, hin⟩
  · simp [hnil] at h
  · rw [hself, List.mem_singleton] at h
    exact ⟨[], by simpa using hname, h⟩
  · rw [hin] at h
    obtain ⟨name, names, hproper, rfl⟩ :=
      hbelow _ _ p (w.proper_of_target? t ht hnode htarget) h
    exact ⟨name :: names, List.forall_mem_cons.2 ⟨hname, hproper⟩, rfl⟩

theorem exists_names_of_mem_files (ht : t.root.Proper) (fuel : Nat) (v : Visit) (dir : FileNode)
    (p : Path) (hdir : dir.Proper) (h : p ∈ w.files t root fuel v dir) :
    ∃ name names, (∀ n ∈ name :: names, ProperName n) ∧ p = v.path.below (name :: names) := by
  induction fuel generalizing v dir p with
  | zero => simp [files] at h
  | succ fuel ih =>
    rw [files, List.mem_flatMap] at h
    obtain ⟨e, he, hp⟩ := h
    have hmem : e ∈ dir.entries := (sortEntries_perm _).mem_iff.1 he
    exact ⟨e.1, w.exists_names_of_mem_entryFiles t root ht ih (hdir.properName hmem)
      (hdir.of_mem_entries hmem) hp⟩

theorem files_ascending (ht : t.root.Proper) (fuel : Nat) {v : Visit} {dir : FileNode}
    (hdir : dir.Proper) : (w.files t root fuel v dir).Pairwise Path.Before := by
  induction fuel generalizing v dir with
  | zero => exact List.Pairwise.nil
  | succ fuel ih =>
    have hproper : ∀ e ∈ sortEntries dir.entries, ProperName e.1 ∧ e.2.Proper := fun e he =>
      have hmem := (sortEntries_perm _).mem_iff.1 he
      ⟨hdir.properName hmem, hdir.of_mem_entries hmem⟩
    rw [files, List.pairwise_flatMap]
    constructor
    · -- Within one entry: nothing, one path, or the walk of a directory below.
      intro e he
      rcases w.entryFiles_cases t root (w.files t root fuel) v e with
        hnil | hself | ⟨l, node, htarget, hbelow⟩
      · rw [hnil]
        exact List.Pairwise.nil
      · rw [hself]
        exact List.pairwise_singleton _ _
      · rw [hbelow]
        exact ih (w.proper_of_target? t ht (hproper e he).2 htarget)
    · -- Of two entries the names decide.
      refine (sortEntries_ascending hdir.nodup_entries).imp_of_mem ?_
      intro a b ha hb hlt p hp q hq
      have hbelow := w.exists_names_of_mem_files t root ht fuel
      obtain ⟨ps, hps, rfl⟩ := w.exists_names_of_mem_entryFiles t root ht hbelow
        (hproper a ha).1 (hproper a ha).2 hp
      obtain ⟨qs, hqs, rfl⟩ := w.exists_names_of_mem_entryFiles t root ht hbelow
        (hproper b hb).1 (hproper b hb).2 hq
      exact Path.before_of_components (v.path.components_below hps) (v.path.components_below hqs)
        hlt

/-! ## Walks without links and ignore files -/

/-- Whether a walk only filters by names and globs. -/
structure IsPlain : Prop where
  followsLinks : w.followsLinks = false
  respectsIgnoreFiles : w.respectsIgnoreFiles = false

/-- A plain walk yields an entry that is a file and what is in one that is a directory. -/
theorem mem_entryFiles_iff (hw : w.IsPlain) {below : Visit → FileNode → List Path} {v : Visit}
    {name : Bytes} {node : FileNode} {p : Path} :
    p ∈ w.entryFiles t root below v (name, node) ↔
      (∃ content, node = .file content ∧ w.accepts root (v.path.joinName name) = true ∧
        p = v.path.joinName name) ∨
      ∃ es, node = .dir es ∧ w.filter.isPruned (Utf8.toString name) = false ∧
        (v.path.joinName name).bytes.length ≤ FileTree.maxPathLength ∧
        p ∈ below (w.enter t v (v.path.joinName name) (name :: v.location)) node := by
  unfold entryFiles target? leavesOut
  cases node <;> simp [hw.followsLinks, hw.respectsIgnoreFiles]

/-- The regular files below a directory, by the names on the way from `v.path`, that the filter
lets pass; the directories on the way have names that are not pruned, and the path of the last one,
which is the longest, can still be looked up. -/
theorem mem_files_iff (hw : w.IsPlain) {fuel : Nat} {v : Visit} {dir : FileNode} {p : Path}
    (hdir : dir.Proper) (hfuel : dir.size < fuel)
    (hshort : v.path.bytes.length ≤ FileTree.maxPathLength) :
    p ∈ w.files t root fuel v dir ↔
      ∃ dirs name content, dir.find? (dirs ++ [name]) = some (.file content) ∧
        (∀ d ∈ dirs, w.filter.isPruned (Utf8.toString d) = false) ∧
        (v.path.below dirs).bytes.length ≤ FileTree.maxPathLength ∧
        w.accepts root p = true ∧ p = v.path.below (dirs ++ [name]) := by
  induction fuel generalizing v dir with
  | zero => omega
  | succ fuel ih =>
    have hbelow {d : Bytes} {es : List (Bytes × FileNode)} (hmem : (d, .dir es) ∈ dir.entries) :
        (FileNode.dir es).Proper ∧ (FileNode.dir es).size < fuel :=
      have hsize : (FileNode.dir es).size < dir.size := FileNode.size_lt_of_mem_entries hmem
      ⟨hdir.of_mem_entries hmem, by omega⟩
    rw [files, List.mem_flatMap]
    constructor
    · rintro ⟨⟨n, child⟩, he, hp⟩
      have hmem : (n, child) ∈ dir.entries := (sortEntries_perm _).mem_iff.1 he
      obtain ⟨content, rfl, haccepts, rfl⟩ | ⟨es, rfl, hpruned, henters, hp⟩ :=
        (w.mem_entryFiles_iff t root hw).1 hp
      · exact ⟨[], n, content, (FileNode.find?_name_iff hdir).2 hmem, by simp, hshort, haccepts, rfl⟩
      · obtain ⟨dirs, name, content, hfind, hdirs, hlast, haccepts, hp⟩ :=
          (ih (hbelow hmem).1 (hbelow hmem).2 henters).1 hp
        exact ⟨n :: dirs, name, content, (FileNode.find?_cons_concat_iff hdir).2 ⟨es, hmem, hfind⟩,
          List.forall_mem_cons.2 ⟨hpruned, hdirs⟩, hlast, haccepts, hp⟩
    · rintro ⟨dirs, name, content, hfind, hdirs, hlast, haccepts, rfl⟩
      cases dirs with
      | nil =>
        have hmem := (FileNode.find?_name_iff hdir).1 hfind
        exact ⟨(name, .file content), (sortEntries_perm _).mem_iff.2 hmem,
          (w.mem_entryFiles_iff t root hw).2 (.inl ⟨content, rfl, haccepts, rfl⟩)⟩
      | cons d dirs =>
        have hnames := hdir.names_of_find? hfind
        obtain ⟨es, hmem, hfind⟩ := (FileNode.find?_cons_concat_iff hdir).1 hfind
        obtain ⟨hd, hdirs⟩ := List.forall_mem_cons.1 hdirs
        -- The path of the first directory is no longer than that of the last one.
        have henters : (v.path.joinName d).bytes.length ≤ FileTree.maxPathLength := by
          refine Nat.le_trans (Path.length_le_below _ fun n hn => ?_) hlast
          exact hnames n (by simp [hn])
        refine ⟨(d, .dir es), (sortEntries_perm _).mem_iff.2 hmem,
          (w.mem_entryFiles_iff t root hw).2 (.inr ⟨es, rfl, hd, henters, ?_⟩)⟩
        exact (ih (hbelow hmem).1 (hbelow hmem).2 henters).2
          ⟨dirs, name, content, hfind, hdirs, hlast, haccepts, rfl⟩

/-! ## Whole walks -/

variable (env : Environment)

theorem walk_of_not_exists {root : Path} (h : env.files.exists root = false) :
    w.walk env root = [] := by
  have hlook : ∀ node, env.files.look root ≠ .ok node := fun node hnode => by
    have hexists := (env.files.exists_eq_true_iff root).2 ⟨node, hnode⟩
    simp [hexists] at h
  unfold walk
  dsimp only
  split
  · rfl
  · next l hl =>
    split
    · next content hn =>
      exact absurd ((env.files.look_eq_ok_iff root true _).2 ⟨l, hl, hn⟩) (hlook _)
    · next es hn =>
      exact absurd ((env.files.look_eq_ok_iff root true _).2 ⟨l, hl, hn⟩) (hlook _)
    all_goals rfl

/-- A directory is walked from its path on, with fuel for any depth that its tree has. -/
theorem walk_of_dir {root : Path} {dir : FileNode} (hlook : env.files.look root = .ok dir)
    (hdir : dir.isDir = true) (hroot : root.components ≠ standardInput.components) :
    ∃ fuel v, w.walk env root = w.files env.files root fuel v dir ∧ v.path = root ∧
      dir.size < fuel := by
  obtain ⟨l, hl, hn⟩ := (env.files.look_eq_ok_iff root true dir).1 hlook
  cases dir with
  | dir es =>
    have hsize : (FileNode.dir es).size ≤ env.files.root.size := hn ▸ env.files.size_nodeAt_le l
    have hbound : env.files.root.size + 1 ≤
        (env.files.root.size + 1) * (env.files.root.size + 1) :=
      Nat.le_mul_of_pos_left _ (Nat.succ_pos _)
    let chain : IgnoreChain :=
      if w.respectsIgnoreFiles then .ofRoot env root
      else { inside := [], above := [], root, place := none, user := { dir := env.workDir } }
    refine ⟨_, { path := root, location := l, entered := [l], chain }, ?_, rfl,
      Nat.lt_of_lt_of_le (Nat.lt_succ_of_le hsize) hbound⟩
    unfold walk
    simp only [hl, hn, if_neg hroot]
    rfl
  | file | link | special => simp [FileNode.isDir] at hdir

theorem walk_ascending (h : env.files.root.Proper) (root : Path) :
    (w.walk env root).Pairwise Path.Before := by
  unfold walk
  dsimp only
  split
  · exact List.Pairwise.nil
  · next l hl =>
    split
    · split
      · exact List.pairwise_singleton _ _
      · exact List.Pairwise.nil
    · next es hes =>
      split
      · exact List.Pairwise.nil
      · exact w.files_ascending _ _ h _ (hes ▸ FileTree.Proper.nodeAt h l)
    all_goals exact List.Pairwise.nil

end ConstantScan.Walker
