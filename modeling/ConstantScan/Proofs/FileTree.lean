import ConstantScan.Proofs.Path
import ConstantScan.Walk

/-!
# Proper trees

What a system guarantees of a tree of files, and what follows for looking entries up.
-/

namespace ConstantScan

namespace FileNode

/-- Each entry of a directory has a proper name, which no other entry has. -/
inductive Proper : FileNode → Prop
  | file (content : Bytes) : Proper (.file content)
  | link (target : Bytes) : Proper (.link target)
  | special : Proper .special
  | dir {es : List (Bytes × FileNode)} (nodup : (es.map Prod.fst).Nodup)
      (names : ∀ e ∈ es, ProperName e.1) (nodes : ∀ e ∈ es, Proper e.2) : Proper (.dir es)

namespace Proper

variable {node : FileNode}

theorem nodup_entries (h : node.Proper) : (node.entries.map Prod.fst).Nodup := by
  cases h with
  | dir nodup => exact nodup
  | file | link | special => exact List.nodup_nil

theorem properName (h : node.Proper) {e : Bytes × FileNode} (he : e ∈ node.entries) :
    ProperName e.1 := by
  cases h with
  | dir _ names => exact names e he
  | file | link | special => simp [entries] at he

theorem of_mem_entries (h : node.Proper) {e : Bytes × FileNode} (he : e ∈ node.entries) :
    e.2.Proper := by
  cases h with
  | dir _ _ nodes => exact nodes e he
  | file | link | special => simp [entries] at he

end Proper

/-! ## Looking up -/

theorem mem_of_lookup {es : List (Bytes × FileNode)} {name : Bytes} {node : FileNode}
    (h : es.lookup name = some node) : (name, node) ∈ es := by
  obtain ⟨front, back, rfl, -⟩ := List.lookup_eq_some_iff.1 h
  simp

theorem child?_eq_some_iff {dir : FileNode} (h : dir.Proper) {name : Bytes} {node : FileNode} :
    dir.child? name = some node ↔ (name, node) ∈ dir.entries := by
  refine ⟨mem_of_lookup, fun he => ?_⟩
  obtain ⟨front, back, hes⟩ := List.append_of_mem he
  have hnodup := h.nodup_entries
  rw [hes, List.map_append, List.map_cons, List.nodup_append] at hnodup
  refine List.lookup_eq_some_iff.2 ⟨front, back, hes, fun e hf => ?_⟩
  have hne := hnodup.2.2 e.1 (List.mem_map_of_mem hf) name List.mem_cons_self
  simpa using Ne.symm hne

theorem Proper.find? {node : FileNode} (h : node.Proper) {names : List Bytes} {n : FileNode}
    (hn : node.find? names = some n) : n.Proper := by
  induction names generalizing node with
  | nil =>
    rw [FileNode.find?, Option.some.injEq] at hn
    exact hn ▸ h
  | cons name names ih =>
    rw [FileNode.find?, Option.bind_eq_some_iff] at hn
    obtain ⟨child, hchild, hn⟩ := hn
    exact ih (h.of_mem_entries (mem_of_lookup hchild)) hn

/-- The names on the way to an entry are proper. -/
theorem Proper.names_of_find? {node : FileNode} (h : node.Proper) {names : List Bytes}
    {n : FileNode} (hn : node.find? names = some n) : ∀ name ∈ names, ProperName name := by
  induction names generalizing node with
  | nil => simp
  | cons name names ih =>
    rw [FileNode.find?, Option.bind_eq_some_iff] at hn
    obtain ⟨child, hchild, hn⟩ := hn
    have hmem := mem_of_lookup hchild
    rw [List.forall_mem_cons]
    exact ⟨h.properName hmem, ih (h.of_mem_entries hmem) hn⟩

theorem find?_name_iff {dir : FileNode} (h : dir.Proper) {name : Bytes} {node : FileNode} :
    dir.find? [name] = some node ↔ (name, node) ∈ dir.entries := by
  simp only [FileNode.find?, Option.bind_fun_some, child?_eq_some_iff h]

/-- More names lead through a directory, as nothing else has entries. -/
theorem find?_cons_concat_iff {dir : FileNode} (h : dir.Proper) {d name : Bytes}
    {dirs : List Bytes} {node : FileNode} :
    dir.find? ((d :: dirs) ++ [name]) = some node ↔
      ∃ es, (d, .dir es) ∈ dir.entries ∧ (FileNode.dir es).find? (dirs ++ [name]) = some node := by
  rw [List.cons_append, FileNode.find?, Option.bind_eq_some_iff]
  constructor
  · rintro ⟨child, hchild, hfind⟩
    cases child with
    | dir es => exact ⟨es, mem_of_lookup hchild, hfind⟩
    | file | link | special => cases dirs <;> simp [FileNode.find?, child?, entries] at hfind
  · rintro ⟨es, hmem, hfind⟩
    exact ⟨_, (child?_eq_some_iff h).2 hmem, hfind⟩

/-! ## Size -/

theorem size_le_entriesSize {es : List (Bytes × FileNode)} {e : Bytes × FileNode} (h : e ∈ es) :
    e.2.size ≤ entriesSize es := by
  induction es with
  | nil => simp at h
  | cons e' es ih =>
    rw [entriesSize]
    rcases List.mem_cons.1 h with rfl | h
    · omega
    · have := ih h
      omega

theorem size_lt_of_mem_entries {node : FileNode} {e : Bytes × FileNode} (h : e ∈ node.entries) :
    e.2.size < node.size := by
  cases node with
  | dir es =>
    have : e.2.size ≤ entriesSize es := size_le_entriesSize h
    rw [size]
    omega
  | file | link | special => simp [entries] at h

theorem size_le_of_find? {node n : FileNode} {names : List Bytes}
    (h : node.find? names = some n) : n.size ≤ node.size := by
  induction names generalizing node with
  | nil =>
    rw [FileNode.find?, Option.some.injEq] at h
    exact Nat.le_of_eq (congrArg size h.symm)
  | cons name names ih =>
    rw [FileNode.find?, Option.bind_eq_some_iff] at h
    obtain ⟨child, hchild, h⟩ := h
    have hlt : child.size < node.size := size_lt_of_mem_entries (mem_of_lookup hchild)
    have := ih h
    omega

end FileNode

namespace FileTree

theorem look_eq_ok_iff (t : FileTree) (p : Path) (follow : Bool) (node : FileNode) :
    t.look p follow = .ok node ↔ ∃ l, t.resolve p follow = .ok l ∧ t.nodeAt l = node := by
  unfold look
  cases t.resolve p follow <;> simp [Except.map]

theorem nodeAt_of_at? {t : FileTree} {l : Location} {node : FileNode} (h : t.at? l = some node) :
    t.nodeAt l = node := by
  rw [nodeAt, h, Option.getD_some]

theorem Proper.nodeAt {t : FileTree} (h : t.root.Proper) (l : Location) : (t.nodeAt l).Proper := by
  unfold FileTree.nodeAt
  cases hl : t.at? l with
  | none => exact .dir List.nodup_nil (by simp) (by simp)
  | some node => exact h.find? hl

theorem size_nodeAt_le (t : FileTree) (l : Location) : (t.nodeAt l).size ≤ t.root.size := by
  unfold nodeAt
  cases hl : t.at? l with
  | none => cases t.root <;> simp [FileNode.size, FileNode.entriesSize]
  | some node => exact FileNode.size_le_of_find? hl

theorem exists_eq_true_iff (t : FileTree) (p : Path) :
    t.exists p = true ↔ ∃ node, t.look p = .ok node := by
  unfold «exists»
  cases t.look p <;> simp [Except.isOk, Except.toBool]

theorem Proper.look {t : FileTree} (h : t.root.Proper) {p : Path} {node : FileNode}
    (hn : t.look p = .ok node) : node.Proper := by
  obtain ⟨l, -, rfl⟩ := (t.look_eq_ok_iff p true node).1 hn
  exact Proper.nodeAt h l

/-! ## Regular files -/

theorem isFile_congr {t t' : FileTree} {p p' : Path} (h : t.look p = t'.look p') :
    t.isFile p = t'.isFile p' := by
  rw [isFile, isFile, h]

theorem read_congr {t t' : FileTree} {p p' : Path} (h : t.look p = t'.look p') :
    t.read p = t'.read p' := by
  rw [read, read, h]

theorem look_of_read {t : FileTree} {p : Path} {content : Bytes} (h : t.read p = .ok content) :
    t.look p = .ok (.file content) := by
  unfold read at h
  cases hlook : t.look p with
  | error e => simp [hlook, bind, Except.bind] at h
  | ok node =>
    cases node with
    | file c =>
      simp only [hlook, bind, Except.bind, pure, Except.pure, Except.ok.injEq] at h
      rw [h]
    | dir | link | special =>
      simp [hlook, bind, Except.bind, throw, throwThe, MonadExceptOf.throw] at h

theorem isFile_of_read {t : FileTree} {p : Path} {content : Bytes} (h : t.read p = .ok content) :
    t.isFile p = true := by
  rw [isFile, look_of_read h]
  rfl

end FileTree

end ConstantScan
