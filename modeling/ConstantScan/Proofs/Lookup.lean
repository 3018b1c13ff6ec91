import ConstantScan.Proofs.FileTree
import Mathlib

/-!
# Relative paths

A relative path leads where the same path leads after the path of the current directory, as long as
that is not too long for a path. Steps that stay where they are change nothing.
-/

namespace ConstantScan

/-! ## Segments -/

namespace Path

theorem segmentsFrom_append_of_not_mem {name : Bytes} (h : slash ∉ name) (current bs : Bytes) :
    segmentsFrom current (name ++ bs) = segmentsFrom (name.reverse ++ current) bs := by
  induction name generalizing current with
  | nil => rfl
  | cons b name ih =>
    rw [List.mem_cons, not_or] at h
    rw [List.cons_append, segmentsFrom, if_neg (Ne.symm h.1), ih h.2]
    simp

/-- The segments of names, each with a slash in front, and of what comes after one more slash. -/
theorem segmentsFrom_flatMap {names : List Bytes} (h : ∀ n ∈ names, slash ∉ n)
    (current bs : Bytes) :
    segmentsFrom current (names.flatMap (slash :: ·) ++ slash :: bs) =
      current.reverse :: (names ++ segmentsFrom [] bs) := by
  induction names generalizing current with
  | nil => simp [segmentsFrom]
  | cons n names ih =>
    obtain ⟨hn, h⟩ := List.forall_mem_cons.1 h
    rw [List.flatMap_cons, List.append_assoc, List.cons_append, segmentsFrom, if_pos rfl,
      segmentsFrom_append_of_not_mem hn, ih h]
    simp

/-- A path with steps in front that stay where they are. -/
def dotted (count : Nat) (p : Path) : Path :=
  ⟨(List.replicate count [0x2E, slash]).flatten ++ p.bytes⟩

theorem length_dotted (count : Nat) (p : Path) :
    (dotted count p).bytes.length = 2 * count + p.bytes.length := by
  simp [dotted, Nat.mul_comm]

theorem segments_dotted (count : Nat) (p : Path) :
    (dotted count p).segments = List.replicate count dot ++ p.segments := by
  simp only [segments, dotted]
  induction count with
  | zero => rfl
  | succ count ih =>
    rw [List.replicate_succ, List.replicate_succ, List.cons_append, ← ih]
    simp [segmentsFrom, slash, dot]

theorem head?_segments_dotted (count : Nat) (p : Path) :
    (dotted (count + 1) p).segments.head? = some dot := by
  rw [segments_dotted, List.replicate_succ]
  rfl

theorem not_isAbsolute_dotted {p : Path} (h : p.isAbsolute = false) (count : Nat) :
    (dotted count p).isAbsolute = false := by
  cases count with
  | zero => exact h
  | succ count => simp [dotted, isAbsolute, List.replicate_succ, slash]

end Path

/-- Going on from a place by a relative path adds a slash and that path. -/
theorem Location.bytes_path_join {l : Location} (h : ∀ n ∈ l, ProperName n) {p : Path}
    (hp : p.isAbsolute = false) :
    (l.path.join p).bytes = l.reverse.flatMap (Path.slash :: ·) ++ Path.slash :: p.bytes := by
  rw [Path.join, if_neg (by simp [hp])]
  cases l with
  | nil => rfl
  | cons n l =>
    obtain ⟨hn, -⟩ := List.forall_mem_cons.1 h
    have hlast : (Location.path (n :: l)).bytes.getLast? ≠ some Path.slash := by
      obtain ⟨front, b, rfl⟩ := (List.eq_nil_or_concat' n).resolve_left hn.ne_nil
      have hb : b ≠ Path.slash := fun e => hn.no_slash (by simp [e])
      have hpath : (Location.path ((front ++ [b]) :: l)).bytes =
          (l.reverse.flatMap (Path.slash :: ·) ++ Path.slash :: front) ++ [b] := by
        simp [Location.path]
      rw [hpath, List.getLast?_concat]
      exact fun e => hb (Option.some.inj e)
    rw [if_neg]
    · rfl
    · simpa [Location.path] using hlast

namespace FileNode

theorem find?_append (node : FileNode) (names rest : List Bytes) :
    node.find? (names ++ rest) = (node.find? names).bind (·.find? rest) := by
  induction names generalizing node with
  | nil => rfl
  | cons name names ih =>
    rw [List.cons_append, find?, find?]
    cases node.child? name with
    | none => rfl
    | some child => exact ih child

end FileNode

namespace FileTree

theorem at?_cons (t : FileTree) (name : Bytes) (l : Location) :
    t.at? (name :: l) = (t.at? l).bind (·.child? name) := by
  rw [at?, List.reverse_cons, FileNode.find?_append, at?]
  cases t.root.find? l.reverse with
  | none => rfl
  | some node => simp [FileNode.find?]

/-! ## Steps -/

theorem steps_of_segments {p q : Path} {front : List Bytes}
    (hsegments : q.segments = front ++ p.segments)
    (hlast : q.bytes.getLast? = p.bytes.getLast?) :
    steps q = front.filter (· ≠ []) ++ steps p := by
  simp only [steps, hsegments, hlast, List.filter_append]
  split <;> simp

/-- Names that lead to a directory through directories are steps into them. -/
theorem walkSteps_names (t : FileTree) (follow : Bool) (links : Nat) {l : Location}
    {node : FileNode} (hnode : t.at? l = some node) {names : List Bytes}
    (hnames : ∀ n ∈ names, ProperName n ∧ n.length ≤ maxNameLength)
    (hdir : ∃ es, node.find? names = some (.dir es)) (rest : List Bytes) :
    t.walkSteps follow links l (names ++ rest) =
      t.walkSteps follow links (names.reverse ++ l) rest := by
  induction names generalizing l node with
  | nil => rfl
  | cons n names ih =>
    obtain ⟨⟨hproper, hlength⟩, hnames⟩ := List.forall_mem_cons.1 hnames
    obtain ⟨es, hes⟩ := hdir
    rw [FileNode.find?, Option.bind_eq_some_iff] at hes
    obtain ⟨child, hchild, hes⟩ := hes
    have hstep : t.walkSteps follow links l ((n :: names) ++ rest) =
        t.walkSteps follow links (n :: l) (names ++ rest) := by
      cases node with
      | file | link | special => simp [FileNode.child?, FileNode.entries] at hchild
      | dir siblings =>
        rw [List.cons_append, walkSteps, nodeAt_of_at? hnode]
        simp only [hproper.ne_dot, hproper.ne_dotDot, Nat.not_lt.2 hlength, if_false]
        rw [show siblings.lookup n = some child from hchild]
        cases child with
        | link target =>
          -- A link has nothing below it and is no directory itself.
          cases names <;> simp [FileNode.find?, FileNode.child?, FileNode.entries] at hes
        | file | dir | special => rfl
    rw [hstep, ih (by rw [at?_cons, hnode]; exact hchild) hnames ⟨es, hes⟩]
    simp

theorem walkSteps_dots (t : FileTree) (follow : Bool) (links : Nat) {l : Location}
    {es : List (Bytes × FileNode)} (hdir : t.at? l = some (.dir es)) (count : Nat)
    (rest : List Bytes) :
    t.walkSteps follow links l (List.replicate count Path.dot ++ rest) =
      t.walkSteps follow links l rest := by
  induction count with
  | zero => rfl
  | succ count ih =>
    rw [List.replicate_succ, List.cons_append, walkSteps, nodeAt_of_at? hdir]
    simp only [if_true, ih]

/-! ## From the current directory -/

/-- The current directory is there, under names that a system allows. -/
structure Standing (t : FileTree) : Prop where
  isDir : ∃ es, t.at? t.current = some (.dir es)
  proper : ∀ n ∈ t.current, ProperName n
  short : ∀ n ∈ t.current, n.length ≤ maxNameLength
  noNul : ∀ n ∈ t.current, 0 ∉ n

/-- The steps into a place come before those of the path. -/
theorem steps_join {l : Location} (hl : ∀ n ∈ l, ProperName n) {p : Path}
    (hrelative : p.isAbsolute = false) (hp : p.bytes ≠ []) :
    steps (l.path.join p) = l.reverse ++ steps p := by
  have hbytes := Location.bytes_path_join hl hrelative
  have hsegments : (l.path.join p).segments = ([] :: l.reverse) ++ p.segments := by
    rw [Path.segments, hbytes,
      Path.segmentsFrom_flatMap fun n hn => (hl n (List.mem_reverse.1 hn)).no_slash]
    rfl
  have hlast : (l.path.join p).bytes.getLast? = p.bytes.getLast? := by
    rw [hbytes, List.getLast?_append_of_ne_nil _ (by simp)]
    obtain ⟨b, bs, hb⟩ := List.exists_cons_of_ne_nil hp
    rw [hb, List.getLast?_cons_cons]
  have hnames : ([] :: l.reverse).filter (· ≠ []) = l.reverse := by
    rw [List.filter_cons_of_neg (by simp), List.filter_eq_self]
    exact fun n hn => by simpa using (hl n (List.mem_reverse.1 hn)).ne_nil
  rw [steps_of_segments hsegments hlast, hnames]

theorem Standing.resolve_join {t : FileTree} (ht : t.Standing) {p : Path} (hp : p.bytes ≠ [])
    (hrelative : p.isAbsolute = false)
    (hshort : (t.current.path.join p).bytes.length ≤ maxPathLength) :
    t.resolve (t.current.path.join p) = t.resolve p := by
  have hbytes := Location.bytes_path_join ht.proper hrelative
  have hlength : p.bytes.length ≤ maxPathLength := by
    rw [hbytes, List.length_append, List.length_cons] at hshort
    omega
  have hne : (t.current.path.join p).bytes ≠ [] := by simp [hbytes]
  have hstart : (t.current.path.join p).isAbsolute = true := by
    rw [Path.isAbsolute, hbytes]
    cases t.current.reverse <;> simp
  have hnul : (t.current.path.join p).bytes.contains 0 = p.bytes.contains 0 := by
    have hnames : ∀ n ∈ t.current, 0 ∈ n → 0 ∈ p.bytes := fun n hn h => absurd h (ht.noNul n hn)
    rw [hbytes, Bool.eq_iff_iff]
    simpa [Path.slash] using hnames
  -- The current directory is where its own names lead, and none of them is a link.
  have hwalk : t.walkSteps true maxLinks [] (t.current.reverse ++ steps p) =
      t.walkSteps true maxLinks t.current (steps p) := by
    have hnames : ∀ n ∈ t.current.reverse, ProperName n ∧ n.length ≤ maxNameLength := by
      intro n hn
      rw [List.mem_reverse] at hn
      exact ⟨ht.proper n hn, ht.short n hn⟩
    rw [walkSteps_names t true maxLinks (l := []) rfl hnames ht.isDir, List.reverse_reverse,
      List.append_nil]
  rw [resolve, resolve, hnul, if_neg hne, if_neg hp, if_neg (Nat.not_lt.2 hshort),
    if_neg (Nat.not_lt.2 hlength), steps_join ht.proper hrelative hp, hstart, hrelative,
    if_pos rfl, hwalk, if_neg Bool.false_ne_true]

/-- A path leads where it leads after the path of the current directory. -/
theorem Standing.look_join {t : FileTree} (ht : t.Standing) {p : Path} (hp : p.bytes ≠ [])
    (hshort : (t.current.path.join p).bytes.length ≤ maxPathLength) :
    t.look (t.current.path.join p) = t.look p := by
  cases hrelative : p.isAbsolute with
  | true => rw [Path.join_of_isAbsolute hrelative]
  | false => rw [look, ht.resolve_join hp hrelative hshort, look]

/-! ## Paths that say more than they have to -/

/-- Steps in front that stay where they are lead nowhere else. -/
theorem look_of_dots {t : FileTree} {p q : Path} {count : Nat}
    (hdir : ∃ es, t.at? (if q.isAbsolute then [] else t.current) = some (.dir es))
    (hsteps : steps p = List.replicate count Path.dot ++ steps q)
    (habsolute : p.isAbsolute = q.isAbsolute) (hnul : p.bytes.contains 0 = q.bytes.contains 0)
    (hp : p.bytes ≠ []) (hq : q.bytes ≠ []) (hpq : q.bytes.length ≤ p.bytes.length)
    (hshort : p.bytes.length ≤ maxPathLength) : t.look p = t.look q := by
  obtain ⟨es, hdir⟩ := hdir
  have hresolve : t.resolve p = t.resolve q := by
    rw [resolve, resolve, hnul, if_neg hp, if_neg hq, if_neg (Nat.not_lt.2 hshort),
      if_neg (Nat.not_lt.2 (hpq.trans hshort)), hsteps, habsolute,
      walkSteps_dots t true maxLinks hdir]
  rw [look, hresolve, look]

section

variable {t : FileTree} {p : Path} (hp : p.bytes ≠ []) (hrelative : p.isAbsolute = false)
  {count : Nat}
include hp

theorem steps_dotted :
    steps (Path.dotted count p) = List.replicate count Path.dot ++ steps p := by
  have hlast : (Path.dotted count p).bytes.getLast? = p.bytes.getLast? := by
    rw [Path.dotted, List.getLast?_append_of_ne_nil _ hp]
  rw [steps_of_segments (Path.segments_dotted count p) hlast, List.filter_eq_self.2]
  intro n hn
  rw [List.eq_of_mem_replicate hn]
  decide

include hrelative

theorem look_dotted (ht : t.Standing)
    (hshort : (Path.dotted count p).bytes.length ≤ maxPathLength) :
    t.look (Path.dotted count p) = t.look p := by
  refine look_of_dots ?_ (steps_dotted hp)
    ((Path.not_isAbsolute_dotted hrelative count).trans hrelative.symm) ?_
    (by simp [Path.dotted, hp]) hp (by rw [Path.length_dotted]; omega) hshort
  · rw [hrelative]
    exact ht.isDir
  · rw [Bool.eq_iff_iff]
    simp [Path.dotted, Path.slash]

end

theorem look_of_too_long {t : FileTree} {p : Path} (h : maxPathLength < p.bytes.length) :
    ∃ e, t.look p = .error e := by
  unfold look resolve
  split_ifs <;> exact ⟨_, rfl⟩

theorem length_of_look {t : FileTree} {p : Path} {node : FileNode} (h : t.look p = .ok node) :
    p.bytes.length ≤ maxPathLength := by
  by_contra hlong
  obtain ⟨e, he⟩ := t.look_of_too_long (Nat.lt_of_not_le hlong)
  simp [he] at h

theorem not_exists_of_too_long {t : FileTree} {p : Path} (h : maxPathLength < p.bytes.length) :
    t.exists p = false := by
  obtain ⟨e, he⟩ := t.look_of_too_long h
  rw [«exists», he]
  rfl

end FileTree

end ConstantScan
