import ConstantScan.Proofs.Enumeration
import ConstantScan.Proofs.Stages
import ConstantScan.Proofs.Utf8

/-!
# Where findings are

A finding says where its file is under the root of its target. Below a directory this leads back to
the file, however the root is spelled; a root that is a file itself has no place under itself.
-/

namespace ConstantScan

namespace Utf8

theorem encode_append (cs ds : List Char) : encode (cs ++ ds) = encode cs ++ encode ds :=
  List.flatMap_append

theorem ofString_intercalate (sep : String) (ss : List String) :
    ofString (sep.intercalate ss) = (ofString sep).intercalate (ss.map ofString) := by
  have hencode (cs : List Char) (css : List (List Char)) :
      encode (cs.intercalate css) = (encode cs).intercalate (css.map encode) := by
    induction css with
    | nil => rfl
    | cons ds css ih =>
      cases css with
      | nil => simp only [List.map_cons, List.map_nil, List.intercalate_singleton]
      | cons es css =>
        rw [List.intercalate_cons_cons, encode_append, encode_append, ih]
        simp only [List.map_cons, List.intercalate_cons_cons]
  rw [ofString_eq_encode, String.toList_intercalate, hencode, ofString_eq_encode, List.map_map]
  refine congrArg _ (List.map_congr_left fun s _ => ?_)
  exact (ofString_eq_encode s).symm

end Utf8

namespace Path

/-! ## Going on by several names at once -/

/-- The bytes of the path with a slash after them, if something is there to end. -/
def stem (p : Path) : Bytes :=
  if p.bytes = [] || p.bytes.getLast? = some slash then p.bytes else p.bytes ++ [slash]

theorem join_of_not_isAbsolute (p : Path) {q : Path} (h : q.isAbsolute = false) :
    p.join q = ⟨p.stem ++ q.bytes⟩ := by
  rw [join, h, if_neg Bool.false_ne_true, stem]
  split
  · rfl
  · rw [List.append_assoc, List.singleton_append]

theorem stem_append_name (front : Bytes) {name : Bytes} (h : ProperName name) :
    stem ⟨front ++ name⟩ = front ++ name ++ [slash] := by
  have hlast : name.getLast? ≠ some slash := fun hslash =>
    h.no_slash (List.mem_of_getLast? hslash)
  rw [stem, List.getLast?_append_of_ne_nil _ h.ne_nil, if_neg]
  simp [h.ne_nil, hlast]

theorem exists_intercalate_cons {α : Type} (sep x : List α) (xs : List (List α)) :
    ∃ rest, sep.intercalate (x :: xs) = x ++ rest := by
  cases xs with
  | nil => exact ⟨[], by rw [List.intercalate_singleton, List.append_nil]⟩
  | cons y xs =>
    exact ⟨sep ++ sep.intercalate (y :: xs), by rw [List.intercalate_cons_cons, List.append_assoc]⟩

theorem not_isAbsolute_intercalate {name : Bytes} (h : ProperName name) (names : List Bytes) :
    isAbsolute ⟨[slash].intercalate (name :: names)⟩ = false := by
  obtain ⟨rest, hrest⟩ := exists_intercalate_cons [slash] name names
  rw [hrest, isAbsolute, List.head?_append_of_ne_nil _ h.ne_nil]
  exact not_isAbsolute_of_proper h

/-- The names with slashes between them lead where they lead one by one. -/
theorem join_intercalate (p : Path) {name : Bytes} {names : List Bytes}
    (h : ∀ n ∈ name :: names, ProperName n) :
    p.join ⟨[slash].intercalate (name :: names)⟩ = p.below (name :: names) := by
  induction names generalizing p name with
  | nil =>
    rw [List.intercalate_singleton]
    rfl
  | cons name' names ih =>
    obtain ⟨hname, hnames⟩ := List.forall_mem_cons.1 h
    have hstep : p.joinName name = ⟨p.stem ++ name⟩ :=
      p.join_of_not_isAbsolute (not_isAbsolute_of_proper hname)
    have hfirst := not_isAbsolute_intercalate (hnames name' List.mem_cons_self) names
    rw [below_cons, ← ih _ hnames, hstep, join_of_not_isAbsolute _ hfirst,
      stem_append_name _ hname, p.join_of_not_isAbsolute (not_isAbsolute_intercalate hname _),
      List.intercalate_cons_cons]
    simp only [List.append_assoc]

/-! ## The place under a root -/

theorem relativeText_below (p : Path) {names : List Bytes} (h : ∀ n ∈ names, ProperName n) :
    (p.below names).relativeText p = String.intercalate "/" (names.map Utf8.toString) := by
  rw [relativeText, relativeTo_below p h, List.map_map]
  rfl

theorem relativeText_self (p : Path) : p.relativeText p = "" :=
  @relativeText_below p [] (by simp)

theorem relativeText_ne_empty (p : Path) {name : Bytes} {names : List Bytes}
    (h : ∀ n ∈ name :: names, ProperName n) :
    (p.below (name :: names)).relativeText p ≠ "" := by
  obtain ⟨rest, hrest⟩ := exists_intercalate_cons "/".toList (Utf8.toString name).toList
    ((names.map Utf8.toString).map String.toList)
  have hname : (Utf8.toString name).toList ≠ [] := by
    rw [Utf8.toString, String.toList_ofList]
    exact mt Utf8.decode_eq_nil_iff.1 (h name List.mem_cons_self).ne_nil
  rw [relativeText_below p h]
  intro hempty
  have hchars := congrArg String.toList hempty
  rw [String.toList_intercalate, List.map_cons, List.map_cons, hrest] at hchars
  exact hname (List.append_eq_nil_iff.1 hchars).1

/-- The names on the way from `base` to the path are texts. -/
def IsTextFrom (p base : Path) : Prop := ∀ c ∈ p.relativeTo base, Utf8.isValid c.bytes = true

theorem join_relativeText (p : Path) {name : Bytes} {names : List Bytes}
    (h : ∀ n ∈ name :: names, ProperName n)
    (htext : (p.below (name :: names)).IsTextFrom p) :
    p.join (.ofString ((p.below (name :: names)).relativeText p)) = p.below (name :: names) := by
  have hvalid : ∀ n ∈ name :: names, Utf8.ofString (Utf8.toString n) = n := by
    intro n hn
    refine Utf8.ofString_toString (htext (.name n) ?_)
    rw [relativeTo_below p h]
    exact List.mem_map_of_mem hn
  have hnames : ((name :: names).map Utf8.toString).map Utf8.ofString = name :: names := by
    rw [List.map_map]
    exact (List.map_congr_left hvalid).trans (List.map_id _)
  have hslash : Utf8.ofString "/" = [slash] := by cbv
  rw [relativeText_below p h, ofString, Utf8.ofString_intercalate, hnames, hslash,
    join_intercalate p h]

end Path

/-! ## The files of a walk -/

namespace Walker

variable (w : Walker)

/-- What a walk yields is the root itself, where this is a file, or something below it. -/
theorem eq_or_below_of_mem_walk (env : Environment) (ht : env.files.root.Proper) {root p : Path}
    (h : p ∈ w.walk env root) :
    (env.files.isFile root = true ∧ p = root) ∨ (env.files.isFile root = false ∧
      ∃ name names, (∀ n ∈ name :: names, ProperName n) ∧ p = root.below (name :: names)) := by
  have hkind {l : Location} {node : FileNode} (hl : env.files.resolve root = .ok l)
      (hn : env.files.nodeAt l = node) : env.files.isFile root = node.isFile := by
    have hlook := (env.files.look_eq_ok_iff root true node).2 ⟨l, hl, hn⟩
    rw [FileTree.isFile, hlook]
  unfold walk at h
  dsimp only at h
  split at h
  · cases h
  · next l hl =>
    split at h
    · next content hn =>
      split at h
      · exact .inl ⟨hkind hl hn, List.mem_singleton.1 h⟩
      · cases h
    · next es hn =>
      split at h
      · cases h
      · exact .inr ⟨hkind hl hn, w.exists_names_of_mem_files _ root ht _ _ _ p
          (hn ▸ FileTree.Proper.nodeAt ht l) h⟩
    all_goals cases h

end Walker

/-! ## Findings -/

/-- From the root of its target the finding leads to the file. -/
structure Finding.Locates (f : Finding) (root file : Path) : Prop where
  ne_empty : f.file ≠ ""
  leads : root.join (.ofString f.file) = file

namespace Scanner

variable (s : Scanner) (env : Environment)

/-- The findings that are made from a file of a target. -/
def fileFindings (target : ScanTarget) (file : Path) : Findings :=
  (s.outcomeOf env file).found.map (·.attribute target file)

theorem file_of_mem_fileFindings {target : ScanTarget} {file : Path} {f : Finding}
    (h : f ∈ s.fileFindings env target file) : f.file = file.relativeText target.root := by
  obtain ⟨m, -, rfl⟩ := List.mem_map.1 h
  rfl

theorem run_findings (machine : Machine) (targets : List ScanTarget) :
    (s.run env machine targets).1.findings = targets.flatMap fun target =>
      (s.walker.walk env target.root).flatMap (s.fileFindings env target) := by
  rw [run_eq]
  rfl

section

variable {env} (htree : env.files.root.Proper) {target : ScanTarget} {file : Path}
  (hfile : file ∈ s.walker.walk env target.root) (htext : file.IsTextFrom target.root)
include htree hfile htext

theorem locates_iff {f : Finding} (h : f ∈ s.fileFindings env target file) :
    f.Locates target.root file ↔ env.files.isFile target.root = false := by
  have hplace := s.file_of_mem_fileFindings env h
  rcases s.walker.eq_or_below_of_mem_walk env htree hfile with
    ⟨hkind, rfl⟩ | ⟨hkind, name, names, hproper, rfl⟩
  · rw [hkind]
    refine ⟨fun hlocates => ?_, fun hfalse => absurd hfalse (by decide)⟩
    exact absurd (hplace.trans (Path.relativeText_self _)) hlocates.ne_empty
  · refine ⟨fun _ => hkind, fun _ => ⟨?_, ?_⟩⟩
    · rw [hplace]
      exact Path.relativeText_ne_empty _ hproper
    · rw [hplace]
      exact Path.join_relativeText _ hproper htext

theorem eq_of_relativeText_eq {other : Path} (hother : other ∈ s.walker.walk env target.root)
    (htext' : other.IsTextFrom target.root)
    (h : other.relativeText target.root = file.relativeText target.root) : other = file := by
  rcases s.walker.eq_or_below_of_mem_walk env htree hfile with
    ⟨hkind, rfl⟩ | ⟨hkind, name, names, hproper, rfl⟩
  · rcases s.walker.eq_or_below_of_mem_walk env htree hother with ⟨-, rfl⟩ | ⟨hkind', -⟩
    · rfl
    · rw [hkind] at hkind'
      cases hkind'
  · rcases s.walker.eq_or_below_of_mem_walk env htree hother with
      ⟨hkind', -⟩ | ⟨-, name', names', hproper', rfl⟩
    · rw [hkind] at hkind'
      cases hkind'
    · rw [← Path.join_relativeText _ hproper' htext', h, Path.join_relativeText _ hproper htext]

end

/-- A finding leads from the root of its target to its file just where the root is no file itself,
and no two files of a target have one place. -/
theorem located_iff (machine : Machine) (targets : List ScanTarget)
    (htree : env.files.root.Proper) :
    (s.run env machine targets).1.findings = (targets.flatMap fun target =>
        (s.walker.walk env target.root).flatMap (s.fileFindings env target)) ∧
      ∀ target ∈ targets, ∀ file ∈ s.walker.walk env target.root, file.IsTextFrom target.root →
        (∀ f ∈ s.fileFindings env target file,
          f.Locates target.root file ↔ env.files.isFile target.root = false) ∧
        ∀ other ∈ s.walker.walk env target.root, other.IsTextFrom target.root →
          other.relativeText target.root = file.relativeText target.root → other = file := by
  refine ⟨s.run_findings env machine targets, fun target _ file hfile htext => ⟨?_, ?_⟩⟩
  · intro f hf
    exact s.locates_iff htree hfile htext hf
  · intro other hother htext' heq
    exact s.eq_of_relativeText_eq htree hfile htext hother htext' heq

/-- `/repo/ä/b.py` and nothing else. -/
def nestedSource : Environment where
  files :=
    { root := .dir [(Utf8.encode "repo".toList, .dir [(Utf8.encode "ä".toList,
        .dir [(Utf8.encode "b.py".toList, .file [0x78])])])]
      current := [] }
  vars := []

theorem nestedSource_proper : nestedSource.files.root.Proper := by
  have hinner : (FileNode.dir [(Utf8.encode "b.py".toList, .file [0x78])]).Proper :=
    .dir (by decide) (by decide) (by simp [FileNode.Proper.file])
  have hrepo : (FileNode.dir [(Utf8.encode "ä".toList, .dir [(Utf8.encode "b.py".toList,
      .file [0x78])])]).Proper :=
    .dir (by decide) (by decide) (by simpa using hinner)
  exact .dir (by decide) (by decide) (by simpa using hrepo)

theorem located_iff_nested :
    ⟨"repo", "ä/b.py", 1, "x", "letter"⟩ ∈
        letterScanner.fileFindings nestedSource letterTarget (.ofString "/repo/ä/b.py") ∧
      Finding.Locates ⟨"repo", "ä/b.py", 1, "x", "letter"⟩ letterTarget.root
        (.ofString "/repo/ä/b.py") := by
  have hwalk : letterScanner.walker.walk nestedSource letterTarget.root =
      [.ofString "/repo/ä/b.py"] := by cbv
  have htext : (Path.ofString "/repo/ä/b.py").IsTextFrom letterTarget.root := by
    have hnames : (Path.ofString "/repo/ä/b.py").relativeTo letterTarget.root =
        [.name (Utf8.encode "ä".toList), .name (Utf8.encode "b.py".toList)] := by cbv
    rw [Path.IsTextFrom, hnames]
    decide
  have hfound : letterScanner.fileFindings nestedSource letterTarget (.ofString "/repo/ä/b.py") =
      [⟨"repo", "ä/b.py", 1, "x", "letter"⟩] := by cbv
  have hmem : (⟨"repo", "ä/b.py", 1, "x", "letter"⟩ : Finding) ∈
      letterScanner.fileFindings nestedSource letterTarget (.ofString "/repo/ä/b.py") := by
    rw [hfound]
    exact List.mem_singleton_self _
  have hlocated := (letterScanner.located_iff nestedSource (.orderly 1) [letterTarget]
    nestedSource_proper).2 letterTarget (List.mem_singleton_self _) _
    (by rw [hwalk]; exact List.mem_singleton_self _) htext
  exact ⟨hmem, (hlocated.1 _ hmem).2 (by cbv)⟩

/-- A target that is a file. -/
def fileTarget : ScanTarget := ⟨"one", .ofString "/repo/a.py"⟩

theorem letterSources_proper : (letterSources []).files.root.Proper := by
  have hrepo : (FileNode.dir [(Utf8.encode "a.py".toList, .file [0x78])]).Proper :=
    .dir (by decide) (by decide) (by simp [FileNode.Proper.file])
  exact .dir (by decide) (by decide) (by simpa using hrepo)

/-- It is not enough that the root is there: what is found in a root that is a file has no place. -/
theorem not_located_file_root :
    ¬ ∀ (s : Scanner) (env : Environment) (target : ScanTarget), env.files.root.Proper →
      env.files.exists target.root = true →
      ∀ file ∈ s.walker.walk env target.root, file.IsTextFrom target.root →
        ∀ f ∈ s.fileFindings env target file, f.Locates target.root file := by
  intro h
  have hwalk : letterScanner.walker.walk (letterSources []) fileTarget.root = [fileTarget.root] := by
    cbv
  have htext : fileTarget.root.IsTextFrom fileTarget.root := by
    have hnames : fileTarget.root.relativeTo fileTarget.root = [] := by cbv
    simp [Path.IsTextFrom, hnames]
  have hfound : letterScanner.fileFindings (letterSources []) fileTarget fileTarget.root =
      [⟨"one", "", 1, "x", "letter"⟩] := by cbv
  have hlocates := h letterScanner (letterSources []) fileTarget letterSources_proper (by cbv)
    fileTarget.root (by rw [hwalk]; exact List.mem_singleton_self _) htext
    ⟨"one", "", 1, "x", "letter"⟩ (by rw [hfound]; exact List.mem_singleton_self _)
  exact hlocates.ne_empty rfl

end Scanner

end ConstantScan
