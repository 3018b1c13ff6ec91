import ConstantScan.Path
import Mathlib.Data.List.Basic

/-!
# Paths below a directory

Going on from a path by a name that a directory may hold adds that name to the components and
changes nothing else, however the path is spelled.
-/

namespace ConstantScan

/-- What a directory may call an entry. -/
structure ProperName (name : Bytes) : Prop where
  ne_nil : name ≠ []
  ne_dot : name ≠ Path.dot
  ne_dotDot : name ≠ Path.dotDot
  no_slash : Path.slash ∉ name

instance (name : Bytes) : Decidable (ProperName name) :=
  decidable_of_iff (name ≠ [] ∧ name ≠ Path.dot ∧ name ≠ Path.dotDot ∧ Path.slash ∉ name)
    ⟨fun ⟨h, h', h'', h'''⟩ => ⟨h, h', h'', h'''⟩, fun ⟨h, h', h'', h'''⟩ => ⟨h, h', h'', h'''⟩⟩

namespace Path

/-! ## Segments -/

theorem segmentsFrom_of_not_mem {current bs : Bytes} (h : slash ∉ bs) :
    segmentsFrom current bs = [current.reverse ++ bs] := by
  induction bs generalizing current with
  | nil => simp [segmentsFrom]
  | cons b bs ih =>
    rw [List.mem_cons, not_or] at h
    rw [segmentsFrom, if_neg (Ne.symm h.1), ih h.2]
    simp

theorem segmentsFrom_append_slash (current bs cs : Bytes) :
    segmentsFrom current (bs ++ slash :: cs) = segmentsFrom current bs ++ segmentsFrom [] cs := by
  induction bs generalizing current with
  | nil => simp [segmentsFrom]
  | cons b bs ih =>
    rw [List.cons_append, segmentsFrom, segmentsFrom]
    split
    · rw [ih, List.cons_append]
    · exact ih _

theorem segmentsFrom_ne_nil (current bs : Bytes) : segmentsFrom current bs ≠ [] := by
  induction bs generalizing current with
  | nil => simp [segmentsFrom]
  | cons b bs ih =>
    rw [segmentsFrom]
    split
    · exact List.cons_ne_nil _ _
    · exact ih _

/-! ## Components -/

theorem ofSegment?_of_proper {name : Bytes} (h : ProperName name) :
    Component.ofSegment? name = some (.name name) := by
  simp [Component.ofSegment?, h.ne_nil, h.ne_dot, h.ne_dotDot]

/-- The components that the segments stand for, those of a path that is gone on along. -/
def inner (p : Path) : List Component := p.segments.filterMap Component.ofSegment?

theorem inner_nil : inner ⟨[]⟩ = [] := rfl

theorem inner_of_proper {name : Bytes} (h : ProperName name) : inner ⟨name⟩ = [.name name] := by
  have hsegments : segments ⟨name⟩ = [name] := segmentsFrom_of_not_mem h.no_slash
  rw [inner, hsegments, List.filterMap_cons, ofSegment?_of_proper h, List.filterMap_nil]

theorem components_append_slash {bs : Bytes} (hbs : bs ≠ []) (cs : Bytes) :
    components ⟨bs ++ slash :: cs⟩ = components ⟨bs⟩ ++ inner ⟨cs⟩ := by
  have hsegments : segments ⟨bs ++ slash :: cs⟩ = segments ⟨bs⟩ ++ segments ⟨cs⟩ :=
    segmentsFrom_append_slash [] bs cs
  have hhead : (segments ⟨bs⟩ ++ segments ⟨cs⟩).head? = (segments ⟨bs⟩).head? :=
    List.head?_append_of_ne_nil _ (segmentsFrom_ne_nil [] bs)
  have habsolute : isAbsolute ⟨bs ++ slash :: cs⟩ = isAbsolute ⟨bs⟩ := by
    simp only [isAbsolute, List.head?_append_of_ne_nil _ hbs]
  simp only [components, inner, hsegments, hhead, habsolute, List.filterMap_append]
  split
  · rfl
  · split <;> rfl

/-- Going on from a path keeps its components and adds those that the segments stand for. -/
theorem components_join {p q : Path} (hp : p.bytes ≠ []) (hq : q.isAbsolute = false) :
    (p.join q).components = p.components ++ q.inner := by
  obtain ⟨bs⟩ := p
  obtain ⟨cs⟩ := q
  rw [join, if_neg (by simp [hq])]
  by_cases hslash : bs.getLast? = some slash
  · rw [if_pos (by simp [hslash])]
    obtain ⟨front, rfl⟩ := List.getLast?_eq_some_iff.1 hslash
    rw [List.append_assoc, List.singleton_append]
    by_cases hfront : front = []
    · -- The path is the root, of which no slash can be spared.
      subst hfront
      have hsegments : segments ⟨[] ++ slash :: cs⟩ = [] :: segments ⟨cs⟩ :=
        segmentsFrom_append_slash [] [] cs
      simp only [components, inner, hsegments]
      simp [isAbsolute, segments, segmentsFrom, Component.ofSegment?]
    · rw [components_append_slash hfront, components_append_slash hfront, inner_nil,
        List.append_nil]
  · have hnil : bs ≠ [] := hp
    rw [if_neg (by simp [hnil, hslash]), components_append_slash hnil]

theorem not_isAbsolute_of_proper {name : Bytes} (h : ProperName name) :
    isAbsolute ⟨name⟩ = false := by
  obtain _ | ⟨b, bs⟩ := name
  · rfl
  · have hb : b ≠ slash := fun e => h.no_slash (e ▸ List.mem_cons_self)
    simpa [isAbsolute] using hb

theorem components_of_proper {name : Bytes} (h : ProperName name) :
    components ⟨name⟩ = [.name name] := by
  have hsegments : segments ⟨name⟩ = [name] := segmentsFrom_of_not_mem h.no_slash
  simp [components, hsegments, not_isAbsolute_of_proper h, ofSegment?_of_proper h, h.ne_dot]

theorem components_joinName (p : Path) {name : Bytes} (h : ProperName name) :
    (p.joinName name).components = p.components ++ [.name name] := by
  by_cases hnil : p.bytes = []
  · obtain ⟨bs⟩ := p
    subst hnil
    rw [joinName, join, if_neg (by simp [not_isAbsolute_of_proper h])]
    exact components_of_proper h
  · rw [joinName, components_join hnil (not_isAbsolute_of_proper h), inner_of_proper h]

/-! ## Names below a path -/

/-- The path to what the names lead to from `p`. -/
def below (p : Path) (names : List Bytes) : Path := names.foldl joinName p

theorem below_cons (p : Path) (name : Bytes) (names : List Bytes) :
    p.below (name :: names) = (p.joinName name).below names := rfl

theorem components_below (p : Path) {names : List Bytes} (h : ∀ n ∈ names, ProperName n) :
    (p.below names).components = p.components ++ names.map .name := by
  induction names generalizing p with
  | nil => simp [below]
  | cons n names ih =>
    rw [below_cons, ih _ fun m hm => h m (List.mem_cons_of_mem _ hm),
      components_joinName p (h n List.mem_cons_self)]
    simp

theorem relativeTo_below (p : Path) {names : List Bytes} (h : ∀ n ∈ names, ProperName n) :
    (p.below names).relativeTo p = names.map .name := by
  rw [relativeTo, components_below p h, dropFront_append, Option.getD_some]

theorem fileName?_below (p : Path) {names : List Bytes} {name : Bytes}
    (h : ∀ n ∈ names ++ [name], ProperName n) :
    (p.below (names ++ [name])).fileName? = some name := by
  rw [fileName?, components_below p h]
  simp

/-- Names below a path are told apart by where they lead. -/
theorem below_injective (p : Path) {names names' : List Bytes} (h : ∀ n ∈ names, ProperName n)
    (h' : ∀ n ∈ names', ProperName n) (e : p.below names = p.below names') : names = names' := by
  have hrelative := congrArg (·.relativeTo p) e
  simp only [relativeTo_below p h, relativeTo_below p h'] at hrelative
  exact List.map_injective_iff.2 (fun _ _ => Component.name.inj) hrelative

theorem length_lt_joinName (p : Path) {name : Bytes} (h : ProperName name) :
    p.bytes.length < (p.joinName name).bytes.length := by
  have hname : 0 < name.length := List.length_pos_of_ne_nil h.ne_nil
  rw [joinName, join, if_neg (by simp [not_isAbsolute_of_proper h])]
  split <;> simp [hname]

theorem length_le_below (p : Path) {names : List Bytes} (h : ∀ n ∈ names, ProperName n) :
    p.bytes.length ≤ (p.below names).bytes.length := by
  induction names generalizing p with
  | nil => exact Nat.le_refl _
  | cons n names ih =>
    obtain ⟨hn, h⟩ := List.forall_mem_cons.1 h
    exact Nat.le_trans (Nat.le_of_lt (length_lt_joinName p hn)) (ih _ h)

/-- The relative path of names. -/
def ofNames (names : List Bytes) : Path := .ofComponents (names.map .name)

/-! ## Order -/

/-- The order of paths by their components, which are compared byte by byte. -/
def Before (p q : Path) : Prop :=
  p.components.map Component.bytes < q.components.map Component.bytes

/-- Below one path the names decide, the first that differ. -/
theorem before_of_components {p q : Path} {front : List Component} {m n : Bytes}
    {ps qs : List Component} (hp : p.components = front ++ .name m :: ps)
    (hq : q.components = front ++ .name n :: qs) (h : m < n) : p.Before q := by
  simp only [Before, hp, hq, List.map_append, List.map_cons]
  apply List.append_left_lt
  exact List.cons_lt_cons_iff.2 (Or.inl h)

end Path

end ConstantScan
