/-! # Sets of names: ascending lists without repetition -/

namespace ConstantScan

structure NameSet where
  names : List String
  ascending : names.Pairwise (· < ·)

namespace NameSet

/-- Puts a name where it belongs, unless it is there. -/
def insertInto (name : String) : List String → List String
  | [] => [name]
  | n :: ns =>
    if name < n then name :: n :: ns
    else if name = n then n :: ns
    else n :: insertInto name ns

@[simp] theorem mem_insertInto {name n : String} {ns : List String} :
    n ∈ insertInto name ns ↔ n = name ∨ n ∈ ns := by
  induction ns with
  | nil => simp [insertInto]
  | cons m ms ih =>
    simp only [insertInto]
    split
    · simp
    · split
      · next h => subst h; simp
      · simp only [List.mem_cons, ih]
        exact or_left_comm

theorem pairwise_insertInto {name : String} {ns : List String} (h : ns.Pairwise (· < ·)) :
    (insertInto name ns).Pairwise (· < ·) := by
  induction ns with
  | nil => simp [insertInto]
  | cons m ms ih =>
    obtain ⟨hm, hms⟩ := List.pairwise_cons.1 h
    simp only [insertInto]
    split
    · next hlt =>
      refine List.pairwise_cons.2 ⟨fun n hn => ?_, h⟩
      rcases List.mem_cons.1 hn with rfl | hn
      · exact hlt
      · exact String.lt_trans hlt (hm n hn)
    · split
      · exact h
      · next hge hne =>
        refine List.pairwise_cons.2 ⟨fun n hn => ?_, ih hms⟩
        rcases mem_insertInto.1 hn with rfl | hn
        · exact Std.lt_of_le_of_ne (String.not_lt.1 hge) (Ne.symm hne)
        · exact hm n hn

def empty : NameSet := ⟨[], .nil⟩

def insert (s : NameSet) (name : String) : NameSet :=
  ⟨insertInto name s.names, pairwise_insertInto s.ascending⟩

def ofList (names : List String) : NameSet := names.foldl insert empty

theorem mem_foldl_insert {name : String} {names : List String} {s : NameSet} :
    name ∈ (names.foldl insert s).names ↔ name ∈ s.names ∨ name ∈ names := by
  induction names generalizing s with
  | nil => simp
  | cons n ns ih =>
    rw [List.foldl_cons, ih, insert, mem_insertInto, List.mem_cons, or_comm (a := name = n),
      or_assoc]

theorem mem_ofList {name : String} {names : List String} :
    name ∈ (ofList names).names ↔ name ∈ names := by
  simp [ofList, mem_foldl_insert, empty]

def contains (s : NameSet) (name : String) : Bool := s.names.contains name

end NameSet

end ConstantScan
