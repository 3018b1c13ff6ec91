import ConstantScan.Config.Merge
import Mathlib

/-!
# Dictionaries in order

The keys of what is built by setting keys ascend, so each is there once, and a key says in a merged
dictionary what it says in the upper one, merged with what it says in the lower one.
-/

namespace ConstantScan

/-! ## Ascending keys -/

namespace Dict

def Ascending (d : Dict) : Prop := d.Pairwise fun e f => e.1 < f.1

theorem Ascending.nodup {d : Dict} (h : d.Ascending) : (d.map Prod.fst).Nodup :=
  List.pairwise_map.2 (h.imp fun hlt => ne_of_lt hlt)

theorem mem_insert {key : String} {value : Value} {d : Dict} {e : String × Value}
    (h : e ∈ insert key value d) : e = (key, value) ∨ e ∈ d := by
  induction d with
  | nil => simpa [insert] using h
  | cons f d ih =>
    obtain ⟨k, v⟩ := f
    simp only [insert] at h
    split_ifs at h
    · simp only [List.mem_cons] at h ⊢
      exact h.imp_right Or.inr
    · simpa using h
    · rcases List.mem_cons.1 h with rfl | h
      · simp
      · exact (ih h).imp_right (List.mem_cons_of_mem _)

theorem Ascending.insert {d : Dict} (h : d.Ascending) (key : String) (value : Value) :
    (Dict.insert key value d).Ascending := by
  induction d with
  | nil => exact List.pairwise_singleton _ _
  | cons f d ih =>
    obtain ⟨k, v⟩ := f
    obtain ⟨hk, hd⟩ := List.pairwise_cons.1 h
    simp only [Dict.insert]
    split_ifs with heq hlt
    · subst heq
      exact List.pairwise_cons.2 ⟨hk, hd⟩
    · refine List.pairwise_cons.2 ⟨fun e he => ?_, h⟩
      rcases List.mem_cons.1 he with rfl | he
      · exact hlt
      · exact hlt.trans (hk e he)
    · refine List.pairwise_cons.2 ⟨fun e he => ?_, ih hd⟩
      rcases mem_insert he with rfl | he
      · exact lt_of_le_of_ne (not_lt.1 hlt) (Ne.symm heq)
      · exact hk e he

theorem ascending_ofList (es : List (String × Value)) : (ofList es).Ascending := by
  have hfoldl (d : Dict) (h : d.Ascending) :
      (es.foldl (fun d e => Dict.insert e.1 e.2 d) d).Ascending := by
    induction es generalizing d with
    | nil => exact h
    | cons e es ih => exact ih _ (h.insert e.1 e.2)
  exact hfoldl [] List.Pairwise.nil

/-! ## Looking up -/

theorem get?_eq_none_of_not_mem {key : String} {d : Dict} (h : key ∉ d.map Prod.fst) :
    get? key d = none := by
  induction d with
  | nil => rfl
  | cons e d ih =>
    rw [List.map_cons, List.mem_cons, not_or] at h
    rw [get?, if_neg (Ne.symm h.1)]
    exact ih h.2

theorem mem_of_get? {key : String} {value : Value} {d : Dict} (h : get? key d = some value) :
    (key, value) ∈ d := by
  induction d with
  | nil => simp [get?] at h
  | cons e d ih =>
    obtain ⟨k, v⟩ := e
    rw [get?] at h
    split_ifs at h with hk
    · subst hk
      simp [Option.some.inj h]
    · exact List.mem_cons_of_mem _ (ih h)

/-- Of entries with keys of their own each one counts. -/
theorem get?_foldl_insert {es : List (String × Value)} (h : (es.map Prod.fst).Nodup)
    (key : String) (d : Dict) :
    get? key (es.foldl (fun d e => insert e.1 e.2 d) d) = (get? key es).or (get? key d) := by
  induction es generalizing d with
  | nil => rfl
  | cons e es ih =>
    obtain ⟨k, v⟩ := e
    obtain ⟨hk, hes⟩ := List.nodup_cons.1 h
    rw [List.foldl_cons, ih hes, get?]
    by_cases heq : k = key
    · subst heq
      rw [if_pos rfl, get?_insert_self, get?_eq_none_of_not_mem hk]
      rfl
    · rw [if_neg heq, get?_insert_of_ne (Ne.symm heq)]

theorem get?_ofList {es : List (String × Value)} (h : (es.map Prod.fst).Nodup) (key : String) :
    get? key (ofList es) = get? key es := by
  rw [ofList, get?_foldl_insert h, get?, Option.or_none]

end Dict

/-! ## Values in order -/

namespace Value

/-- The entries of a dictionary; other values have none. -/
def entries : Value → Dict
  | .dict es => es
  | _ => []

def isDict : Value → Bool
  | .dict _ => true
  | _ => false

theorem at?_cons (v : Value) (key : String) (keys : List String) :
    v.at? (key :: keys) = (Dict.get? key v.entries).bind (·.at? keys) := by
  cases v <;> rfl

theorem merge_dict (lower : Value) (es : Dict) :
    merge lower (.dict es) = .dict (Dict.mergeEntries lower.entries es) := by
  cases lower <;> simp [merge, entries]

theorem merge_of_not_isDict (lower : Value) {upper : Value} (h : upper.isDict = false) :
    merge lower upper = upper := by
  cases upper with
  | dict es => exact absurd h Bool.noConfusion
  | null | bool | number | string | char | list => simp [merge]

/-- The keys ascend in a dictionary and in those inside it. -/
inductive Tidy : Value → Prop
  | leaf {v : Value} (h : v.isDict = false) : Tidy v
  | dict {es : Dict} (ascending : es.Ascending) (values : ∀ e ∈ es, Tidy e.2) : Tidy (.dict es)

theorem Tidy.ascending {v : Value} (h : v.Tidy) : v.entries.Ascending := by
  cases h with
  | dict ascending => exact ascending
  | leaf h =>
    cases v with
    | dict es => exact absurd h Bool.noConfusion
    | null | bool | number | string | char | list => exact List.Pairwise.nil

theorem Tidy.of_mem {v : Value} (h : v.Tidy) {e : String × Value} (he : e ∈ v.entries) :
    e.2.Tidy := by
  cases h with
  | dict _ values => exact values e he
  | leaf h =>
    cases v with
    | dict es => exact absurd h Bool.noConfusion
    | null | bool | number | string | char | list => cases he

theorem Tidy.of_get? {v w : Value} (h : v.Tidy) {key : String}
    (hw : Dict.get? key v.entries = some w) : w.Tidy :=
  h.of_mem (Dict.mem_of_get? hw)

theorem Tidy.ascending_entries {es : Dict} (h : (Value.dict es).Tidy) : es.Ascending := h.ascending

theorem tidy_null : Tidy .null := .leaf rfl

theorem Tidy.getD_null {v : Option Value} (h : ∀ w ∈ v, w.Tidy) : (v.getD .null).Tidy := by
  cases v with
  | none => exact tidy_null
  | some w => exact h w rfl

end Value

mutual

/-- Whatever is laid over a tidy value, the outcome is tidy. -/
theorem Value.tidy_merge {lower : Value} (h : lower.Tidy) (upper : Value) :
    (Value.merge lower upper).Tidy := by
  match upper with
  | .dict es =>
    rw [Value.merge_dict]
    refine Dict.tidy_mergeEntries ?_ es
    cases hlower : lower with
    | dict ls => exact hlower ▸ h
    | null | bool | number | string | char | list =>
      exact .dict List.Pairwise.nil (by simp [Value.entries])
  | .null | .bool _ | .number _ | .string _ | .char _ | .list _ =>
    rw [Value.merge_of_not_isDict _ rfl]
    exact .leaf rfl

theorem Dict.tidy_mergeEntries {lower : Dict} (h : (Value.dict lower).Tidy)
    (es : List (String × Value)) : (Value.dict (Dict.mergeEntries lower es)).Tidy := by
  match es with
  | [] => exact h
  | (k, v) :: es =>
    rw [Dict.mergeEntries]
    have hold : ((Dict.get? k lower).getD .null).Tidy := by
      refine Value.Tidy.getD_null fun w hw => ?_
      exact h.of_get? hw
    have hmerged := Value.tidy_merge hold v
    refine Dict.tidy_mergeEntries (.dict (h.ascending.insert _ _) fun e he => ?_) es
    rcases Dict.mem_insert he with rfl | he
    · exact hmerged
    · exact h.of_mem he

end

theorem Dict.tidy_nil : (Value.dict []).Tidy := .dict List.Pairwise.nil (by simp)

theorem Dict.tidy_merge {lower : Dict} (h : (Value.dict lower).Tidy) (upper : Dict) :
    (Value.dict (Dict.merge lower upper)).Tidy := Dict.tidy_mergeEntries h upper

/-! ## Merged dictionaries key by key -/

theorem Dict.get?_mergeEntries (lower : Dict) {upper : Dict} (h : (upper.map Prod.fst).Nodup)
    (key : String) :
    Dict.get? key (Dict.mergeEntries lower upper) =
      match Dict.get? key upper with
      | none => Dict.get? key lower
      | some v => some (Value.merge ((Dict.get? key lower).getD .null) v) := by
  induction upper generalizing lower with
  | nil => simp [Dict.mergeEntries, Dict.get?]
  | cons e upper ih =>
    obtain ⟨k, v⟩ := e
    obtain ⟨hk, hupper⟩ := List.nodup_cons.1 h
    rw [Dict.mergeEntries, ih _ hupper]
    simp only [Dict.get?]
    by_cases heq : k = key
    · subst heq
      rw [if_pos rfl, Dict.get?_eq_none_of_not_mem hk]
      exact Dict.get?_insert_self _ _ _
    · rw [if_neg heq, Dict.get?_insert_of_ne (Ne.symm heq)]

end ConstantScan
