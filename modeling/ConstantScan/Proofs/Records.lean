import ConstantScan.Config.Extract
import ConstantScan.Proofs.Dicts
import Mathlib

/-!
# Reading records key by key

A dictionary whose keys are not repeated reads as a record exactly if each field reads from the
value under its key, or keeps what it had where there is none. The order of the keys plays no part.
-/

namespace ConstantScan

/-- A field of a record: how it is read, shown and set. -/
structure RecordField (σ : Type) where
  {Content : Type}
  name : String
  read : Read Content
  get : σ → Content
  set : σ → Content → σ

namespace RecordField

variable {σ : Type}

def toSlot (f : RecordField σ) : Read.Slot σ := Read.slot f.name f.read f.set

/-- The field of `r` is what the dictionary says, or that of `start` if it says nothing. -/
def Reads (f : RecordField σ) (start : σ) (es : Dict) (r : σ) : Prop :=
  match Dict.get? f.name es with
  | some v => f.read v = .ok (f.get r)
  | none => f.get r = f.get start

/-- The fields have names of their own, and a record is what they show of it. -/
structure Lawful (fs : List (RecordField σ)) : Prop where
  nodup : (fs.map RecordField.name).Nodup
  get_set : ∀ f ∈ fs, ∀ r x, f.get (f.set r x) = x
  get_set_of_ne : ∀ f ∈ fs, ∀ g ∈ fs, f.name ≠ g.name → ∀ r x, f.get (g.set r x) = f.get r
  ext : ∀ r r', (∀ f ∈ fs, f.get r = f.get r') → r = r'

theorem lookup_map_toSlot {fs : List (RecordField σ)} {key : String}
    {set : σ → Value → Except Problem σ} (h : (fs.map toSlot).lookup key = some set) :
    ∃ f ∈ fs, f.name = key ∧ set = fun r v => (f.read v).map (f.set r) := by
  obtain ⟨front, back, hsplit, -⟩ := List.lookup_eq_some_iff.1 h
  have hmem : (key, set) ∈ fs.map toSlot := by simp [hsplit]
  obtain ⟨f, hf, hslot⟩ := List.mem_map.1 hmem
  obtain ⟨hname, hset⟩ := Prod.mk.inj hslot
  exact ⟨f, hf, hname, hset.symm⟩

theorem name_ne_of_lookup_map_toSlot {fs : List (RecordField σ)} {key : String}
    (h : (fs.map toSlot).lookup key = none) {f : RecordField σ} (hf : f ∈ fs) : f.name ≠ key := by
  rintro rfl
  have hnone := List.lookup_eq_none_iff.1 h (f.toSlot) (List.mem_map_of_mem hf)
  simp [toSlot, Read.slot] at hnone

theorem reads_cons_of_ne {f : RecordField σ} {key : String} (h : key ≠ f.name) (start : σ) (v : Value)
    (es : Dict) (r : σ) : f.Reads start ((key, v) :: es) r ↔ f.Reads start es r := by
  rw [Reads, Dict.get?, if_neg h, Reads]

theorem Lawful.eq_of_name {fs : List (RecordField σ)} (h : Lawful fs) {f g : RecordField σ} (hf : f ∈ fs)
    (hg : g ∈ fs) (hname : f.name = g.name) : f = g :=
  List.inj_on_of_nodup_map h.nodup hf hg hname

/-- What an entry does to the field it names and to the others. -/
theorem Lawful.reads_set_iff {fs : List (RecordField σ)} (h : Lawful fs) {f : RecordField σ} (hf : f ∈ fs)
    {es : Dict} (hkey : f.name ∉ es.map Prod.fst) (start : σ) (x : f.Content) (r : σ) :
    (∀ g ∈ fs, g.Reads (f.set start x) es r) ↔
      f.get r = x ∧ ∀ g ∈ fs, g ≠ f → g.Reads start es r := by
  have hother (g : RecordField σ) (hg : g ∈ fs) (hne : g ≠ f) :
      g.Reads (f.set start x) es r ↔ g.Reads start es r := by
    have hname : g.name ≠ f.name := fun e => hne (h.eq_of_name hg hf e)
    rw [Reads, Reads, h.get_set_of_ne g hg f hf hname]
  have hself : f.Reads (f.set start x) es r ↔ f.get r = x := by
    rw [Reads, Dict.get?_eq_none_of_not_mem hkey]
    simp only [h.get_set f hf]
  constructor
  · exact fun hall => ⟨hself.1 (hall f hf), fun g hg hne => (hother g hg hne).1 (hall g hg)⟩
  · rintro ⟨hx, hall⟩ g hg
    by_cases hne : g = f
    · subst hne
      exact hself.2 hx
    · exact (hother g hg hne).2 (hall g hg hne)

end RecordField

namespace Read

open RecordField

theorem fieldsByName_eq_ok_iff {σ : Type} {fs : List (RecordField σ)} (h : Lawful fs) {es : Dict}
    (hes : (es.map Prod.fst).Nodup) (start r : σ) :
    fieldsByName (fs.map toSlot) start es = .ok r ↔ ∀ f ∈ fs, f.Reads start es r := by
  induction es generalizing start with
  | nil =>
    simp only [fieldsByName, Except.ok.injEq, Reads, Dict.get?]
    exact ⟨fun e f _ => e ▸ rfl, fun hall => h.ext _ _ fun f hf => (hall f hf).symm⟩
  | cons e es ih =>
    obtain ⟨key, v⟩ := e
    rw [List.map_cons, List.nodup_cons] at hes
    obtain ⟨hkey, hes⟩ := hes
    rw [fieldsByName]
    cases hlookup : (fs.map toSlot).lookup key with
    | none =>
      -- Unknown keys say nothing about any field.
      rw [ih hes]
      refine forall₂_congr fun f hf => ?_
      rw [reads_cons_of_ne (name_ne_of_lookup_map_toSlot hlookup hf).symm]
    | some set =>
      obtain ⟨f, hf, rfl, rfl⟩ := lookup_map_toSlot hlookup
      have hself : f.Reads start ((f.name, v) :: es) r ↔ f.read v = .ok (f.get r) := by
        rw [Reads, Dict.get?, if_pos rfl]
      have hothers (g : RecordField σ) (hg : g ∈ fs) (hne : g ≠ f) :
          g.Reads start ((f.name, v) :: es) r ↔ g.Reads start es r :=
        reads_cons_of_ne (fun e => hne (h.eq_of_name hg hf e.symm)) _ _ _ _
      have hall : (∀ g ∈ fs, g.Reads start ((f.name, v) :: es) r) ↔
          f.read v = .ok (f.get r) ∧ ∀ g ∈ fs, g ≠ f → g.Reads start es r := by
        constructor
        · exact fun hr => ⟨hself.1 (hr f hf), fun g hg hne => (hothers g hg hne).1 (hr g hg)⟩
        · rintro ⟨hv, hr⟩ g hg
          by_cases hne : g = f
          · subst hne
            exact hself.2 hv
          · exact (hothers g hg hne).2 (hr g hg hne)
      rw [hall]
      cases hread : f.read v with
      | error p => simp [hread, Except.map]
      | ok x =>
        simp only [hread, Except.map, ih hes, h.reads_set_iff hf hkey, Except.ok.injEq, eq_comm]

theorem record_dict_eq_ok_iff {σ : Type} {fs : List (RecordField σ)} (h : Lawful fs) {es : Dict}
    (hes : (es.map Prod.fst).Nodup) (s : Strictness) (type : String) (start : σ)
    (missing : Missing σ) (r : σ) :
    record s type (fs.map toSlot) start missing (.dict es) = .ok r ↔
      (∀ f ∈ fs, f.Reads start es r) ∧ missing r = none := by
  rw [← fieldsByName_eq_ok_iff h hes]
  simp only [record]
  cases fieldsByName (fs.map toSlot) start es with
  | error p => simp
  | ok r' =>
    cases hmissing : missing r' with
    | none =>
      simp only [hmissing, Except.ok.injEq, iff_self_and]
      rintro rfl
      exact hmissing
    | some place =>
      simp only [hmissing, fail, reduceCtorEq, Except.ok.injEq, false_iff, not_and]
      rintro rfl
      simp [hmissing]

/-! ## What every reading keeps -/

section

variable {σ : Type} {fields : List (Slot σ)} {P : σ → Prop}
  (hset : ∀ e ∈ fields, ∀ r v r', P r → e.2 r v = .ok r' → P r')
include hset

theorem fieldsByName_invariant {es : Dict} {start r : σ} (hstart : P start)
    (h : fieldsByName fields start es = .ok r) : P r := by
  induction es generalizing start with
  | nil => exact Except.ok.inj h ▸ hstart
  | cons e es ih =>
    obtain ⟨key, v⟩ := e
    rw [fieldsByName] at h
    cases hlookup : fields.lookup key with
    | none =>
      rw [hlookup] at h
      exact ih hstart h
    | some set =>
      simp only [hlookup] at h
      cases hnext : set start v with
      | error p => simp [hnext] at h
      | ok next =>
        simp only [hnext] at h
        obtain ⟨front, back, hsplit, -⟩ := List.lookup_eq_some_iff.1 hlookup
        exact ih (hset (key, set) (by simp [hsplit]) start v next hstart hnext) h

theorem fieldsByPosition_invariant {vs rest : List Value} {index : Nat} {start r : σ}
    (hstart : P start) (h : fieldsByPosition index start fields vs = .ok (r, rest)) : P r := by
  induction fields generalizing vs index start with
  | nil =>
    rw [fieldsByPosition, Except.ok.injEq] at h
    exact (Prod.mk.inj h).1 ▸ hstart
  | cons e fields ih =>
    cases vs with
    | nil =>
      rw [fieldsByPosition, Except.ok.injEq] at h
      · exact (Prod.mk.inj h).1 ▸ hstart
      · simp
    | cons v vs =>
      obtain ⟨key, set⟩ := e
      rw [fieldsByPosition] at h
      cases hnext : set start v with
      | error p => simp [hnext] at h
      | ok next =>
        simp only [hnext] at h
        have hkeep := hset (key, set) List.mem_cons_self start v next hstart hnext
        exact ih (fun e he => hset e (List.mem_cons_of_mem _ he)) hkeep h

theorem record_invariant {s : Strictness} {type : String} {missing : Missing σ} {start r : σ}
    {v : Value} (hstart : P start) (h : record s type fields start missing v = .ok r) : P r := by
  unfold record at h
  cases v with
  | dict es =>
    simp only at h
    cases hfields : fieldsByName fields start es with
    | error p => simp [hfields] at h
    | ok next =>
      simp only [hfields] at h
      split at h
      · simp [fail] at h
      · exact Except.ok.inj h ▸ fieldsByName_invariant hset hstart hfields
  | list vs =>
    simp only at h
    cases hfields : fieldsByPosition 0 start fields vs with
    | error p => simp [hfields] at h
    | ok next =>
      obtain ⟨next, rest⟩ := next
      simp only [hfields] at h
      split at h
      · simp [fail] at h
      · split at h
        · simp [fail] at h
        · exact Except.ok.inj h ▸ fieldsByPosition_invariant hset hstart hfields
  | null | bool | number | string | char => simp [fail] at h

end

end Read

end ConstantScan
