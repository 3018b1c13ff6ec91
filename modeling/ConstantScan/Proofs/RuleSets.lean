import ConstantScan.Rule.Builtin
import Mathlib

/-!
# The rules that settings make up

A rule set that is built from settings has just the rules that the settings ask for, each compiled
from its own expression, and it is asked for a rule by name.
-/

namespace ConstantScan

section

variable {ε α β : Type} {f : α → Except ε β}

theorem exists_of_isOk {r : Except ε α} (h : r.isOk = true) : ∃ a, r = .ok a := by
  cases r with
  | error e => cases h
  | ok a => exact ⟨a, rfl⟩

theorem mapM_eq_ok_iff {xs : List α} {ys : List β} :
    xs.mapM f = .ok ys ↔ List.Forall₂ (fun x y => f x = .ok y) xs ys := by
  induction xs generalizing ys with
  | nil => simp [pure, Except.pure, eq_comm]
  | cons x xs ih =>
    rw [List.mapM_cons, List.forall₂_cons_left_iff]
    cases hx : f x with
    | error e => simp [bind, Except.bind]
    | ok y =>
      cases hxs : xs.mapM f with
      | error e => simp [bind, Except.bind, ← ih, hxs]
      | ok zs => simp [bind, Except.bind, pure, Except.pure, ← ih, hxs, eq_comm]

theorem exists_mapM_eq_ok {xs : List α} (h : ∀ x ∈ xs, ∃ y, f x = .ok y) :
    ∃ ys, xs.mapM f = .ok ys := by
  induction xs with
  | nil => exact ⟨[], rfl⟩
  | cons x xs ih =>
    obtain ⟨⟨y, hy⟩, hxs⟩ := List.forall_mem_cons.1 h
    obtain ⟨ys, hys⟩ := ih hxs
    exact ⟨y :: ys, by rw [List.mapM_cons, hy, hys]; rfl⟩

theorem exists_of_mapM_eq_error {xs : List α} {e : ε} (h : xs.mapM f = .error e) :
    ∃ x ∈ xs, f x = .error e := by
  induction xs with
  | nil => simp [pure, Except.pure] at h
  | cons x xs ih =>
    rw [List.mapM_cons] at h
    cases hx : f x with
    | error e' =>
      simp only [hx, bind, Except.bind, Except.error.injEq] at h
      exact ⟨x, List.mem_cons_self, h ▸ hx⟩
    | ok y =>
      cases hxs : xs.mapM f with
      | error e' =>
        simp only [hx, hxs, bind, Except.bind, Except.error.injEq] at h
        obtain ⟨z, hz, hze⟩ := ih (h ▸ hxs)
        exact ⟨z, List.mem_cons_of_mem _ hz, hze⟩
      | ok ys => simp [hx, hxs, bind, Except.bind, pure, Except.pure] at h

end

theorem exists_mem_of_forall₂ {α β : Type} {r : α → β → Prop} {xs : List α} {ys : List β}
    (h : List.Forall₂ r xs ys) {y : β} (hy : y ∈ ys) : ∃ x ∈ xs, r x y := by
  induction h with
  | nil => cases hy
  | cons hxy _ ih =>
    obtain rfl | hy := List.mem_cons.1 hy
    · exact ⟨_, List.mem_cons_self, hxy⟩
    · obtain ⟨x, hx, hxy⟩ := ih hy
      exact ⟨x, List.mem_cons_of_mem _ hx, hxy⟩

/-! ## The rules that are asked for -/

/-- A custom rule without its compiled expression. One that is not described is told of as defined
by the user. -/
def CustomRule.written (c : CustomRule) : RuleSource where
  name := c.name
  regex := c.regex
  description := if c.description = "" then "User-defined pattern" else c.description
  remediation := c.remediation

theorem CustomRule.source_eq_written (c : CustomRule) : c.source = c.written := by
  simp only [source, written, String.isEmpty_iff]
  rfl

/-- The rules before their expressions are read, in the order of the set. -/
def RuleSettings.active (settings : RuleSettings) : List RuleSource :=
  builtinSources.filter (fun s => !settings.disabled.contains s.name) ++
    (settings.custom.filter (·.enabled)).map CustomRule.written

theorem Regex.read_eq_ok_iff {text : String} {regex : Regex} :
    read text = .ok regex ↔ ofString? text = some regex := by
  unfold read
  cases ofString? text <;> simp

theorem RuleSource.read_eq_ok_iff {read : RegexReader} {s : RuleSource} {r : Rule} :
    s.read read = .ok r ↔ ∃ regex, read s.regex = .ok regex ∧
      r = ⟨s.name, s.regex, regex, s.description, s.remediation⟩ := by
  unfold RuleSource.read Rule.make
  cases read s.regex <;> simp [eq_comm]

/-- The built-in expressions are well-formed for the reader. -/
def RegexReader.ReadsBuiltin (read : RegexReader) : Prop :=
  ∀ s ∈ builtinSources, (read s.regex).isOk = true

instance (read : RegexReader) : Decidable read.ReadsBuiltin :=
  inferInstanceAs (Decidable (∀ s ∈ builtinSources, (read s.regex).isOk = true))

theorem Regex.readsBuiltin_read : RegexReader.ReadsBuiltin read := by decide +kernel

namespace RuleSet

variable {read : RegexReader}

theorem rules_of_ofList {rules : List Rule} {set : RuleSet} (h : ofList rules = .ok set) :
    set.rules = rules := by
  unfold ofList at h
  split at h
  · simp at h
  · split at h
    · simp at h
    · exact (Except.ok.inj h) ▸ rfl

theorem rules_of_builtin {set : RuleSet} (h : builtin read = .ok set) :
    List.Forall₂ (fun s r => s.read read = .ok r) builtinSources set.rules := by
  rw [builtin, builtinRules] at h
  cases hread : builtinSources.mapM (·.read read) with
  | error e => simp [hread, bind, Except.bind] at h
  | ok rules =>
    simp only [hread, bind, Except.bind] at h
    exact rules_of_ofList h ▸ mapM_eq_ok_iff.1 hread

theorem ofList_rules (set : RuleSet) : ofList set.rules = .ok set := by
  have hnone := (firstRepeated_eq_none_iff [] _).2 ⟨set.nodup, by simp⟩
  unfold ofList
  rw [dif_neg set.ne_nil]
  split
  · next h => rw [hnone] at h; cases h
  · rfl

/-- No two of the built-in rules have one name. -/
theorem exists_builtin (h : read.ReadsBuiltin) : ∃ set, builtin read = .ok set := by
  obtain ⟨rules, hrules⟩ : ∃ rules, builtinSources.mapM (·.read read) = .ok rules := by
    refine exists_mapM_eq_ok fun s hs => ?_
    obtain ⟨regex, hregex⟩ := exists_of_isOk (h s hs)
    exact ⟨_, RuleSource.read_eq_ok_iff.2 ⟨regex, hregex, rfl⟩⟩
  have hnames : rules.map Rule.name = builtinSources.map RuleSource.name := by
    rw [eq_comm, ← List.forall₂_eq_eq_eq, List.forall₂_map_left_iff, List.forall₂_map_right_iff]
    refine (mapM_eq_ok_iff.1 hrules).imp fun s r hread => ?_
    obtain ⟨_, -, rfl⟩ := RuleSource.read_eq_ok_iff.1 hread
    rfl
  have hne : rules ≠ [] := by
    rintro rfl
    exact absurd hnames (by simp [builtinSources])
  have hnodup : (rules.map Rule.name).Nodup := by
    rw [hnames]
    decide
  refine ⟨⟨rules, hne, hnodup⟩, ?_⟩
  rw [builtin, builtinRules, hrules]
  exact ofList_rules ⟨rules, hne, hnodup⟩

/-- The rules that are kept and the custom rules that are read are those that are asked for. -/
theorem forall₂_active {settings : RuleSettings} {b : RuleSet} {custom : List Rule}
    (hbuiltin : builtin read = .ok b)
    (hcustom : (settings.custom.filter (·.enabled)).mapM (·.source.read read) = .ok custom) :
    List.Forall₂ (fun s r => s.read read = .ok r) settings.active
      (b.rules.filter (fun r => !settings.disabled.contains r.name) ++ custom) := by
  refine List.rel_append ?_ ?_
  · refine List.rel_filter ?_ (rules_of_builtin hbuiltin)
    intro s r hread
    obtain ⟨_, -, rfl⟩ := RuleSource.read_eq_ok_iff.1 hread
    rfl
  · simp only [CustomRule.source_eq_written] at hcustom
    exact List.forall₂_map_left_iff.2 (mapM_eq_ok_iff.1 hcustom)

theorem rules_of_ofSettings {settings : RuleSettings} {set : RuleSet}
    (h : ofSettings settings read = .ok set) :
    List.Forall₂ (fun s r => s.read read = .ok r) settings.active set.rules := by
  simp only [ofSettings, bind, Except.bind, throw, throwThe, MonadExceptOf.throw] at h
  cases hbuiltin : builtin read with
  | error e => simp [hbuiltin] at h
  | ok b =>
    simp only [hbuiltin] at h
    split at h
    · simp at h
    · cases hcustom : (settings.custom.filter (·.enabled)).mapM (·.source.read read) with
      | error e => simp [hcustom] at h
      | ok custom =>
        simp only [hcustom] at h
        rw [rules_of_ofList h]
        exact forall₂_active hbuiltin hcustom

/-- The rules that match a line are those whose expressions are found in it. -/
theorem names_matching {settings : RuleSettings} {set : RuleSet}
    (h : ofSettings settings read = .ok set) (line : List Char) :
    (set.matching line).map Rule.name =
      (settings.active.filter fun s => (read s.regex).toOption.any (·.isFoundIn line)).map
        RuleSource.name := by
  rw [eq_comm, ← List.forall₂_eq_eq_eq, List.forall₂_map_left_iff, List.forall₂_map_right_iff,
    matching]
  refine (List.rel_filter ?_ (rules_of_ofSettings h)).imp fun s r hread => ?_
  · intro s r hread
    obtain ⟨regex, hregex, rfl⟩ := RuleSource.read_eq_ok_iff.1 hread
    simp [hregex, Except.toOption, Rule.matchesLine]
  · obtain ⟨_, -, rfl⟩ := RuleSource.read_eq_ok_iff.1 hread
    rfl

/-! ## Rules by name -/

/-- The expression of the rule of that name. -/
def regexOf? (set : RuleSet) (name : String) : Option Regex := (set.find? name).map Rule.regex

/-- Names are not repeated, so the first rule of a name is the only one. -/
theorem filter_name (set : RuleSet) (name : String) :
    set.rules.filter (·.name == name) = (set.find? name).toList := by
  have hnodup := set.nodup
  rw [find?]
  generalize set.rules = rules at hnodup ⊢
  induction rules with
  | nil => rfl
  | cons r rules ih =>
    obtain ⟨hnot, hnodup⟩ := List.nodup_cons.1 hnodup
    rw [List.filter_cons, List.find?_cons]
    cases heq : r.name == name with
    | true =>
      have hnone : rules.filter (·.name == name) = [] := by
        rw [List.filter_eq_nil_iff]
        intro other hother he
        rw [beq_iff_eq] at heq he
        exact hnot (heq ▸ he ▸ List.mem_map_of_mem hother)
      simp [hnone]
    | false => simpa using ih hnodup

theorem find?_of_mem {set : RuleSet} {rule : Rule} (h : rule ∈ set.rules) :
    set.find? rule.name = some rule := by
  have hmem : rule ∈ set.rules.filter (·.name == rule.name) := by simp [h]
  rw [filter_name, Option.mem_toList] at hmem
  exact hmem

theorem regexOf?_of_mem {set : RuleSet} {rule : Rule} (h : rule ∈ set.rules) :
    set.regexOf? rule.name = some rule.regex := by
  rw [regexOf?, find?_of_mem h, Option.map_some]

variable {settings : RuleSettings} {set : RuleSet} (h : ofSettings settings read = .ok set)

include h

/-- The set has the names and expressions that the settings ask for. -/
theorem sources_of_ofSettings :
    set.rules.map (fun r => (r.name, r.source)) =
      settings.active.map fun s => (s.name, s.regex) := by
  rw [eq_comm, ← List.forall₂_eq_eq_eq, List.forall₂_map_left_iff, List.forall₂_map_right_iff]
  refine (rules_of_ofSettings h).imp fun s r hread => ?_
  obtain ⟨_, -, rfl⟩ := RuleSource.read_eq_ok_iff.1 hread
  rfl

theorem read_source {rule : Rule} (hrule : rule ∈ set.rules) :
    read rule.source = .ok rule.regex := by
  have hall : List.Forall₂ (fun r s => read r.source = .ok r.regex ∧ s.read read = .ok r)
      set.rules settings.active := by
    refine ((rules_of_ofSettings h).imp fun s r hread => ?_).flip
    obtain ⟨_, hregex, rfl⟩ := RuleSource.read_eq_ok_iff.1 hread
    exact ⟨hregex, hread⟩
  exact ((List.forall₂_and_left _ _).1 hall).1 rule hrule

theorem mem_active_iff {name source : String} :
    (∃ s ∈ settings.active, s.name = name ∧ s.regex = source) ↔
      ∃ rule ∈ set.rules, rule.name = name ∧ rule.source = source := by
  have hpair := congrArg ((name, source) ∈ ·) (sources_of_ofSettings h)
  simpa using hpair.symm

end RuleSet

end ConstantScan
