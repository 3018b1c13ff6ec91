import ConstantScan.Proofs.RuleSets

/-!
# What comes of the settings of rules

Several things can be wrong with settings at once. They are looked through in a fixed order, and the
first thing that is wrong is what is reported; settings with nothing wrong make up the rules that they
ask for. Custom rules that are not enabled play no part in it.
-/

namespace ConstantScan

/-! ## The first of a list -/

/-- The item has the property, and none before it has. -/
def IsFirst {α : Type} (p : α → Prop) (xs : List α) (x : α) : Prop :=
  ∃ front back, xs = front ++ x :: back ∧ p x ∧ ∀ y ∈ front, ¬ p y

theorem find?_eq_some_iff_isFirst {α : Type} {p : α → Prop} [DecidablePred p] {xs : List α} {x : α} :
    xs.find? (fun y => decide (p y)) = some x ↔ IsFirst p xs x := by
  simp only [List.find?_eq_some_iff_append, IsFirst, decide_eq_true_eq, Bool.not_eq_true',
    decide_eq_false_iff_not]
  constructor
  · rintro ⟨hx, front, back, rfl, hfront⟩
    exact ⟨front, back, rfl, hx, hfront⟩
  · rintro ⟨front, back, rfl, hx, hfront⟩
    exact ⟨hx, front, back, rfl, hfront⟩

theorem IsFirst.holds {α : Type} {p : α → Prop} {xs : List α} {x : α} (h : IsFirst p xs x) : p x :=
  let ⟨_, _, _, hx, _⟩ := h
  hx

theorem isFirst_or_forall {α : Type} (p : α → Prop) [DecidablePred p] (xs : List α) :
    (∃ x, IsFirst p xs x) ∨ ∀ x ∈ xs, ¬ p x := by
  cases h : xs.find? fun y => decide (p y) with
  | none => exact .inr (by simpa using h)
  | some x => exact .inl ⟨x, find?_eq_some_iff_isFirst.1 h⟩

/-- What is behind an item that fails is not looked at. -/
theorem mapM_append_cons_error {α β ε : Type} {f : α → Except ε β} {front : List α}
    (hfront : ∀ y ∈ front, ∃ z, f y = .ok z) {x : α} {e : ε} (hx : f x = .error e)
    (back : List α) : (front ++ x :: back).mapM f = .error e := by
  induction front with
  | nil => rw [List.nil_append, List.mapM_cons, hx]; rfl
  | cons y front ih =>
    obtain ⟨⟨z, hz⟩, hfront⟩ := List.forall_mem_cons.1 hfront
    rw [List.cons_append, List.mapM_cons, hz, ih hfront]
    rfl

/-- The name stands in front of itself, and no name does so before it. -/
def IsFirstRepeated (names : List String) (name : String) : Prop :=
  ∃ front back, names = front ++ name :: back ∧ name ∈ front ∧ front.Nodup

theorem firstRepeated_eq_some_iff {seen names : List String} {name : String} :
    firstRepeated seen names = some name ↔ ∃ front back, names = front ++ name :: back ∧
      (name ∈ seen ∨ name ∈ front) ∧ front.Nodup ∧ ∀ n ∈ front, n ∉ seen := by
  induction names generalizing seen with
  | nil => simp [firstRepeated]
  | cons n names ih =>
    rw [firstRepeated]
    split
    · -- The first name is the one, and nothing may stand in front of it.
      next hseen =>
      constructor
      · rintro h
        obtain rfl := Option.some.inj h
        exact ⟨[], names, rfl, .inl hseen, .nil, by simp⟩
      · rintro ⟨_ | ⟨m, front⟩, back, hnames, -, -, hfront⟩
        · rw [(List.cons.inj hnames).1]
        · rw [(List.cons.inj hnames).1] at hseen
          exact absurd hseen (hfront m List.mem_cons_self)
    · -- The first name is seen from now on; it goes in front of whatever stood there.
      next hseen =>
      rw [ih]
      constructor
      · rintro ⟨front, back, rfl, hname, hnodup, hfront⟩
        simp only [List.mem_cons, not_or] at hname hfront
        refine ⟨n :: front, back, rfl, ?_, ?_, ?_⟩
        · rw [List.mem_cons]
          tauto
        · exact List.nodup_cons.2 ⟨fun hn => (hfront n hn).1 rfl, hnodup⟩
        · exact List.forall_mem_cons.2 ⟨hseen, fun m hm => (hfront m hm).2⟩
      · rintro ⟨_ | ⟨m, front⟩, back, hnames, hname, hnodup, hfront⟩
        · obtain ⟨rfl, -⟩ := List.cons.inj hnames
          simp [hseen] at hname
        · obtain ⟨rfl, rfl⟩ := List.cons.inj hnames
          obtain ⟨hn, hnodup⟩ := List.nodup_cons.1 hnodup
          refine ⟨front, back, rfl, ?_, hnodup, fun m hm => ?_⟩
          · rw [List.mem_cons] at hname ⊢
            tauto
          · rw [List.mem_cons, not_or]
            exact ⟨fun e => hn (e ▸ hm), hfront m (List.mem_cons_of_mem n hm)⟩

theorem firstRepeated_nil_eq_some_iff {names : List String} {name : String} :
    firstRepeated [] names = some name ↔ IsFirstRepeated names name := by
  rw [firstRepeated_eq_some_iff]
  simp [IsFirstRepeated]

/-! ## What settings ask for -/

/-- The names of the rules that settings can leave out. -/
def builtinNames : List String := builtinSources.map RuleSource.name

/-- Its expression is well-formed for the reader. -/
def CustomRule.IsReadable (read : RegexReader) (c : CustomRule) : Prop := (read c.regex).isOk = true

instance (read : RegexReader) (c : CustomRule) : Decidable (c.IsReadable read) :=
  inferInstanceAs (Decidable (_ = true))

/-- The rule without its compiled expression. -/
def Rule.written (r : Rule) : RuleSource := ⟨r.name, r.source, r.description, r.remediation⟩

namespace RuleSettings

variable (settings : RuleSettings)

def enabled : List CustomRule := settings.custom.filter (·.enabled)

/-- Only built-in rules are left out, and the expressions of the custom rules are well-formed. -/
structure IsSound (read : RegexReader) : Prop where
  known : ∀ name ∈ settings.disabled, name ∈ builtinNames
  readable : ∀ c ∈ settings.enabled, c.IsReadable read

/-- What comes of settings: the first thing that is wrong, or else all that is asked for. -/
inductive Yields (read : RegexReader) : Except RuleError RuleSet → Prop
  | unknownDisabled {name : String} (h : IsFirst (· ∉ builtinNames) settings.disabled name) :
    Yields read (.error (.unknownDisabled name))
  | invalidRegex {c : CustomRule} {cause : String}
    (hknown : ∀ name ∈ settings.disabled, name ∈ builtinNames)
    (h : IsFirst (¬ ·.IsReadable read) settings.enabled c) (hcause : read c.regex = .error cause) :
    Yields read (.error (.invalidRegex c.name cause))
  | empty (hsound : settings.IsSound read) (h : settings.active = []) : Yields read (.error .empty)
  | duplicateName (hsound : settings.IsSound read) {name : String}
    (h : IsFirstRepeated (settings.active.map RuleSource.name) name) :
    Yields read (.error (.duplicateName name))
  | rules (hsound : settings.IsSound read) {set : RuleSet} (hne : settings.active ≠ [])
    (hnodup : (settings.active.map RuleSource.name).Nodup)
    (hwritten : set.rules.map Rule.written = settings.active)
    (hregex : ∀ r ∈ set.rules, read r.source = .ok r.regex) : Yields read (.ok set)

end RuleSettings

/-! ## The stages -/

section

variable {read : RegexReader}

theorem RuleSource.read_eq_ok_iff_written {s : RuleSource} {r : Rule} :
    s.read read = .ok r ↔ s = r.written ∧ read r.source = .ok r.regex := by
  rw [read_eq_ok_iff]
  constructor
  · rintro ⟨regex, hregex, rfl⟩
    exact ⟨rfl, hregex⟩
  · rintro ⟨rfl, hregex⟩
    exact ⟨r.regex, hregex, rfl⟩

theorem forall₂_read_iff {sources : List RuleSource} {rules : List Rule} :
    List.Forall₂ (fun s r => s.read read = .ok r) sources rules ↔
      rules.map Rule.written = sources ∧ ∀ r ∈ rules, read r.source = .ok r.regex := by
  simp only [RuleSource.read_eq_ok_iff_written]
  constructor
  · intro h
    induction h with
    | nil => exact ⟨rfl, by simp⟩
    | cons hread _ ih =>
      rw [List.map_cons, ih.1, ← hread.1]
      exact ⟨rfl, List.forall_mem_cons.2 ⟨hread.2, ih.2⟩⟩
  · rintro ⟨rfl, hregex⟩
    rw [List.forall₂_map_left_iff, List.forall₂_same]
    exact fun r hr => ⟨rfl, hregex r hr⟩

theorem map_name_written (rules : List Rule) :
    (rules.map Rule.written).map RuleSource.name = rules.map Rule.name :=
  List.map_map

theorem CustomRule.read_of_readable {c : CustomRule} (h : c.IsReadable read) :
    ∃ rule, c.source.read read = .ok rule := by
  obtain ⟨regex, hregex⟩ := exists_of_isOk h
  exact ⟨_, RuleSource.read_eq_ok_iff.2 ⟨regex, hregex, rfl⟩⟩

theorem CustomRule.exists_cause {c : CustomRule} (h : ¬ c.IsReadable read) :
    ∃ cause, read c.regex = .error cause := by
  unfold IsReadable at h
  cases hread : read c.regex with
  | error cause => exact ⟨cause, rfl⟩
  | ok regex => simp [hread, Except.isOk, Except.toBool] at h

theorem CustomRule.read_of_cause {c : CustomRule} {cause : String}
    (h : read c.regex = .error cause) : c.source.read read = .error (.invalidRegex c.name cause) := by
  simp only [RuleSource.read, Rule.make, source, h]

namespace RuleSet

theorem isNone_find?_builtin {b : RuleSet} (h : builtin read = .ok b) (name : String) :
    (b.find? name).isNone = decide (name ∉ builtinNames) := by
  have hnames : b.rules.map Rule.name = builtinNames := by
    rw [← map_name_written, (forall₂_read_iff.1 (rules_of_builtin h)).1, builtinNames]
  rw [← hnames, Bool.eq_iff_iff, decide_eq_true_eq, Option.isNone_iff_eq_none, find?,
    List.find?_eq_none, List.mem_map]
  simp

theorem ofList_of_repeated {rules : List Rule} {name : String}
    (h : IsFirstRepeated (rules.map Rule.name) name) : ofList rules = .error (.duplicateName name) := by
  have hsome := firstRepeated_nil_eq_some_iff.2 h
  have hne : rules ≠ [] := by
    rintro rfl
    cases hsome
  unfold ofList
  rw [dif_neg hne]
  split
  · next h' => rw [Option.some.inj (h'.symm.trans hsome)]
  · next h' => rw [hsome] at h'; cases h'

section

variable {settings : RuleSettings}

section

variable (hread : read.ReadsBuiltin)
include hread

theorem ofSettings_of_unknown {name : String}
    (h : IsFirst (· ∉ builtinNames) settings.disabled name) :
    ofSettings settings read = .error (.unknownDisabled name) := by
  obtain ⟨b, hb⟩ := exists_builtin hread
  have hfind := find?_eq_some_iff_isFirst.2 h
  simp only [ofSettings, hb, isNone_find?_builtin hb, bind, Except.bind, hfind]
  rfl

/-- Where all that is left out is known, the custom rules are read and put behind what is kept. -/
theorem ofSettings_of_known (h : ∀ name ∈ settings.disabled, name ∈ builtinNames) :
    ∃ b, builtin read = .ok b ∧ ofSettings settings read =
      (settings.enabled.mapM fun c => c.source.read read) >>= fun custom =>
        ofList (b.rules.filter (fun r => !settings.disabled.contains r.name) ++ custom) := by
  obtain ⟨b, hb⟩ := exists_builtin hread
  have hfind : settings.disabled.find? (fun name => decide (name ∉ builtinNames)) = none := by
    simpa using h
  refine ⟨b, hb, ?_⟩
  simp only [ofSettings, hb, isNone_find?_builtin hb, bind, Except.bind, hfind]
  rfl

theorem ofSettings_of_invalid {c : CustomRule} {cause : String}
    (hknown : ∀ name ∈ settings.disabled, name ∈ builtinNames)
    (h : IsFirst (¬ ·.IsReadable read) settings.enabled c) (hcause : read c.regex = .error cause) :
    ofSettings settings read = .error (.invalidRegex c.name cause) := by
  obtain ⟨b, -, hsettings⟩ := ofSettings_of_known hread hknown
  obtain ⟨front, back, henabled, -, hfront⟩ := h
  have hrules : ∀ y ∈ front, ∃ rule, y.source.read read = .ok rule := fun y hy =>
    CustomRule.read_of_readable (not_not.1 (hfront y hy))
  rw [hsettings, henabled, mapM_append_cons_error hrules (CustomRule.read_of_cause hcause)]
  rfl

/-- The rules that sound settings ask for are made into a set. -/
theorem ofSettings_of_isSound (h : settings.IsSound read) :
    ∃ rules, ofSettings settings read = ofList rules ∧
      rules.map Rule.written = settings.active ∧ ∀ r ∈ rules, read r.source = .ok r.regex := by
  obtain ⟨b, hb, hsettings⟩ := ofSettings_of_known hread h.known
  obtain ⟨custom, hcustom⟩ := exists_mapM_eq_ok fun c hc =>
    CustomRule.read_of_readable (h.readable c hc)
  rw [hcustom] at hsettings
  exact ⟨_, hsettings, forall₂_read_iff.1 (forall₂_active hb hcustom)⟩

theorem ofSettings_of_yields {outcome : Except RuleError RuleSet}
    (h : settings.Yields read outcome) : ofSettings settings read = outcome := by
  cases h with
  | unknownDisabled h => exact ofSettings_of_unknown hread h
  | invalidRegex hknown h hcause => exact ofSettings_of_invalid hread hknown h hcause
  | empty hsound h =>
    obtain ⟨rules, hrules, hwritten, -⟩ := ofSettings_of_isSound hread hsound
    rw [hrules, List.map_eq_nil_iff.1 (hwritten.trans h)]
    rfl
  | duplicateName hsound h =>
    obtain ⟨rules, hrules, hwritten, -⟩ := ofSettings_of_isSound hread hsound
    rw [← hwritten, map_name_written] at h
    rw [hrules, ofList_of_repeated h]
  | @rules hsound set hne hnodup hwritten hregex =>
    obtain ⟨rules, hrules, hreads⟩ := ofSettings_of_isSound hread hsound
    have hsame : rules = set.rules :=
      List.right_unique_forall₂' (fun _ _ _ hr hr' => Except.ok.inj (hr.symm.trans hr'))
        (forall₂_read_iff.2 hreads) (forall₂_read_iff.2 ⟨hwritten, hregex⟩)
    rw [hrules, hsame, ofList_rules]

variable (settings)

theorem exists_yields : ∃ outcome, settings.Yields read outcome := by
  obtain ⟨name, hname⟩ | hknown := isFirst_or_forall (· ∉ builtinNames) settings.disabled
  · exact ⟨_, .unknownDisabled hname⟩
  have hknown : ∀ name ∈ settings.disabled, name ∈ builtinNames := fun name hname =>
    not_not.1 (hknown name hname)
  obtain ⟨c, hc⟩ | hreadable := isFirst_or_forall (¬ ·.IsReadable read) settings.enabled
  · obtain ⟨cause, hcause⟩ := CustomRule.exists_cause hc.holds
    exact ⟨_, .invalidRegex hknown hc hcause⟩
  have hsound : settings.IsSound read := ⟨hknown, fun c hc => not_not.1 (hreadable c hc)⟩
  by_cases hne : settings.active = []
  · exact ⟨_, .empty hsound hne⟩
  cases hrepeated : firstRepeated [] (settings.active.map RuleSource.name) with
  | some name => exact ⟨_, .duplicateName hsound (firstRepeated_nil_eq_some_iff.1 hrepeated)⟩
  | none =>
    have hnodup := ((firstRepeated_eq_none_iff _ _).1 hrepeated).1
    obtain ⟨rules, -, hwritten, hregex⟩ := ofSettings_of_isSound hread hsound
    have hne' : rules ≠ [] := by
      rintro rfl
      exact hne hwritten.symm
    have hnodup' : (rules.map Rule.name).Nodup := by
      rwa [← map_name_written, hwritten]
    have hset : settings.Yields read (.ok ⟨rules, hne', hnodup'⟩) :=
      .rules hsound hne hnodup hwritten hregex
    exact ⟨_, hset⟩

theorem ofSettings_eq_iff {outcome : Except RuleError RuleSet} :
    ofSettings settings read = outcome ↔ settings.Yields read outcome := by
  refine ⟨fun h => ?_, ofSettings_of_yields hread⟩
  obtain ⟨other, hother⟩ := exists_yields settings hread
  rwa [← h, ofSettings_of_yields hread hother]

/-! ## Settings that make up a set -/

variable {settings}

theorem exists_ofSettings_iff : (∃ set, ofSettings settings read = .ok set) ↔
    settings.IsSound read ∧ settings.active ≠ [] ∧
      (settings.active.map RuleSource.name).Nodup := by
  constructor
  · rintro ⟨set, hset⟩
    cases (ofSettings_eq_iff settings hread).1 hset with
    | rules hsound hne hnodup => exact ⟨hsound, hne, hnodup⟩
  · rintro ⟨hsound, hne, hnodup⟩
    obtain ⟨outcome, houtcome⟩ := exists_yields settings hread
    cases houtcome with
    | unknownDisabled h =>
      obtain ⟨front, back, hdisabled, hname, -⟩ := h
      exact absurd (hsound.known _ (by simp [hdisabled])) hname
    | invalidRegex _ h =>
      obtain ⟨front, back, henabled, hc, -⟩ := h
      exact absurd (hsound.readable _ (by simp [henabled])) hc
    | empty _ h => exact absurd h hne
    | duplicateName _ h =>
      obtain ⟨front, back, hnames, hname, -⟩ := h
      rw [hnames, List.nodup_append] at hnodup
      exact absurd rfl (hnodup.2.2 _ hname _ List.mem_cons_self)
    | rules hsound hne hnodup hwritten hregex =>
      exact ⟨_, ofSettings_of_yields hread (.rules hsound hne hnodup hwritten hregex)⟩

end

theorem mem_name_kept {name : String} :
    name ∈ (builtinSources.filter fun s => !settings.disabled.contains s.name).map RuleSource.name ↔
      name ∈ builtinNames ∧ name ∉ settings.disabled := by
  simp only [List.mem_map, List.mem_filter, Bool.not_eq_true', List.contains_eq_mem,
    decide_eq_false_iff_not, builtinNames]
  constructor
  · rintro ⟨s, ⟨hs, hkept⟩, rfl⟩
    exact ⟨⟨s, hs, rfl⟩, hkept⟩
  · rintro ⟨⟨s, hs, rfl⟩, hkept⟩
    exact ⟨s, ⟨hs, hkept⟩, rfl⟩

theorem mem_name_active {name : String} : name ∈ settings.active.map RuleSource.name ↔
    (name ∈ builtinNames ∧ name ∉ settings.disabled) ∨ ∃ c ∈ settings.enabled, c.name = name := by
  have hcustom : name ∈ (settings.enabled.map CustomRule.written).map RuleSource.name ↔
      ∃ c ∈ settings.enabled, c.name = name := by
    simp only [List.mem_map, exists_exists_and_eq_and]
    rfl
  rw [RuleSettings.active, List.map_append, List.mem_append, mem_name_kept]
  exact or_congr_right hcustom

end

end RuleSet

end

/-! ## Settings with one custom rule more -/

section

variable {read : RegexReader}

namespace RuleSettings

variable (settings : RuleSettings) (c : CustomRule)

def withRule : RuleSettings := { settings with custom := settings.custom ++ [c] }

variable {settings c}

theorem enabled_withRule (h : c.enabled = true) :
    (settings.withRule c).enabled = settings.enabled ++ [c] := by
  simp [enabled, withRule, h]

theorem active_withRule (h : c.enabled = true) :
    (settings.withRule c).active = settings.active ++ [c.written] := by
  simp [active, withRule, h]

theorem isSound_withRule (h : settings.IsSound read) (henabled : c.enabled = true)
    (hreadable : c.IsReadable read) : (settings.withRule c).IsSound read where
  known := h.known
  readable := by
    rw [enabled_withRule henabled, List.forall_mem_append, List.forall_mem_singleton]
    exact ⟨h.readable, hreadable⟩

end RuleSettings

namespace RuleSet

theorem exists_ofSettings_withRule_iff (hread : read.ReadsBuiltin) {settings : RuleSettings}
    {set : RuleSet} (hset : ofSettings settings read = .ok set) {c : CustomRule}
    (henabled : c.enabled = true) (hreadable : c.IsReadable read) :
    (∃ set', ofSettings (settings.withRule c) read = .ok set') ↔
      c.name ∉ settings.active.map RuleSource.name := by
  obtain ⟨hsound, hne, hnodup⟩ := (exists_ofSettings_iff hread).1 ⟨set, hset⟩
  have hsound' := RuleSettings.isSound_withRule hsound henabled hreadable
  rw [exists_ofSettings_iff hread, and_iff_right hsound', RuleSettings.active_withRule henabled,
    List.map_append, List.map_singleton, List.nodup_append_comm, List.singleton_append,
    List.nodup_cons, and_iff_left hnodup]
  exact and_iff_right (by simp)

/-- What comes of settings is the first thing that is wrong, or else all that they ask for. Custom
rules that are not enabled do not count; and one that is enabled may have the name of a built-in rule
just if that one is left out. This holds for all readers of expressions that take the built-in ones. -/
theorem settings_yield (hread : read.ReadsBuiltin) (settings : RuleSettings) :
    (∀ outcome, ofSettings settings read = outcome ↔ settings.Yields read outcome) ∧
      ofSettings { settings with custom := settings.enabled } read = ofSettings settings read ∧
      (∀ c ∈ settings.enabled, c.name ∈ builtinNames → c.name ∉ settings.disabled →
        ∀ set, ofSettings settings read ≠ .ok set) ∧
      ∀ set, ofSettings settings read = .ok set → ∀ c : CustomRule, c.enabled = true →
        c.IsReadable read → (∀ other ∈ settings.enabled, other.name ≠ c.name) →
          ((∃ set', ofSettings (settings.withRule c) read = .ok set') ↔
            (c.name ∈ builtinNames → c.name ∈ settings.disabled)) := by
  refine ⟨fun outcome => ofSettings_eq_iff settings hread, ?_, ?_, ?_⟩
  · simp only [ofSettings, RuleSettings.enabled, List.filter_filter, Bool.and_self]
  · intro c hc hname hkept set hset
    obtain ⟨-, -, hnodup⟩ := (exists_ofSettings_iff hread).1 ⟨set, hset⟩
    rw [RuleSettings.active, List.map_append, List.nodup_append] at hnodup
    have hcustom : c.name ∈ (settings.enabled.map CustomRule.written).map RuleSource.name :=
      List.mem_map_of_mem (f := RuleSource.name) (List.mem_map_of_mem (f := CustomRule.written) hc)
    exact hnodup.2.2 _ (mem_name_kept.2 ⟨hname, hkept⟩) _ hcustom rfl
  · intro set hset c henabled hreadable hother
    rw [exists_ofSettings_withRule_iff hread hset henabled hreadable, mem_name_active, not_or,
      not_and, not_not]
    refine and_iff_left ?_
    rintro ⟨other, hmem, hname⟩
    exact hother other hmem hname

/-- Gives the name of a rule that is left out to another one. -/
def takenOver : RuleSettings where
  disabled := ["python_pow"]
  custom := [{ name := "python_pow", regex := "pi" }]

/-- Where Unicode is off, a part of a set goes beyond ASCII. -/
def beyondAscii : CustomRule where
  name := "w"
  regex := "(?-u:[\\W&&a])"

theorem settings_yield_takenOver :
    RegexReader.ReadsBuiltin Regex.read ∧
    (∃ set, ofSettings takenOver = .ok set ∧ set.rules.map Rule.written =
      builtinSources.tail ++ [⟨"python_pow", "pi", "User-defined pattern", ""⟩]) ∧
    ∃ cause, ofSettings (takenOver.withRule beyondAscii) = .error (.invalidRegex "w" cause) := by
  refine ⟨Regex.readsBuiltin_read, ?_, ?_⟩
  · obtain ⟨set, hset⟩ := exists_of_isOk (r := ofSettings takenOver) (by decide +kernel)
    refine ⟨set, hset, ?_⟩
    cases ((settings_yield Regex.readsBuiltin_read takenOver).1 _).1 hset with
    | rules _ _ _ hwritten _ =>
      rw [hwritten]
      rfl
  · have hnot : ¬ beyondAscii.IsReadable Regex.read := by decide +kernel
    obtain ⟨cause, hcause⟩ := CustomRule.exists_cause hnot
    have hfirst : IsFirst (¬ ·.IsReadable Regex.read) (takenOver.withRule beyondAscii).enabled
        beyondAscii :=
      ⟨takenOver.custom, [], rfl, hnot, by decide +kernel⟩
    exact ⟨cause, ((settings_yield Regex.readsBuiltin_read _).1 _).2
      (.invalidRegex (by decide) hfirst hcause)⟩

end RuleSet

end

end ConstantScan
