import ConstantScan.Proofs.Priority
import ConstantScan.Proofs.ReadBack

/-!
# Loading a configuration again

A dictionary that shows a loaded configuration, laid under the variables it was loaded with, reads as
that configuration: where the variables speak they say the same again, and elsewhere the dictionary
says what was read.
-/

namespace ConstantScan

open Read

/-! ## Fields that no dictionary sets -/

namespace RecordField

variable {σ : Type}

/-- No dictionary sets the field. -/
def Plain (f : RecordField σ) : Prop := ∀ es x, f.read (.dict es) ≠ .ok x

/-- What an upper dictionary made of a field it makes of it again over another lower one, if that
one says the same about the field or the upper one speaks for itself. -/
theorem Reads.relay {f : RecordField σ} {start r : σ} {lower lower' upper : Dict}
    (hupper : (upper.map Prod.fst).Nodup)
    (h : f.Reads start (Dict.mergeEntries lower upper) r) (h' : f.Reads start lower' r)
    (hdict : ∀ es, Dict.get? f.name upper = some (.dict es) →
      f.Reads start (Dict.mergeEntries lower' upper) r) :
    f.Reads start (Dict.mergeEntries lower' upper) r := by
  cases hv : Dict.get? f.name upper with
  | none =>
    rw [Reads, Dict.get?_mergeEntries _ hupper, hv]
    exact h'
  | some v =>
    cases hleaf : v.isDict with
    | true =>
      obtain ⟨es, rfl⟩ : ∃ es, v = .dict es := by
        cases v <;> simp [Value.isDict] at hleaf ⊢
      exact hdict es hv
    | false =>
      simp only [Reads, Dict.get?_mergeEntries _ hupper, hv,
        Value.merge_of_not_isDict _ hleaf] at h ⊢
      exact h

theorem Plain.not_dict {f : RecordField σ} (hf : f.Plain) {start r : σ} {lower upper : Dict}
    (hupper : (upper.map Prod.fst).Nodup)
    (h : f.Reads start (Dict.mergeEntries lower upper) r) (es : Dict) :
    Dict.get? f.name upper ≠ some (.dict es) := by
  intro hv
  simp only [Reads, Dict.get?_mergeEntries _ hupper, hv, Value.merge_dict] at h
  exact hf _ _ h

/-- What lies below a dictionary that shows a record does not show. -/
theorem Shown.mergeEntries {fs : List (RecordField σ)} {es : Dict} {r : σ} (h : Shown fs es r)
    (hes : (es.map Prod.fst).Nodup) (lower : Dict) : Shown fs (Dict.mergeEntries lower es) r := by
  intro f hf
  obtain ⟨v, hv, hleaf, hread⟩ := h f hf
  refine ⟨v, ?_, hleaf, hread⟩
  simp only [Dict.get?_mergeEntries _ hes, hv, Value.merge_of_not_isDict _ hleaf]

end RecordField

theorem Read.plain_list {α σ : Type} (name : String) (read : Read α) (get : σ → List α)
    (set : σ → List α → σ) : RecordField.Plain ⟨name, list read, get, set⟩ := by
  simp [RecordField.Plain, list, fail]

theorem Read.plain_bool {σ : Type} (name : String) (get : σ → Bool) (set : σ → Bool → σ) :
    RecordField.Plain ⟨name, bool, get, set⟩ := by
  simp [RecordField.Plain, bool, fail]

theorem Read.plain_whole {σ : Type} (name kind : String) (top : Nat) (get : σ → Nat)
    (set : σ → Nat → σ) : RecordField.Plain ⟨name, whole kind top, get, set⟩ := by
  simp [RecordField.Plain, whole, fail]

/-- Of the settings of the scanner only the mode can be set by a dictionary. -/
theorem ScanSettings.plain_or_mode (s : Strictness) :
    ∀ f ∈ recordFields s, f.Plain ∨ f.name = "mode" := by
  simp only [recordFields, List.forall_mem_cons]
  exact ⟨.inl (plain_list _ _ _ _), .inl (plain_list _ _ _ _), .inl (plain_list _ _ _ _),
    .inl (plain_bool _ _ _), .inl (plain_bool _ _ _), .inl (plain_bool _ _ _),
    .inl (plain_whole _ _ _ _ _), .inr trivial, .inl (plain_whole _ _ _ _ _),
    .inl (plain_whole _ _ _ _ _), .inl (plain_whole _ _ _ _ _), by simp⟩

theorem RuleSettings.plain (s : Strictness) : ∀ f ∈ recordFields s, f.Plain := by
  simp only [recordFields, List.forall_mem_cons]
  exact ⟨plain_list _ _ _ _, plain_list _ _ _ _, by simp⟩

/-! ## Whole records -/

namespace RecordField

theorem Shown.relay {σ : Type} {fs : List (RecordField σ)} {shown lower upper : Dict}
    {start r : σ} (hshown : Shown fs shown r) (hupper : (upper.map Prod.fst).Nodup)
    (h : ∀ f ∈ fs, f.Reads start (Dict.mergeEntries lower upper) r)
    (hfields : ∀ f ∈ fs, f.Plain ∨ ∀ es, Dict.get? f.name upper ≠ some (.dict es)) :
    ∀ f ∈ fs, f.Reads start (Dict.mergeEntries shown upper) r := by
  intro f hf
  refine (h f hf).relay hupper (hshown.reads start f hf) fun es hes => ?_
  rcases hfields f hf with hplain | hleaf
  · exact absurd hes (hplain.not_dict hupper (h f hf) es)
  · exact absurd hes (hleaf es)

theorem reads_mergeEntries_dict {σ : Type} (f : RecordField σ) {lower upper es : Dict}
    (hupper : (upper.map Prod.fst).Nodup) (hes : Dict.get? f.name upper = some (.dict es))
    (start r : σ) :
    f.Reads start (Dict.mergeEntries lower upper) r ↔
      f.read (.dict (Dict.mergeEntries ((Dict.get? f.name lower).getD .null).entries es)) =
        .ok (f.get r) := by
  simp only [Reads, Dict.get?_mergeEntries _ hupper, hes, Value.merge_dict]

end RecordField

theorem Value.Tidy.entries_getD_null {d : Dict} (h : (Value.dict d).Tidy) (key : String) :
    (Value.dict ((Dict.get? key d).getD .null).entries).Tidy := by
  have hvalue : ((Dict.get? key d).getD .null).Tidy := Tidy.getD_null fun w hw => h.of_get? hw
  exact .dict hvalue.ascending fun e he => hvalue.of_mem he

namespace Config

/-- A dictionary sets the mode of the scanner. -/
def SetsModeByDict (d : Dict) : Prop :=
  ∃ es, (Value.dict d).at? ["scanner", "mode"] = some (.dict es)

theorem ascending_mergeEntries_get? {d : Dict} (h : (Value.dict d).Tidy) (key : String)
    (es : Dict) : (Dict.mergeEntries ((Dict.get? key d).getD .null).entries es).Ascending :=
  (Dict.tidy_mergeEntries (h.entries_getD_null key) es).ascending

/-- What lies below a dictionary that shows a configuration does not show, if it names no base
directory. -/
theorem ShownBy.mergeEntries {s : Strictness} {c : Config} {d : Dict} (h : c.ShownBy s d)
    {lower : Dict} (hlower : (Value.dict lower).Tidy) (hdir : Dict.get? "base_dir" lower = none) :
    c.ShownBy s (Dict.mergeEntries lower d) := by
  have hget := Dict.get?_mergeEntries lower h.ascending.nodup
  have hdict {key : String} {es : Dict} (hes : Dict.get? key d = some (.dict es)) :
      Dict.get? key (Dict.mergeEntries lower d) =
        some (.dict (Dict.mergeEntries ((Dict.get? key lower).getD .null).entries es)) := by
    simp only [hget, hes, Value.merge_dict]
  obtain ⟨tv, htargets, hleaf, htv⟩ := h.targets
  obtain ⟨se, hscanner, hse, hsettings⟩ := h.scanner
  obtain ⟨pe, hpatterns, hpe, hrules⟩ := h.patterns
  refine ⟨(Dict.tidy_mergeEntries hlower d).ascending, ?_, ⟨tv, ?_, hleaf, htv⟩,
    ⟨_, hdict hscanner, ascending_mergeEntries_get? hlower _ _,
      hsettings.mergeEntries hse.nodup _⟩,
    ⟨_, hdict hpatterns, ascending_mergeEntries_get? hlower _ _,
      hrules.mergeEntries hpe.nodup _⟩⟩
  · rw [hget, h.baseDir]
    cases c.baseDir with
    | none => exact hdir
    | some dir => exact congrArg some (Value.merge_of_not_isDict _ rfl)
  · simp only [hget, htargets, Value.merge_of_not_isDict _ hleaf]

theorem ShownBy.relay {s : Strictness} {c : Config} {shown lower upper : Dict}
    (hshown : c.ShownBy s shown) (htidy : (Value.dict shown).Tidy)
    (hlower : (Value.dict lower).Tidy) (hupper : (Value.dict upper).Tidy)
    (hmode : ¬ SetsModeByDict upper)
    (h : Config.read s (.dict (Dict.mergeEntries lower upper)) = .ok c) :
    Config.read s (.dict (Dict.mergeEntries shown upper)) = .ok c := by
  have hnodup := hupper.ascending_entries.nodup
  rw [read_dict_eq_ok_iff s (Dict.tidy_mergeEntries hlower upper).ascending_entries] at h
  rw [read_dict_eq_ok_iff s (Dict.tidy_mergeEntries htidy upper).ascending_entries]
  -- A field keeps its value as it is, unless the upper layer merges a dictionary into it.
  have hrelay (f : RecordField Config) (hf : f ∈ recordFields s)
      (hdict : ∀ es, Dict.get? f.name upper = some (.dict es) →
        f.read (.dict (Dict.mergeEntries ((Dict.get? f.name lower).getD .null).entries es)) =
            .ok (f.get c) →
        f.read (.dict (Dict.mergeEntries ((Dict.get? f.name shown).getD .null).entries es)) =
            .ok (f.get c)) :
      f.Reads {} (Dict.mergeEntries shown upper) c := by
    refine (h f hf).relay hnodup (hshown.reads f hf) fun es hes => ?_
    rw [f.reads_mergeEntries_dict hnodup hes]
    exact hdict es hes ((f.reads_mergeEntries_dict hnodup hes {} c).1 (h f hf))
  obtain ⟨se, hscanner, hse, hsettings⟩ := hshown.scanner
  obtain ⟨pe, hpatterns, hpe, hrules⟩ := hshown.patterns
  simp only [recordFields, List.forall_mem_cons] at hrelay ⊢
  refine ⟨hrelay.1 ?_, hrelay.2.1 ?_, hrelay.2.2.1 ?_, hrelay.2.2.2.1 ?_, by simp⟩
  · simp [Read.optional, string, fail, Except.map]
  · simp [list, fail]
  · intro es hes hread
    rw [ScanSettings.read_dict_eq_ok_iff s (ascending_mergeEntries_get? hlower _ es)] at hread
    rw [ScanSettings.read_dict_eq_ok_iff s (ascending_mergeEntries_get? htidy _ es), hscanner]
    refine hsettings.relay (hupper.of_get? hes).ascending_entries.nodup hread fun f hf => ?_
    refine (ScanSettings.plain_or_mode s f hf).imp_right fun hname es' hes' => hmode ⟨es', ?_⟩
    rw [hname] at hes'
    simp [Value.at?, hes, hes']
  · intro es hes hread
    rw [RuleSettings.read_dict_eq_ok_iff s (ascending_mergeEntries_get? hlower _ es)] at hread
    rw [RuleSettings.read_dict_eq_ok_iff s (ascending_mergeEntries_get? htidy _ es), hpatterns]
    exact hrules.relay (hupper.of_get? hes).ascending_entries.nodup hread
      fun f hf => .inl (RuleSettings.plain s f hf)

end Config

/-! ## What a load tells -/

theorem mergeLayers_append_ok (layers : List Layer) (d : Dict) :
    mergeLayers (layers ++ [.ok d]) = (mergeLayers layers).map (Dict.merge · d) := by
  rw [mergeLayers, List.foldl_append, ← mergeLayers]
  cases mergeLayers layers <;> rfl

theorem tidy_of_mergeLayers {layers : List Layer} {d : Dict} (h : mergeLayers layers = .ok d) :
    (Value.dict d).Tidy := by
  induction layers using List.reverseRecOn generalizing d with
  | nil => exact Except.ok.inj h ▸ Dict.tidy_nil
  | append_singleton layers layer ih =>
    rw [mergeLayers, List.foldl_append, ← mergeLayers] at h
    cases hlower : mergeLayers layers with
    | error e => cases layer <;> simp [hlower] at h
    | ok lower =>
      cases layer with
      | error e => simp [hlower] at h
      | ok upper =>
        simp only [hlower, List.foldl_cons, List.foldl_nil, Except.ok.injEq] at h
        exact h ▸ Dict.tidy_merge (ih hlower) upper

theorem Variable.tidy_layer (vars : List (String × String)) :
    (Value.dict (layer vars)).Tidy := by
  unfold layer
  refine @List.foldlRecOn _ _ (fun d => (Value.dict d).Tidy) vars _ _ Dict.tidy_nil ?_
  rintro d h ⟨name, text⟩ -
  dsimp only
  split
  · exact Dict.tidy_merge h _
  · exact h

namespace Config

/-- The variables have the last word: once more over all layers they change nothing. -/
def VariablesStand (env : Environment) (file : Option Path) (overrides : Option Value) : Prop :=
  ∀ d, merged env file overrides = .ok d → Dict.merge d (Variable.layer env.vars) = d

theorem tidy_of_merged {env : Environment} {file : Option Path} {overrides : Option Value} {d : Dict}
    (h : merged env file overrides = .ok d) : (Value.dict d).Tidy := by
  unfold merged at h
  cases hlayers : layers env file overrides with
  | error e => simp [hlayers, bind, Except.bind] at h
  | ok layers =>
    cases hmerged : mergeLayers layers with
    | error e => simp [hlayers, hmerged, bind, Except.bind, Except.mapError] at h
    | ok d' =>
      simp only [hlayers, hmerged, bind, Except.bind, Except.mapError, Except.ok.injEq] at h
      exact h ▸ tidy_of_mergeLayers hmerged

/-- Without anything that the caller asks for the variables are the highest layer. -/
theorem exists_lower_of_merged {env : Environment} {file : Option Path} {d : Dict}
    (hd : merged env file none = .ok d) :
    ∃ lower, (Value.dict lower).Tidy ∧ d = Dict.merge lower (Variable.layer env.vars) := by
  obtain ⟨below, hbelow⟩ : ∃ below : Except LoadError (List Layer),
      layers env file none = below.map (· ++ [.ok (Variable.layer env.vars)]) := by
    unfold layers
    cases file with
    | none => exact ⟨.ok (standardLayer :: standardFiles env), rfl⟩
    | some p =>
      dsimp only
      split
      · exact ⟨.ok [standardLayer, env.fileLayer (.ofPath p) p], rfl⟩
      · exact ⟨.error (.fileNotFound p), rfl⟩
  rw [merged, hbelow] at hd
  cases below with
  | error e => simp [Except.map, bind, Except.bind] at hd
  | ok below =>
    simp only [Except.map, bind, Except.bind, mergeLayers_append_ok] at hd
    cases hlower : mergeLayers below with
    | error e => simp [hlower, Except.mapError] at hd
    | ok lower =>
      simp only [hlower, Except.mapError, Except.ok.injEq] at hd
      exact ⟨lower, tidy_of_mergeLayers hlower, hd.symm⟩

/-- What was loaded is read from the variables over something. -/
theorem exists_lower_of_load {env : Environment} {file : Option Path} {overrides : Option Value}
    {c : Config} (h : load env file overrides = .ok c)
    (hstand : overrides = none ∨ VariablesStand env file overrides) :
    ∃ lower, (Value.dict lower).Tidy ∧
      Config.read .layered (.dict (Dict.merge lower (Variable.layer env.vars))) = .ok c := by
  obtain ⟨d, hd, hread, -⟩ := load_eq_ok_iff.1 h
  rcases hstand with rfl | hstand
  · obtain ⟨lower, hlower, rfl⟩ := exists_lower_of_merged hd
    exact ⟨lower, hlower, hread⟩
  · exact ⟨d, tidy_of_merged hd, by rwa [hstand d hd]⟩

/-- A dictionary that shows a loaded configuration, as the file that the caller names, loads as that
configuration under the variables that it was loaded with. -/
theorem load_of_shownBy {env env' : Environment} {file : Option Path} {overrides : Option Value}
    {c : Config} {p : Path} {d : Dict} (h : load env file overrides = .ok c)
    (hstand : overrides = none ∨ VariablesStand env file overrides) (hvars : env'.vars = env.vars)
    (hmode : ¬ SetsModeByDict (Variable.layer env.vars)) (hreaches : env'.Reaches p)
    (hd : env'.NamedSets p d) (hshown : c.ShownBy .layered d) :
    load env' (some p) none = .ok c := by
  obtain ⟨lower, hlower, hread⟩ := exists_lower_of_load h hstand
  obtain ⟨-, -, -, hvalid⟩ := load_eq_ok_iff.1 h
  have hdefaults : (Value.dict (Dict.merge [] defaults)).Tidy := Dict.tidy_merge Dict.tidy_nil _
  have hdir : Dict.get? "base_dir" (Dict.merge [] defaults) = none := by
    rw [Dict.merge, Dict.get?_mergeEntries _ (by simp [defaults])]
    simp [defaults, Dict.get?]
  rw [load_eq_ok_iff]
  refine ⟨_, merged_of_named hreaches hd .absent, ?_, hvalid⟩
  simp only [List.foldl_cons, List.foldl_nil, Dict.merge_nil, hvars]
  exact (hshown.mergeEntries hdefaults hdir).relay (Dict.tidy_merge hdefaults d) hlower
    (Variable.tidy_layer _) hmode hread

end Config

/-! ## Numbers -/

namespace Read

theorem whole_le {kind : String} {top n : Nat} {v : Value} (h : whole kind top v = .ok n) :
    n ≤ top := by
  cases v with
  | number m =>
    cases hi : m.toInt? with
    | none => simp [whole, hi, fail] at h
    | some i =>
      simp only [whole, hi] at h
      split_ifs at h with hrange hwide
      · simp only [Bool.and_eq_true, decide_eq_true_eq, Except.ok.injEq] at hrange h
        omega
      all_goals simp [fail] at h
  | null | bool | string | char | list | dict => simp [whole, fail] at h

theorem slot_eq_ok {α σ : Type} {name : String} {read : Read α} {set : σ → α → σ} {r r' : σ}
    {v : Value} (h : (slot name read set).2 r v = .ok r') : ∃ x, read v = .ok x ∧ r' = set r x := by
  simp only [slot] at h
  cases hread : read v with
  | error p => simp [hread, Except.map] at h
  | ok x =>
    simp only [hread, Except.map, Except.ok.injEq] at h
    exact ⟨x, rfl, h.symm⟩

end Read

theorem ScanSettings.fits_of_read {s : Strictness} {v : Value} {c : ScanSettings}
    (h : read s v = .ok c) : c.Fits := by
  refine record_invariant ?_ (P := Fits) ⟨by decide, by decide, by decide, by decide⟩ h
  simp only [fields, List.forall_mem_cons]
  refine ⟨?_, ?_, ?_, ?_, ?_, ?_, ?_, ?_, ?_, ?_, ?_, by simp⟩ <;> intro r v r' hr hset <;>
    obtain ⟨x, hx, rfl⟩ := slot_eq_ok hset <;> obtain ⟨hsize, hthreads, hpercentage, hfiles⟩ := hr
  case refine_7 => exact ⟨whole_le hx, hthreads, hpercentage, hfiles⟩
  case refine_9 => exact ⟨hsize, whole_le hx, hpercentage, hfiles⟩
  case refine_10 => exact ⟨hsize, hthreads, whole_le hx, hfiles⟩
  case refine_11 => exact ⟨hsize, hthreads, hpercentage, whole_le hx⟩
  all_goals exact ⟨hsize, hthreads, hpercentage, hfiles⟩

theorem Config.fits_of_read {s : Strictness} {v : Value} {c : Config} (h : read s v = .ok c) :
    c.scanner.Fits := by
  refine record_invariant ?_ (P := fun c => c.scanner.Fits)
    ⟨by decide, by decide, by decide, by decide⟩ h
  simp only [fields, List.forall_mem_cons]
  refine ⟨?_, ?_, ?_, ?_, by simp⟩ <;> intro r v r' hr hset <;>
    obtain ⟨x, hx, rfl⟩ := slot_eq_ok hset
  case refine_3 => exact ScanSettings.fits_of_read hx
  all_goals exact hr

end ConstantScan
