import ConstantScan.Cli.Invocation
import ConstantScan.Proofs.Reload
import ConstantScan.Proofs.Stages
import Mathlib

/-!
# What flags change in a configuration

The flags of a scan are a layer over all others. Laid over a configuration that can be read on its
own, they set what they give and leave everything else as it is, beside it in the same dictionary
too.
-/

namespace ConstantScan

/-! ## Entries that may be there -/

namespace Dict

theorem get?_append (key : String) (d e : Dict) :
    get? key (d ++ e) = (get? key d).or (get? key e) := by
  induction d with
  | nil => rfl
  | cons f d ih =>
    obtain ⟨k, v⟩ := f
    simp only [List.cons_append, get?]
    split
    · rfl
    · exact ih

theorem get?_toList_map {α : Type} (key name : String) (value : α → Value) (x : Option α) :
    get? key (x.map fun a => (name, value a)).toList =
      if name = key then x.map value else none := by
  cases x <;> simp [get?]

end Dict

/-! ## Fields under an upper dictionary -/

namespace RecordField

variable {σ : Type}

/-- The dictionary sets the field of `r'`, by a value of its own, or leaves it as it is in `r`. -/
def Sets (f : RecordField σ) (upper : Dict) (r r' : σ) : Prop :=
  match Dict.get? f.name upper with
  | some v => v.isDict = false ∧ f.read v = .ok (f.get r')
  | none => f.get r' = f.get r

theorem Reads.mergeEntries {f : RecordField σ} {start r r' : σ} {lower upper : Dict}
    (hupper : (upper.map Prod.fst).Nodup) (h : f.Reads start lower r) (hsets : f.Sets upper r r') :
    f.Reads start (Dict.mergeEntries lower upper) r' := by
  unfold Sets at hsets
  unfold Reads at h ⊢
  rw [Dict.get?_mergeEntries _ hupper]
  cases hv : Dict.get? f.name upper with
  | none =>
    rw [hv] at hsets
    rwa [hsets]
  | some v =>
    rw [hv] at hsets
    simp only [Value.merge_of_not_isDict _ hsets.1]
    exact hsets.2

end RecordField

namespace Cli.ScanOptions

/-! ## What the options give -/

/-- A list that is given, or else the one that is there. -/
def listOver {α : Type} (given old : List α) : List α := if given.isEmpty then old else given

def settingsOver (o : ScanOptions) (s : ScanSettings) : ScanSettings :=
  { s with
    mode := o.mode.getD s.mode
    extensions := listOver o.extensions s.extensions
    excludeDirs := listOver o.excludeDirs s.excludeDirs
    ignorePaths := listOver o.ignorePaths s.ignorePaths
    maxThreads := o.maxThreads.getD s.maxThreads }

def targetEntry (workDir path : Path) : TargetEntry :=
  { label := some path.toString, path := (workDir.join path).toString }

/-- The configuration with what the options give in place of what it says. -/
def applyTo (o : ScanOptions) (workDir : Path) (c : Config) : Config :=
  { c with
    scanner := o.settingsOver c.scanner
    targets := listOver (o.paths.map (targetEntry workDir)) c.targets }

/-- The layer that the options are. -/
def entries (o : ScanOptions) (workDir : Path) : Dict :=
  (if o.settingsEntries.isEmpty then [] else [("scanner", .dict o.settingsEntries)]) ++
    if o.paths.isEmpty then [] else [("targets", .list (o.paths.map (targetValue workDir)))]

variable (o : ScanOptions) (workDir : Path)

theorem overridesSet : OverridesSet (o.overrides workDir) (o.entries workDir) := by
  have hoverrides : o.overrides workDir =
    if (o.entries workDir).isEmpty then none else some (.dict (o.entries workDir)) := rfl
  rw [hoverrides]
  split
  · next hnil =>
    rw [List.isEmpty_iff.1 hnil]
    exact .absent
  · exact .dict _

/-! ## Settings -/

theorem get?_namesEntry (key name : String) (names : List String) :
    Dict.get? key (namesEntry name names) =
      if name = key then if names.isEmpty then none else some (.strings names) else none := by
  unfold namesEntry
  split <;> simp [Dict.get?]

theorem nodup_settingsEntries : (o.settingsEntries.map Prod.fst).Nodup := by
  have hnames (key : String) (names : List String) :
      ((namesEntry key names).map Prod.fst).Sublist [key] := by
    unfold namesEntry
    split <;> simp
  have hone {α : Type} (key : String) (value : α → Value) (x : Option α) :
      ((x.map fun a => (key, value a)).toList.map Prod.fst).Sublist [key] := by
    cases x <;> simp
  have hkeys : (o.settingsEntries.map Prod.fst).Sublist
      (["mode"] ++ ["extensions"] ++ ["exclude_dirs"] ++ ["ignore_paths"] ++ ["max_threads"]) := by
    simp only [settingsEntries, List.map_append]
    exact ((((hone _ _ _).append (hnames _ _)).append (hnames _ _)).append (hnames _ _)).append
      (hone _ _ _)
  exact hkeys.nodup (by decide)

theorem sets_settingsEntries (hthreads : ∀ n ∈ o.maxThreads, n < UInt64.size) (s : Strictness)
    (c : ScanSettings) :
    ∀ f ∈ ScanSettings.recordFields s, f.Sets o.settingsEntries c (o.settingsOver c) := by
  have hnames (names old : List String) :
      match if names.isEmpty then none else some (Value.strings names) with
      | some v => v.isDict = false ∧ Read.list .string v = .ok (listOver names old)
      | none => listOver names old = old := by
    cases hempty : names.isEmpty with
    | true => simp [listOver, hempty]
    | false =>
      simp only [Bool.false_eq_true, if_false, listOver, hempty]
      exact ⟨rfl, Read.list_map_eq_ok fun _ _ => rfl⟩
  have hmode : match o.mode.map fun m => Value.string m.name with
      | some v => v.isDict = false ∧ ScanMode.read s v = .ok (o.mode.getD c.mode)
      | none => o.mode.getD c.mode = c.mode := by
    cases o.mode with
    | none => rfl
    | some m => exact ⟨rfl, ScanMode.read_readBack Number.unsigned s m⟩
  have hcount : match o.maxThreads.map Value.natural with
      | some v => v.isDict = false ∧ Read.size v = .ok (o.maxThreads.getD c.maxThreads)
      | none => o.maxThreads.getD c.maxThreads = c.maxThreads := by
    cases hn : o.maxThreads with
    | none => rfl
    | some n => exact ⟨rfl, Read.whole_number _ rfl (Nat.le_sub_one_of_lt (hthreads n hn))⟩
  -- Fields that no option sets are not among the entries.
  simp only [ScanSettings.recordFields, List.forall_mem_cons, RecordField.Sets, settingsEntries,
    Dict.get?_append, get?_namesEntry, Dict.get?_toList_map, String.reduceEq, if_true, if_false,
    Option.none_or, Option.or_none, settingsOver, true_and]
  exact ⟨hnames _ _, hnames _ _, hnames _ _, hmode, hcount, by simp⟩

/-- The settings are read with what the options give, whatever else the dictionary holds. -/
theorem read_settingsEntries (hthreads : ∀ n ∈ o.maxThreads, n < UInt64.size) {s : Strictness}
    {settings : Dict} (htidy : (Value.dict settings).Tidy) {c : ScanSettings}
    (h : ScanSettings.read s (.dict settings) = .ok c) :
    ScanSettings.read s (.dict (Dict.mergeEntries settings o.settingsEntries)) =
      .ok (o.settingsOver c) := by
  rw [ScanSettings.read_dict_eq_ok_iff s htidy.ascending_entries] at h
  rw [ScanSettings.read_dict_eq_ok_iff s
    (Dict.tidy_mergeEntries htidy o.settingsEntries).ascending_entries]
  exact fun f hf =>
    (h f hf).mergeEntries o.nodup_settingsEntries (o.sets_settingsEntries hthreads s c f hf)

/-! ## Configurations -/

theorem read_targetValue (s : Strictness) (path : Path) :
    TargetEntry.read s (targetValue workDir path) = .ok (targetEntry workDir path) :=
  TargetEntry.read_dict (by simp) rfl (by simp [Dict.get?, targetEntry])

theorem nodup_entries : ((o.entries workDir).map Prod.fst).Nodup := by
  unfold entries
  split <;> split <;> simp

theorem get?_entries_scanner :
    Dict.get? "scanner" (o.entries workDir) =
      if o.settingsEntries.isEmpty then none else some (.dict o.settingsEntries) := by
  unfold entries
  split <;> split <;> simp [Dict.get?]

theorem get?_merge_scanner {d settings : Dict}
    (h : Dict.get? "scanner" d = some (.dict settings)) :
    Dict.get? "scanner" (Dict.merge d (o.entries workDir)) =
      some (.dict (Dict.mergeEntries settings o.settingsEntries)) := by
  rw [Dict.merge, Dict.get?_mergeEntries _ (o.nodup_entries workDir), get?_entries_scanner]
  cases hempty : o.settingsEntries.isEmpty with
  | true => simp [h, List.isEmpty_iff.1 hempty, Dict.mergeEntries]
  | false => simp [h, Value.merge_dict, Value.entries]

theorem get?_entries_targets :
    Dict.get? "targets" (o.entries workDir) =
      if o.paths.isEmpty then none else some (.list (o.paths.map (targetValue workDir))) := by
  unfold entries
  split <;> split <;> simp [Dict.get?]

theorem get?_entries_of_ne {key : String} (hscanner : key ≠ "scanner")
    (htargets : key ≠ "targets") : Dict.get? key (o.entries workDir) = none := by
  unfold entries
  split <;> split <;> simp [Dict.get?, hscanner.symm, htargets.symm]

theorem sets_targets (s : Strictness) (c : Config) :
    match Dict.get? "targets" (o.entries workDir) with
    | some v => v.isDict = false ∧
        Read.list (TargetEntry.read s) v = .ok (o.applyTo workDir c).targets
    | none => (o.applyTo workDir c).targets = c.targets := by
  rw [get?_entries_targets]
  cases hempty : o.paths.isEmpty with
  | true => simp [applyTo, listOver, hempty]
  | false =>
    have hread : List.Forall₂ (fun v t => TargetEntry.read s v = .ok t)
        (o.paths.map (targetValue workDir)) (o.paths.map (targetEntry workDir)) := by
      rw [List.forall₂_map_left_iff, List.forall₂_map_right_iff, List.forall₂_same]
      exact fun path _ => read_targetValue workDir s path
    simp only [Bool.false_eq_true, if_false, applyTo, listOver, List.isEmpty_map, hempty]
    exact ⟨rfl, Read.items_eq_ok hread 0 []⟩

/-- The configuration is read with what the options give, if its settings are a dictionary. -/
theorem read_entries (hthreads : ∀ n ∈ o.maxThreads, n < UInt64.size) {s : Strictness} {d : Dict}
    (htidy : (Value.dict d).Tidy) {settings : Dict}
    (hsettings : Dict.get? "scanner" d = some (.dict settings)) {c : Config}
    (h : Config.read s (.dict d) = .ok c) :
    Config.read s (.dict (Dict.merge d (o.entries workDir))) = .ok (o.applyTo workDir c) := by
  have hnodup := o.nodup_entries workDir
  rw [Config.read_dict_eq_ok_iff s htidy.ascending_entries] at h
  rw [Config.read_dict_eq_ok_iff s (Dict.tidy_merge htidy _).ascending_entries]
  simp only [Config.recordFields, List.forall_mem_cons] at h ⊢
  obtain ⟨hbase, htargets, hscanner, hpatterns, -⟩ := h
  refine ⟨hbase.mergeEntries hnodup ?_, htargets.mergeEntries hnodup (o.sets_targets workDir s c),
    ?_, hpatterns.mergeEntries hnodup ?_, by simp⟩
  · simp [RecordField.Sets, get?_entries_of_ne, applyTo]
  · have hget := o.get?_merge_scanner workDir hsettings
    simp only [RecordField.Reads, hsettings] at hscanner
    simp only [RecordField.Reads, hget]
    exact o.read_settingsEntries hthreads (htidy.of_get? hsettings) hscanner
  · simp [RecordField.Sets, get?_entries_of_ne, applyTo]

/-- Options that set nothing in the configuration. -/
structure IsSilent : Prop where
  paths : o.paths = []
  mode : o.mode = none
  extensions : o.extensions = []
  excludeDirs : o.excludeDirs = []
  ignorePaths : o.ignorePaths = []
  maxThreads : o.maxThreads = none

theorem IsSilent.overrides {o : ScanOptions} (h : o.IsSilent) : o.overrides workDir = none := by
  simp [ScanOptions.overrides, settingsEntries, namesEntry, h.paths, h.mode, h.extensions,
    h.excludeDirs, h.ignorePaths, h.maxThreads]

theorem IsSilent.applyTo {o : ScanOptions} (h : o.IsSilent) (c : Config) :
    o.applyTo workDir c = c := by
  simp [ScanOptions.applyTo, settingsOver, listOver, h.paths, h.mode, h.extensions, h.excludeDirs,
    h.ignorePaths, h.maxThreads]

end Cli.ScanOptions

/-! ## Loading -/

namespace Config

theorem layers_eq_map (env : Environment) (file : Option Path) (overrides : Option Value) :
    layers env file overrides = (layers env file none).map (· ++ overrideLayer overrides) := by
  have hnone : overrideLayer none = [] := rfl
  unfold layers
  cases file with
  | none => simp [bind, Except.bind, pure, Except.pure, Except.map, hnone]
  | some p =>
    dsimp only
    split
    · simp [bind, Except.bind, pure, Except.pure, Except.map, hnone]
    · rfl

theorem merged_of_overridesSet {env : Environment} {file : Option Path} {d : Dict}
    (h : merged env file none = .ok d) {overrides : Option Value} {asked : Dict}
    (hasked : OverridesSet overrides asked) :
    merged env file overrides = .ok (Dict.merge d asked) := by
  cases hasked with
  | absent => rw [h, Dict.merge_nil]
  | dict =>
    unfold merged at h ⊢
    rw [layers_eq_map]
    cases hlower : layers env file none with
    | error e => simp [hlower, bind, Except.bind] at h
    | ok lower =>
      simp only [hlower, bind, Except.bind, Except.map, overrideLayer,
        mergeLayers_append_ok] at h ⊢
      cases hd : mergeLayers lower with
      | error e => simp [hd, Except.mapError] at h
      | ok d' =>
        simp only [hd, Except.mapError, Except.ok.injEq] at h ⊢
        rw [h]

/-- What the caller asks for is merged last. -/
theorem exists_of_merged {env : Environment} {file : Option Path} {overrides : Option Value}
    {asked d : Dict} (hasked : OverridesSet overrides asked)
    (h : merged env file overrides = .ok d) :
    ∃ lower, merged env file none = .ok lower ∧ d = Dict.merge lower asked := by
  cases hlower : merged env file none with
  | ok lower =>
    exact ⟨lower, rfl, Except.ok.inj (h.symm.trans (merged_of_overridesSet hlower hasked))⟩
  | error e =>
    cases hasked with
    | absent => cases hlower.symm.trans h
    | dict =>
      unfold merged at h hlower
      rw [layers_eq_map] at h
      cases hlayers : layers env file none with
      | error e' => simp [hlayers, bind, Except.bind, Except.map] at h
      | ok layers =>
        simp only [hlayers, bind, Except.bind, Except.map, overrideLayer,
          mergeLayers_append_ok] at h hlower
        cases hd : mergeLayers layers <;> simp [hd, Except.mapError] at h hlower

end Config

namespace Cli.Given

variable (given : Given)

theorem lt_of_mem_maxThreads : ∀ n ∈ given.scanOptions.maxThreads, n < UInt64.size := by
  intro n hn
  obtain ⟨text, -, hcount⟩ := Option.bind_eq_some_iff.1 hn
  unfold count? at hcount
  simpa using (Option.filter_eq_some_iff.1 hcount).2

theorem targets_applyTo (workDir : Path) (c : Config) :
    (given.scanOptions.applyTo workDir c).targets =
      ScanOptions.listOver ((given.texts .paths).map fun text =>
        { label := some text, path := (workDir.join (.ofString text)).toString }) c.targets := by
  simp only [ScanOptions.applyTo, scanOptions, List.map_map]
  congr 1
  refine List.map_congr_left fun text _ => ?_
  simp [ScanOptions.targetEntry, Path.toString, Path.ofString, Utf8.toString_ofString]

theorem isSilent (h : ∀ a ∈ [Argument.paths, .mode, .extensions, .excludeDirs, .ignorePaths,
    .maxThreads], given.texts a = []) : given.scanOptions.IsSilent := by
  simp only [List.forall_mem_cons] at h
  obtain ⟨hpaths, hmode, hextensions, hdirs, hglobs, hthreads, -⟩ := h
  exact ⟨by simp [scanOptions, hpaths], by simp [scanOptions, text?, hmode], hextensions, hdirs,
    hglobs, by simp [scanOptions, text?, hthreads]⟩

/-- Over a configuration that can be read flags change what they give, in what is read and in what
is loaded. Each path is a target of its own, under the text that was typed. Without any of these
flags nothing changes. -/
theorem flags_change_only_what_they_give {env : Environment} {file : Option Path}
    {d settings : Dict} {c : Config} (hmerged : Config.merged env file none = .ok d)
    (hsettings : Dict.get? "scanner" d = some (.dict settings)) (hread : Config.extract d = .ok c) :
    let o := given.scanOptions
    let c' := o.applyTo env.workDir c
    (∃ d', Config.merged env file (o.overrides env.workDir) = .ok d' ∧
      Config.extract d' = .ok c') ∧
      Config.load env file (o.overrides env.workDir) =
        (c'.validate.mapError LoadError.invalid).map (fun _ => c') ∧
      c'.targets = ScanOptions.listOver ((given.texts .paths).map fun text =>
        { label := some text, path := (env.workDir.join (.ofString text)).toString }) c.targets ∧
      (env.workDir.IsText → ∀ text, Path.ofString (env.workDir.join (.ofString text)).toString =
        env.workDir.join (.ofString text)) ∧
      ((∀ a ∈ [Argument.paths, .mode, .extensions, .excludeDirs, .ignorePaths, .maxThreads],
        given.texts a = []) → o.overrides env.workDir = none ∧ c' = c) := by
  intro o c'
  have hmerged' : Config.merged env file (o.overrides env.workDir) =
      .ok (Dict.merge d (o.entries env.workDir)) :=
    Config.merged_of_overridesSet hmerged (o.overridesSet env.workDir)
  have hread' : Config.extract (Dict.merge d (o.entries env.workDir)) = .ok c' := by
    rw [Config.extract_eq_ok_iff] at hread ⊢
    exact o.read_entries env.workDir given.lt_of_mem_maxThreads (Config.tidy_of_merged hmerged)
      hsettings hread
  refine ⟨⟨_, hmerged', hread'⟩, ?_, given.targets_applyTo env.workDir c, fun hdir text => ?_,
    fun hsilent => ?_⟩
  · rw [Config.load_eq_merged, hmerged']
    simp only [bind, Except.bind, Config.extract_eq_ok_iff.2 (Config.extract_eq_ok_iff.1 hread')]
    cases c'.validate <;> rfl
  · exact congrArg Path.mk (Utf8.ofString_toString (hdir.join ⟨text, rfl⟩).isValid)
  · exact ⟨(given.isSilent hsilent).overrides _, (given.isSilent hsilent).applyTo _ c⟩

theorem flags_change_only_what_they_give_sample :
    ∃ d c, Config.merged (Sample.environment Sample.project) none
        ((Given.scanOptions [(.paths, ["src"]), (.mode, ["parallel"])]).overrides
          (Sample.environment Sample.project).workDir) = .ok d ∧
      Config.extract d = .ok c ∧ c.targets = [⟨some "src", "/work/src"⟩] ∧
      c.scanner = { mode := .parallel, maxThreads := 4 } := by
  have hlower : Config.merged (Sample.environment Sample.project) none none =
      .ok (Sample.sources.layers.foldl Dict.merge []) := Config.merged_of_sources Sample.sources
  simp only [Sources.layers, Sample.sources, Sample.layer_vars] at hlower
  obtain ⟨⟨d, hd, hread⟩, -⟩ := Given.flags_change_only_what_they_give
    [(.paths, ["src"]), (.mode, ["parallel"])] hlower
    (show Dict.get? "scanner" _ = some (.dict _) by cbv)
    (show Config.extract _ = .ok { Config.standard with
      scanner := { mode := .sequential, maxThreads := 4 } } by cbv)
  exact ⟨d, _, hd, hread, by cbv, by cbv⟩

end Cli.Given

end ConstantScan
