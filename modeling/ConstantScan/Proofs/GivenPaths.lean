import ConstantScan.Proofs.Enumeration
import ConstantScan.Proofs.Overrides
import ConstantScan.Proofs.TargetRoots

/-!
# Paths that a scan is given

A path that is given is taken from the working directory, and the text of what this makes names the
target. So the root is another path if the bytes are no text, and one that cannot be looked up if the
text is too long for a path, even where the path itself is not.
-/

namespace ConstantScan

namespace Path

/-- The path that is named by the text of `p`. -/
def reread (p : Path) : Path := .ofString p.toString

theorem reread_eq_iff {p : Path} : p.reread = p ↔ p.IsText := by
  constructor
  · exact fun h => ⟨p.toString, h.symm⟩
  · rintro ⟨s, rfl⟩
    simp only [reread, toString, ofString, Utf8.toString_ofString]

/-- A slash is a character of its own. -/
theorem decode_of_isAbsolute {p : Path} (h : p.isAbsolute = true) :
    ∃ rest, Utf8.decode p.bytes = '/' :: rest := by
  obtain ⟨bs⟩ := p
  cases bs with
  | nil => simp [isAbsolute] at h
  | cons b bs =>
    obtain rfl : b = slash := by simpa [isAbsolute] using h
    exact ⟨_, Utf8.decode_append_cons [] (by decide) bs⟩

theorem isAbsolute_reread {p : Path} (h : p.isAbsolute = true) : p.reread.isAbsolute = true := by
  obtain ⟨rest, hrest⟩ := decode_of_isAbsolute h
  have hbytes : p.reread.bytes = slash :: Utf8.encode rest := by
    rw [reread, ofString, Utf8.ofString_eq_encode, toString, Utf8.toString, String.toList_ofList,
      hrest]
    rfl
  rw [isAbsolute, hbytes]
  rfl

theorem not_isBlankText_of_isAbsolute {s : String} (h : (ofString s).isAbsolute = true) :
    isBlankText s = false := by
  obtain ⟨rest, hrest⟩ := decode_of_isAbsolute h
  have htext : s.toList = '/' :: rest := by
    rw [← hrest, ofString, Utf8.ofString_eq_encode, Utf8.decode_encode]
  have hslash : Unicode.isBlank '/' = false := by decide
  simp [isBlankText, htext, hslash]

theorem IsText.dotted {p : Path} (h : p.IsText) (count : Nat) : (p.dotted count).IsText := by
  induction count with
  | zero => exact h
  | succ count ih =>
    obtain ⟨s, hs⟩ := ih
    have hstep : Utf8.ofString "./" = [0x2E, slash] := by cbv
    have hbytes : Utf8.ofString s = (p.dotted count).bytes := congrArg bytes hs.symm
    refine ⟨"./" ++ s, ?_⟩
    rw [ofString, Utf8.ofString_append, hstep, hbytes]
    simp [Path.dotted, List.replicate_succ]

end Path

theorem Environment.isAbsolute_workDir (env : Environment) : env.workDir.isAbsolute = true := by
  unfold workDir Location.path
  split
  · rfl
  · next hne =>
    obtain ⟨front, n, hl⟩ := (List.eq_nil_or_concat' env.files.current).resolve_left hne
    simp [Path.isAbsolute, hl]

/-! ## The targets of a load -/

theorem Config.validate_eq_ok_iff {c : Config} :
    c.validate = .ok () ↔ c.targets ≠ [] ∧ (∀ t ∈ c.targets, isBlankText t.path = false) ∧
      (∃ e ∈ c.scanner.extensions, bareExtension e ≠ "") ∧
      0 < c.scanner.threadPercentage ∧ c.scanner.threadPercentage ≤ 100 := by
  -- A check that fails is one conjunct that fails; those behind it are not made.
  rw [validate]
  by_cases htargets : c.targets = []
  · simp [htargets]
  rw [if_neg (by simpa using htargets), and_iff_right htargets]
  cases hblank : c.targets.findIdx? fun t => isBlankText t.path with
  | some i =>
    obtain ⟨hlt, hi, -⟩ := List.findIdx?_eq_some_iff_getElem.1 hblank
    refine iff_of_false (by simp) ?_
    rintro ⟨hpaths, -⟩
    simp [hpaths _ (List.getElem_mem hlt)] at hi
  | none =>
    rw [List.findIdx?_eq_none_iff] at hblank
    rw [and_iff_right hblank]
    dsimp only
    split
    · next hall =>
      refine iff_of_false (by simp) ?_
      rintro ⟨⟨e, he, hne⟩, -⟩
      apply hne
      simpa using List.all_eq_true.1 hall e he
    · next hsome =>
      rw [and_iff_right (by simpa using hsome)]
      split
      · next h =>
        simp only [Bool.or_eq_true, decide_eq_true_eq] at h
        exact iff_of_false (by simp) (by omega)
      · next h =>
        simp only [Bool.or_eq_true, decide_eq_true_eq] at h
        exact iff_of_true rfl (by omega)

namespace Cli.ScanOptions

variable {o : ScanOptions} {env : Environment} {file : Option Path} {c : Config}

theorem targets_applyTo (hpaths : o.paths ≠ []) (workDir : Path) (c : Config) :
    (o.applyTo workDir c).targets = o.paths.map (targetEntry workDir) := by
  simp [applyTo, listOver, hpaths]

/-- The paths are the only targets, whatever the files and variables say. -/
theorem targets_of_load (hpaths : o.paths ≠ [])
    (h : Config.load env file (o.overrides env.workDir) = .ok c) :
    c.targets = o.paths.map (targetEntry env.workDir) := by
  obtain ⟨d, hmerged, hread, -⟩ := Config.load_eq_ok_iff.1 h
  obtain ⟨lower, -, rfl⟩ := Config.exists_of_merged (o.overridesSet env.workDir) hmerged
  have htidy := Config.tidy_of_merged hmerged
  rw [Config.read_dict_eq_ok_iff .layered htidy.ascending_entries] at hread
  simp only [Config.recordFields, List.forall_mem_cons] at hread
  obtain ⟨-, htargets, -⟩ := hread
  have hget : Dict.get? "targets" (o.entries env.workDir) =
      some (.list (o.paths.map (targetValue env.workDir))) := by
    simp [get?_entries_targets, hpaths]
  have hsets := o.sets_targets env.workDir .layered c
  rw [hget] at hsets
  have hmerge : Dict.get? "targets" (Dict.merge lower (o.entries env.workDir)) =
      some (.list (o.paths.map (targetValue env.workDir))) := by
    rw [Dict.merge, Dict.get?_mergeEntries _ (o.nodup_entries env.workDir), hget]
    simp [Value.merge_of_not_isDict _ hsets.1]
  simp only [RecordField.Reads, hmerge] at htargets
  rw [← targets_applyTo hpaths env.workDir c]
  exact Except.ok.inj (htargets.symm.trans hsets.2)

theorem isAbsolute_targetEntry (p : Path) :
    (Path.ofString (targetEntry env.workDir p).path).isAbsolute = true :=
  Path.isAbsolute_reread (Path.isAbsolute_join env.isAbsolute_workDir p)

def givenTarget (workDir path : Path) : ScanTarget := ⟨path.toString, (workDir.join path).reread⟩

theorem resolveTargets_of_load (hpaths : o.paths ≠ [])
    (h : Config.load env file (o.overrides env.workDir) = .ok c) (override : Option Path)
    (home : Path) :
    c.resolveTargets override (some home) = .ok (o.paths.map (givenTarget env.workDir)) := by
  have htargets := targets_of_load hpaths h
  obtain ⟨-, hhomeless | ⟨t, ht, hlacks⟩⟩ | ⟨targets, hok, -, -, hroots⟩ :=
    c.resolveTargets_cases override (some home)
  · cases hhomeless.home
  · rw [htargets, List.mem_map] at ht
    obtain ⟨p, -, rfl⟩ := ht
    exact absurd ((isAbsolute_targetEntry p).symm.trans hlacks.relative) (by decide)
  · rw [htargets, List.forall₂_map_left_iff] at hroots
    have heq : List.Forall₂ (· = ·) (o.paths.map (givenTarget env.workDir)) targets := by
      rw [List.forall₂_map_left_iff]
      refine hroots.imp fun p target ⟨hlabel, hroot⟩ => ?_
      rw [resolveRoot_of_isAbsolute (isAbsolute_targetEntry p)] at hroot
      obtain ⟨label, root⟩ := target
      exact ScanTarget.mk.injEq .. ▸ ⟨hlabel.symm, Option.some.inj hroot⟩
    rw [List.forall₂_eq_eq_eq] at heq
    rw [hok, heq]

/-! ## What becomes of a path -/

theorem exists_join (hstanding : env.files.Standing) {p : Path} (hp : env.files.exists p = true) :
    env.files.exists (env.workDir.join p) = true ↔
      (env.workDir.join p).bytes.length ≤ FileTree.maxPathLength := by
  constructor
  · intro h
    by_contra hlong
    rw [FileTree.not_exists_of_too_long (Nat.not_le.1 hlong)] at h
    cases h
  · intro hshort
    have hne : p.bytes ≠ [] := by
      intro hnil
      simp [FileTree.exists, FileTree.look, FileTree.resolve, hnil, Except.map, Except.isOk,
        Except.toBool] at hp
    rw [FileTree.exists, Environment.workDir, hstanding.look_join hne hshort]
    exact hp

structure Tells (env : Environment) (p : Path) (summary : TargetSummary) : Prop where
  label : summary.label = p.toString
  root : summary.root = (env.workDir.join p).reread
  missing : summary.status = .missing ↔ env.files.exists (env.workDir.join p).reread = false
  /-- Of a text that is there. -/
  missing_of_isText : env.files.Standing → env.files.exists p = true →
    (env.workDir.join p).IsText →
      (summary.status = .missing ↔ FileTree.maxPathLength < (env.workDir.join p).bytes.length)

theorem tells_targetSummary (s : Scanner) (env : Environment) (p : Path) :
    Tells env p (s.targetSummary env (givenTarget env.workDir p)) where
  label := rfl
  root := rfl
  missing := (s.summarizes_targetSummary env _).missing
  missing_of_isText hstanding hp htext := by
    rw [(s.summarizes_targetSummary env _).missing, givenTarget, Path.reread_eq_iff.2 htext,
      ← Bool.not_eq_true, exists_join hstanding hp, Nat.not_le]

/-- Paths alone leave a configuration valid. -/
theorem load_paths {paths : List Path} (hpaths : paths ≠ []) {d settings : Dict}
    (hmerged : Config.merged env file none = .ok d)
    (hsettings : Dict.get? "scanner" d = some (.dict settings))
    (hread : Config.extract d = .ok c) (hvalid : c.validate = .ok ()) :
    ∃ c', Config.load env file (overrides { paths } env.workDir) = .ok c' := by
  let o : ScanOptions := { paths }
  have hread' := o.read_entries env.workDir (by simp [o]) (Config.tidy_of_merged hmerged)
    hsettings (Config.extract_eq_ok_iff.1 hread)
  have hmerged' := Config.merged_of_overridesSet hmerged (o.overridesSet env.workDir)
  have htargets := targets_applyTo (o := o) hpaths env.workDir c
  have hscanner : (o.applyTo env.workDir c).scanner = c.scanner := by
    simp [applyTo, settingsOver, listOver, o]
  rw [Config.validate_eq_ok_iff] at hvalid
  refine ⟨_, Config.load_eq_ok_iff.2 ⟨_, hmerged', hread', Config.validate_eq_ok_iff.2 ?_⟩⟩
  rw [htargets, hscanner]
  refine ⟨by simpa [o] using hpaths, ?_, hvalid.2.2⟩
  rw [List.forall_mem_map]
  exact fun p _ => Path.not_isBlankText_of_isAbsolute (isAbsolute_targetEntry p)

end Cli.ScanOptions

/-! ## A name in Latin-1 -/

namespace Latin

def lib : Path := ⟨Sample.name "lib"⟩

/-- As long as a path may be. -/
def dottedLib : Path := .dotted 2046 lib

def accented : Path := ⟨[0xE9]⟩

def environment : Environment where
  files := { root := .dir [(lib.bytes, .dir []), (accented.bytes, .dir [])], current := [] }
  vars := []

theorem standing : environment.files.Standing where
  isDir := ⟨_, rfl⟩
  proper := by simp [environment]
  short := by simp [environment]
  noNul := by simp [environment]

theorem workDir?_environment : environment.workDir? = some environment.workDir := by cbv

theorem exists_lib : environment.files.exists lib = true := by cbv

theorem exists_accented : environment.files.exists accented = true := by cbv

theorem length_dottedLib : dottedLib.bytes.length = FileTree.maxPathLength := by
  have hlib : lib.bytes.length = 3 := by decide
  rw [dottedLib, Path.length_dotted, hlib]
  rfl

theorem exists_dottedLib : environment.files.exists dottedLib = true := by
  have hlook : environment.files.look dottedLib = environment.files.look lib :=
    FileTree.look_dotted (by decide) (by decide) standing length_dottedLib.le
  rw [FileTree.exists, hlook]
  exact exists_lib

theorem isText_lib : lib.IsText :=
  ⟨"lib", by rw [Path.ofString, Utf8.ofString_eq_encode]; rfl⟩

theorem isText_join {p : Path} (hp : p.IsText) : (environment.workDir.join p).IsText :=
  Path.IsText.join ⟨"/", by cbv⟩ hp

theorem bytes_join {p : Path} (hp : p.isAbsolute = false) :
    (environment.workDir.join p).bytes = Path.slash :: p.bytes :=
  Location.bytes_path_join (by simp [environment]) hp

theorem not_exists_join_dottedLib :
    environment.files.exists (environment.workDir.join dottedLib).reread = false := by
  have hrelative : dottedLib.isAbsolute = false := Path.not_isAbsolute_dotted (by decide) 2046
  have htext : dottedLib.IsText := isText_lib.dotted 2046
  rw [Path.reread_eq_iff.2 (isText_join htext)]
  apply FileTree.not_exists_of_too_long
  rw [bytes_join hrelative, List.length_cons, length_dottedLib]
  exact Nat.lt_succ_self _

theorem not_exists_join_accented :
    environment.files.exists (environment.workDir.join accented).reread = false := by cbv

theorem not_isText_join_accented : ¬ (environment.workDir.join accented).IsText := by
  intro h
  have hvalid := h.isValid
  rw [bytes_join (by decide)] at hvalid
  exact absurd hvalid (by decide)

/-! ### Loading -/

theorem merged_environment :
    Config.merged environment none none = .ok (Dict.merge [] Config.defaults) := by
  have hfiles : standardFiles environment = [.ok [], .ok [], .ok []] := by cbv
  simp only [Config.merged, Config.layers, hfiles, Config.standardLayer_eq]
  rfl

theorem extract_defaults : Config.extract (Dict.merge [] Config.defaults) = .ok Config.standard :=
  Config.extract_eq_ok_iff.2 (by cbv)

theorem load_standard : Config.load environment none none = .ok Config.standard :=
  Config.load_eq_ok_iff.2
    ⟨_, merged_environment, Config.extract_eq_ok_iff.1 extract_defaults, rfl⟩

theorem load_paths (paths : List Path) (hpaths : paths ≠ []) :
    ∃ c, Config.load environment none
      (Cli.ScanOptions.overrides { paths } environment.workDir) = .ok c :=
  Cli.ScanOptions.load_paths hpaths merged_environment
    (show Dict.get? "scanner" _ = some (.dict _) by cbv) extract_defaults rfl

end Latin

namespace Cli.ScanOptions

variable {o : ScanOptions} {env : Environment} {file : Option Path} {c : Config}

/-- The roots are the paths after the working directory just if all of these are texts, and they
are what the texts name in any case. A path that is there is told as missing if its bytes are a text
and too long after the working directory, or if they are none and nothing goes by the name that
they are taken for. -/
theorem given_paths_by_texts (hpaths : o.paths ≠ [])
    (hload : Config.load env file (o.overrides env.workDir) = .ok c) (override : Option Path)
    (home : Path) :
    ∃ targets, c.resolveTargets override (some home) = .ok targets ∧
      targets.map ScanTarget.root = o.paths.map (fun p => (env.workDir.join p).reread) ∧
      (targets.map ScanTarget.root = o.paths.map env.workDir.join ↔
        ∀ p ∈ o.paths, (env.workDir.join p).IsText) ∧
      ∀ (s : Scanner) (machine : Machine),
        List.Forall₂ (Tells env) o.paths (s.run env machine targets).1.targets := by
  have hroots : (o.paths.map (givenTarget env.workDir)).map ScanTarget.root =
      o.paths.map (fun p => (env.workDir.join p).reread) := by
    rw [List.map_map]
    rfl
  refine ⟨_, resolveTargets_of_load hpaths hload override home, hroots, ?_, fun s machine => ?_⟩
  · rw [hroots, List.map_inj_left]
    simp only [Path.reread_eq_iff]
  · rw [s.run_eq env machine]
    simp only [List.map_map, List.forall₂_map_right_iff, List.forall₂_same]
    exact fun p _ => tells_targetSummary s env p

theorem given_paths_by_texts_lib : ∃ c targets,
    Config.load Latin.environment none
      (overrides { paths := [Latin.lib] } Latin.environment.workDir) = .ok c ∧
    c.resolveTargets none (some (.ofString "/root")) = .ok targets ∧
    ∀ (s : Scanner) (machine : Machine),
      ∃ summary ∈ (s.run Latin.environment machine targets).1.targets,
        summary.status ≠ .missing := by
  obtain ⟨c, hload⟩ := Latin.load_paths [Latin.lib] (by simp)
  obtain ⟨targets, htargets, -, -, hsummaries⟩ :=
    given_paths_by_texts (by simp) hload none (.ofString "/root")
  refine ⟨c, targets, hload, htargets, fun s machine => ?_⟩
  obtain ⟨summary, rest, htells, -, hrun⟩ := List.forall₂_cons_left_iff.1 (hsummaries s machine)
  refine ⟨summary, by simp [hrun], ?_⟩
  rw [ne_eq, htells.missing_of_isText Latin.standing Latin.exists_lib
    (Latin.isText_join Latin.isText_lib), Latin.bytes_join (by decide)]
  decide

/-- Both paths are there, and both are told as missing. -/
theorem given_paths_told_missing :
    let paths := [Latin.dottedLib, Latin.accented]
    (∀ p ∈ paths, Latin.environment.files.exists p = true) ∧
    ∃ c targets,
      Config.load Latin.environment none (overrides { paths } Latin.environment.workDir) = .ok c ∧
      c.resolveTargets none (some (.ofString "/root")) = .ok targets ∧
      targets.map ScanTarget.root ≠ paths.map Latin.environment.workDir.join ∧
      ∀ (s : Scanner) (machine : Machine),
        ∀ summary ∈ (s.run Latin.environment machine targets).1.targets,
          summary.status = .missing := by
  intro paths
  have hpaths : paths ≠ [] := by simp [paths]
  obtain ⟨c, hload⟩ := Latin.load_paths paths hpaths
  refine ⟨?_, c, _, hload, resolveTargets_of_load hpaths hload none _, ?_, fun s machine => ?_⟩
  · simp [paths, Latin.exists_dottedLib, Latin.exists_accented]
  · intro heq
    simp only [paths, List.map_cons, List.cons.injEq] at heq
    exact Latin.not_isText_join_accented (Path.reread_eq_iff.1 heq.2.1)
  · rw [s.run_eq Latin.environment machine]
    simp only [paths, List.map_cons, List.map_nil, List.forall_mem_cons]
    exact ⟨(tells_targetSummary s _ Latin.dottedLib).missing.2 Latin.not_exists_join_dottedLib,
      (tells_targetSummary s _ Latin.accented).missing.2 Latin.not_exists_join_accented, by simp⟩

end Cli.ScanOptions

end ConstantScan
