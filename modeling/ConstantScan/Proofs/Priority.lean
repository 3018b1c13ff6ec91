import ConstantScan.Proofs.Defaults
import ConstantScan.Proofs.Layers
import ConstantScan.Proofs.Lookup

/-!
# Which source a setting comes from

The merged configuration shows at each key path what the highest source says about it. The files of
the user and the project are sources unless the caller names a file, which then is the only one.
-/

namespace ConstantScan

/-! ## Finding files -/

namespace Environment

/-- A path from the directory that many levels above the working directory. -/
def pathFrom (env : Environment) (level : Nat) (p : Path) : Path :=
  (Location.path (env.files.current.drop level)).join p

theorem placesAbove_eq_map (l : Location) :
    placesAbove l = (List.range (l.length + 1)).map fun level => Location.path (l.drop level) := by
  induction l with
  | nil => rfl
  | cons n l ih =>
    rw [placesAbove, ih, List.length_cons, List.range_succ_eq_map (n := l.length + 1)]
    simp

/-- Files can be looked for by the path: it is absolute, or the working directory is there. -/
def LooksFor (env : Environment) (p : Path) : Prop :=
  p.isAbsolute = false → env.workDir?.isSome = true

theorem findFile?_of_removed {env : Environment} {p : Path} (h : env.workDir? = none)
    (hrelative : p.isAbsolute = false) : env.findFile? p = none := by
  simp [findFile?, h, hrelative]

theorem LooksFor.findFile?_eq_find? {env : Environment} {p : Path} (h : env.LooksFor p) :
    env.findFile? p =
      ((List.range (env.files.current.length + 1)).map (env.pathFrom · p)).find?
        env.files.isFile := by
  rw [findFile?, placesAbove_eq_map]
  split
  · next habsolute =>
    have hsame : (env.pathFrom · p) = fun _ => p := by
      funext level
      exact Path.join_of_isAbsolute habsolute
    rw [hsame, List.range_succ_eq_map, List.map_cons, List.find?_cons]
    cases hfile : env.files.isFile p <;> simp [hfile]
  · next hrelative =>
    have hdir := Option.isNone_eq_false_iff.2 (h (by simpa using hrelative))
    rw [hdir, if_neg Bool.false_ne_true, List.map_map]
    rfl

theorem pathFrom_of_length_le (env : Environment) {level : Nat}
    (h : env.files.current.length ≤ level) (p : Path) :
    env.pathFrom level p = env.pathFrom env.files.current.length p := by
  rw [pathFrom, pathFrom, List.drop_eq_nil_of_le h, List.drop_length]

theorem LooksFor.findFile?_eq_none_iff {env : Environment} {p : Path} (h : env.LooksFor p) :
    env.findFile? p = none ↔ ∀ level, env.files.isFile (env.pathFrom level p) = false := by
  rw [h.findFile?_eq_find?, List.find?_eq_none]
  simp only [List.mem_map, List.mem_range, forall_exists_index, and_imp,
    forall_apply_eq_imp_iff₂, Bool.not_eq_true]
  refine ⟨fun h level => ?_, fun h level _ => h level⟩
  rcases Nat.lt_or_ge level (env.files.current.length + 1) with hlt | hge
  · exact h level hlt
  · rw [pathFrom_of_length_le env (by omega)]
    exact h _ (Nat.lt_succ_self _)

/-- The file that is found is the one from the nearest place. -/
theorem LooksFor.findFile?_of_nearest {env : Environment} {p : Path} (h : env.LooksFor p)
    {level : Nat} (hfile : env.files.isFile (env.pathFrom level p) = true)
    (hnearest : ∀ nearer < level, env.files.isFile (env.pathFrom nearer p) = false) :
    env.findFile? p = some (env.pathFrom level p) := by
  have hlevel : level < env.files.current.length + 1 := by
    by_contra hge
    have hlength := hnearest env.files.current.length (by omega)
    rw [← env.pathFrom_of_length_le (show _ ≤ level by omega), hfile] at hlength
    exact Bool.noConfusion hlength
  have hfind : (List.range (env.files.current.length + 1)).find?
      (fun n => env.files.isFile (env.pathFrom n p)) = some level := by
    rw [List.find?_range_eq_some]
    refine ⟨hfile, List.mem_range.2 hlevel, fun nearer hlt => ?_⟩
    rw [hnearest nearer hlt]
    rfl
  rw [h.findFile?_eq_find?, List.find?_map, Function.comp_def, hfind]
  rfl

/-! ## What files set -/

/-- What the file of that path sets. It is looked for in the working directory and then in each one
above, and one that is nowhere sets nothing. Without a working directory no relative path leads to a
file. -/
inductive FileSets (env : Environment) (format : ConfigFormat) (p : Path) : Dict → Prop
  | missing (looks : env.LooksFor p)
    (nowhere : ∀ level, env.files.isFile (env.pathFrom level p) = false) :
    FileSets env format p []
  | removed (workDir : env.workDir? = none) (relative : p.isAbsolute = false) :
    FileSets env format p []
  | found {level : Nat} {content : Bytes} {d : Dict} (looks : env.LooksFor p)
    (nearest : ∀ nearer < level, env.files.isFile (env.pathFrom nearer p) = false)
    (read : env.files.read (env.pathFrom level p) = .ok content)
    (text : Utf8.isValid content = true)
    (parsed : format.parse (Utf8.toString content) = some d) :
    FileSets env format p d

theorem layer_of_parse {format : ConfigFormat} {content : Bytes} {d : Dict}
    (text : Utf8.isValid content = true)
    (parsed : format.parse (Utf8.toString content) = some d) (fault : String) :
    format.layer fault content = .ok d := by
  rw [ConfigFormat.layer, if_pos text, parsed]

theorem FileSets.fileLayer {env : Environment} {format : ConfigFormat} {p : Path} {d : Dict}
    (h : env.FileSets format p d) : env.fileLayer format p = .ok d := by
  cases h with
  | missing looks nowhere => rw [Environment.fileLayer, looks.findFile?_eq_none_iff.2 nowhere]
  | removed workDir relative => rw [Environment.fileLayer, findFile?_of_removed workDir relative]
  | found looks nearest read text parsed =>
    rw [Environment.fileLayer, looks.findFile?_of_nearest (FileTree.isFile_of_read read) nearest]
    simp only [read, layer_of_parse text parsed]

theorem FileSets.of_text {env : Environment} {format : ConfigFormat} {p : Path} {d : Dict}
    (looks : env.LooksFor p) (text : String)
    (read : env.files.read (env.pathFrom 0 p) = .ok (Utf8.ofString text))
    (parsed : format.parse text = some d) : env.FileSets format p d := by
  refine .found looks (fun _ h => absurd h (Nat.not_lt_zero _)) read (Utf8.isValid_ofString text) ?_
  rwa [Utf8.toString_ofString]

/-! ## The file that the caller names -/

/-- The path is not too long when it is joined to the working directory, which is in order if the
path is relative. -/
structure Reaches (env : Environment) (p : Path) : Prop where
  standing : p.isAbsolute = false → env.files.Standing
  short : (env.workDir.join p).bytes.length ≤ FileTree.maxPathLength

/-- What the file at that path sets; its name tells its format. -/
def NamedSets (env : Environment) (p : Path) (d : Dict) : Prop :=
  ∃ content, env.files.read p = .ok content ∧ Utf8.isValid content = true ∧
    (ConfigFormat.ofPath p).parse (Utf8.toString content) = some d

theorem Reaches.looksFor {env : Environment} {p : Path} (h : env.Reaches p) : env.LooksFor p := by
  intro hrelative
  obtain ⟨es, hdir⟩ := (h.standing hrelative).isDir
  simp [workDir?, FileTree.standsInDir, hdir, FileNode.isDir]

theorem Reaches.look_pathFrom {env : Environment} {p : Path} (h : env.Reaches p)
    (hp : p.bytes ≠ []) : env.files.look (env.pathFrom 0 p) = env.files.look p := by
  cases hrelative : p.isAbsolute with
  | true => rw [pathFrom, Path.join_of_isAbsolute hrelative]
  | false => exact (h.standing hrelative).look_join hp h.short

theorem Reaches.fileLayer {env : Environment} {p : Path} (h : env.Reaches p)
    (hfile : env.files.isFile p = true) (format : ConfigFormat) :
    env.fileLayer format p =
      match env.files.read p with
      | .ok content =>
        format.layer (env.libraries.documentFault format (env.workDir.join p) content) content
      | .error e => .error (.malformed e.message) := by
  have hp : p.bytes ≠ [] := by
    intro hnil
    simp [FileTree.isFile, FileTree.look, FileTree.resolve, hnil, Except.map] at hfile
  have hlook := h.look_pathFrom hp
  have hfind : env.findFile? p = some (env.pathFrom 0 p) :=
    h.looksFor.findFile?_of_nearest ((FileTree.isFile_congr hlook).trans hfile)
      fun _ hlt => absurd hlt (Nat.not_lt_zero _)
  rw [Environment.fileLayer, hfind]
  dsimp only
  rewrite [FileTree.read_congr hlook]
  rfl

end Environment

/-! ## Sources -/

/-- The configuration file of the user in a format. -/
def userFile (home : Path) (format : ConfigFormat) : Path :=
  ((home.join (.ofString ".config")).join (.ofString "precision-scan")).join
    (.ofString ("config." ++ format.name))

def projectFile (format : ConfigFormat) : Path := .ofString ("precision-scan." ++ format.name)

/-- What the caller asks for is a dictionary, if there is anything. -/
inductive OverridesSet : Option Value → Dict → Prop
  | absent : OverridesSet none []
  | dict (es : Dict) : OverridesSet (some (.dict es)) es

/-- What each source sets; none of them is malformed. -/
structure Sources (env : Environment) (overrides : Option Value) where
  standard : Dict
  standard_sets : Toml.parse Config.standardText = some standard
  user : ConfigFormat → Dict
  user_sets : ∀ format, match env.home? with
    | some home => env.FileSets format (userFile home format) (user format)
    | none => user format = []
  project : ConfigFormat → Dict
  project_sets : ∀ format, env.FileSets format (projectFile format) (project format)
  asked : Dict
  asked_sets : OverridesSet overrides asked

/-- The sources in their order, the lowest first. -/
def Sources.layers {env : Environment} {overrides : Option Value} (s : Sources env overrides) :
    List Dict :=
  [s.standard, s.user .toml, s.user .json, s.user .yaml, s.project .toml,
    s.project .json, s.project .yaml, Variable.layer env.vars, s.asked]

/-- There are no files to load from. -/
def Sources.ofNoFiles {env : Environment} {overrides : Option Value} {asked : Dict}
    (hhome : env.home? = none)
    (hproject : ∀ format, env.FileSets format (projectFile format) [])
    (hasked : OverridesSet overrides asked) : Sources env overrides where
  standard := Config.defaults
  standard_sets := Config.parse_standardText
  user _ := []
  user_sets _ := by rw [hhome]
  project _ := []
  project_sets := hproject
  asked
  asked_sets := hasked

/-- The configuration before it is read from the values: all layers merged. -/
def Config.merged (env : Environment) (file : Option Path) (overrides : Option Value) :
    Except LoadError Dict := do
  (mergeLayers (← layers env file overrides)).mapError .layer

namespace Config

theorem load_eq_merged (env : Environment) (file : Option Path)
    (overrides : Option Value) :
    load env file overrides = (do
      let c ← extract (← merged env file overrides) (env.libraries.origin file overrides)
      c.validate.mapError .invalid
      return c) := by
  unfold load merged
  cases layers env file overrides <;> rfl

theorem load_eq_ok_iff {env : Environment} {file : Option Path} {overrides : Option Value}
    {c : Config} :
    load env file overrides = .ok c ↔ ∃ d, merged env file overrides = .ok d ∧
      Config.read .layered (.dict d) = .ok c ∧ c.validate = .ok () := by
  rw [load_eq_merged]
  cases merged env file overrides with
  | error e => simp [bind, Except.bind]
  | ok d =>
    cases hread : Config.read .layered (.dict d) with
    | error p => simp [bind, Except.bind, extract, hread, Except.mapError]
    | ok c' =>
      cases hvalid : c'.validate with
      | error e =>
        simp only [bind, Except.bind, extract, hread, Except.mapError, hvalid, Except.ok.injEq,
          reduceCtorEq, false_iff, not_exists, not_and]
        rintro d' rfl hread' hvalid'
        cases hread.symm.trans hread'
        simp [hvalid] at hvalid'
      | ok u =>
        simp only [bind, Except.bind, extract, hread, Except.mapError, hvalid, pure, Except.pure,
          Except.ok.injEq, exists_eq_left']
        constructor
        · rintro rfl
          exact ⟨rfl, hvalid⟩
        · exact fun h => h.1

end Config

/-! ## Layers -/

theorem Path.join_bytes_append (p : Path) {name rest : Bytes} (h : name ≠ [])
    (hrelative : isAbsolute ⟨name⟩ = false) :
    (⟨(p.join ⟨name⟩).bytes ++ rest⟩ : Path) = p.join ⟨name ++ rest⟩ := by
  have hrelative' : isAbsolute ⟨name ++ rest⟩ = false := by
    rw [isAbsolute, List.head?_append_of_ne_nil _ h]
    exact hrelative
  simp only [join, hrelative, hrelative', Bool.false_eq_true, if_false]
  split <;> simp

theorem fileLayers_user (env : Environment) (home : Path) :
    fileLayers env (((home.join (.ofString ".config")).join configStem).join (.ofString "config")) =
      ConfigFormat.all.map fun f => env.fileLayer f (userFile home f) := by
  have hne : Utf8.ofString "config" ≠ [] := by
    rw [Utf8.ofString_eq_encode]
    decide
  have hrelative : Path.isAbsolute ⟨Utf8.ofString "config"⟩ = false := by
    rw [Utf8.ofString_eq_encode]
    decide
  refine List.map_congr_left fun f _ => congrArg (env.fileLayer f) ?_
  rw [userFile, Path.ofString, Path.ofString, Path.join_bytes_append _ hne hrelative,
    ← Utf8.ofString_append, ← String.append_assoc]
  rfl

theorem fileLayers_project (env : Environment) :
    fileLayers env configStem = ConfigFormat.all.map fun f => env.fileLayer f (projectFile f) := by
  refine List.map_congr_left fun f _ => congrArg (env.fileLayer f) ?_
  rw [projectFile, configStem, Path.ofString, Path.ofString, ← Utf8.ofString_append,
    ← String.append_assoc]
  rfl

theorem mergeLayers_overrides {overrides : Option Value} {asked : Dict}
    (h : OverridesSet overrides asked) (layers : List Dict) :
    mergeLayers (layers.map .ok ++ overrideLayer overrides) =
      .ok ((layers ++ [asked]).foldl Dict.merge []) := by
  cases h with
  | absent =>
    rw [overrideLayer, List.append_nil, mergeLayers_map_ok, List.foldl_append]
    simp [Dict.merge_nil]
  | dict =>
    have hmap : layers.map Except.ok ++ overrideLayer (some (.dict asked)) =
        (layers ++ [asked]).map (.ok : Dict → Layer) := by simp [overrideLayer]
    rw [hmap, mergeLayers_map_ok]

namespace Config

theorem merged_of_sources {env : Environment} {overrides : Option Value}
    (s : Sources env overrides) :
    merged env none overrides = .ok (s.layers.foldl Dict.merge []) := by
  have hproject : fileLayers env configStem = (ConfigFormat.all.map s.project).map .ok := by
    rw [fileLayers_project, List.map_map]
    exact List.map_congr_left fun f _ => (s.project_sets f).fileLayer
  have huser := s.user_sets
  have hmerge (user : List Dict) :=
    mergeLayers_overrides s.asked_sets (s.standard :: (user ++
      ConfigFormat.all.map s.project) ++ [Variable.layer env.vars])
  simp only [merged, layers, standardFiles, hproject, standardLayer_of_parse s.standard_sets, bind,
    Except.bind, pure, Except.pure]
  cases hhome : env.home? with
  | none =>
    rw [hhome] at huser
    specialize hmerge []
    simp only [List.map_append, List.map_cons, List.map_nil, List.append_assoc, List.cons_append,
      List.nil_append] at hmerge ⊢
    rw [hmerge]
    simp [Except.mapError, Sources.layers, ConfigFormat.all, huser, Dict.merge_nil]
  | some home =>
    rw [hhome] at huser
    have hfiles : fileLayers env
        (((home.join (.ofString ".config")).join configStem).join (.ofString "config")) =
          (ConfigFormat.all.map s.user).map .ok := by
      rw [fileLayers_user, List.map_map]
      exact List.map_congr_left fun f _ => (huser f).fileLayer
    specialize hmerge (ConfigFormat.all.map s.user)
    simp only [List.map_append, List.map_cons, List.map_nil, List.append_assoc, List.cons_append,
      List.nil_append, hfiles] at hmerge ⊢
    rw [hmerge]
    simp [Except.mapError, Sources.layers, ConfigFormat.all]

/-! ## A file that the caller names -/

theorem merged_of_named {env : Environment} {p : Path} (h : env.Reaches p) {d asked : Dict}
    (hd : env.NamedSets p d) {overrides : Option Value} (hasked : OverridesSet overrides asked) :
    merged env (some p) overrides =
      .ok ([defaults, d, Variable.layer env.vars, asked].foldl Dict.merge []) := by
  obtain ⟨content, hread, htext, hparsed⟩ := hd
  have hlayer : env.fileLayer (.ofPath p) p = .ok d := by
    rw [h.fileLayer (FileTree.isFile_of_read hread), hread]
    exact Environment.layer_of_parse htext hparsed _
  have hmerge := mergeLayers_overrides hasked [defaults, d, Variable.layer env.vars]
  simp only [List.map_cons, List.map_nil, List.cons_append, List.nil_append] at hmerge
  simp only [merged, layers, FileTree.isFile_of_read hread, if_true, hlayer, standardLayer_eq, bind,
    Except.bind, pure, Except.pure, List.cons_append, List.nil_append, hmerge]
  rfl

end Config

/-! ## A project with files of each kind -/

namespace Sample

def name (s : String) : Bytes := Utf8.encode s.toList

def user : String := "\x7b\"scanner\": \x7b\"max_threads\": 3, \"mode\": \"parallel\"\x7d\x7d"

def project : String := "\x7b\"scanner\": \x7b\"max_threads\": 4\x7d\x7d"

def own : String := "\x7b\"base_dir\": \"/srv\"\x7d"

/-- The project's file holds the text; `own.json` is a file that only a caller names. -/
def files (text : String) : FileTree where
  root := .dir [
    (name "home", .dir [(name ".config", .dir [(name "precision-scan", .dir [
      (name "config.json", .file (Utf8.ofString user))])])]),
    (name "work", .dir [
      (name "precision-scan.json", .file (Utf8.ofString text)),
      (name "own.json", .file (Utf8.ofString own))])]
  current := [name "work"]

def environment (text : String) : Environment where
  files := files text
  vars := [("HOME", "/home"), ("PRECISION_SCAN_SCANNER__MODE", "sequential")]

theorem looksFor (text : String) (p : Path) : (environment text).LooksFor p := fun _ => rfl

def sources : Sources (environment project) none where
  standard := Config.defaults
  standard_sets := Config.parse_standardText
  user
    | .json => [("scanner", .dict [("max_threads", .number (.unsigned 3)),
        ("mode", .string "parallel")])]
    | _ => []
  user_sets
    | .json => .of_text (looksFor _ _) user (by cbv) (by cbv)
    | .toml | .yaml => .missing (looksFor _ _) ((looksFor _ _).findFile?_eq_none_iff.1 (by cbv))
  project
    | .json => [("scanner", .dict [("max_threads", .number (.unsigned 4))])]
    | _ => []
  project_sets
    | .json => .of_text (looksFor _ _) project (by cbv) (by cbv)
    | .toml | .yaml => .missing (looksFor _ _) ((looksFor _ _).findFile?_eq_none_iff.1 (by cbv))
  asked := []
  asked_sets := .absent

theorem layer_vars : Variable.layer (environment project).vars =
    [("scanner", .dict [("mode", .string "sequential")])] := by
  have hhome : Variable.keys? "HOME" = none := by decide
  have hmode : Variable.keys? "PRECISION_SCAN_SCANNER__MODE" = some ["scanner", "mode"] := by
    decide
  have hvalue : Variable.value "sequential" = .string "sequential" := by cbv
  simp only [Variable.layer, environment, List.foldl_cons, List.foldl_nil, hhome, hmode, hvalue]
  cbv

end Sample

namespace Config

end Config

/-! ## Files that are not reached -/

/-- The working directory is removed; the file is next to where it was. -/
def Sample.removed : Environment where
  files := {
    root := .dir [(name "own.json", .file (Utf8.ofString own))]
    current := [name "work"] }
  vars := []

namespace TooFar

def fileName : Path := .ofString "precision-scan.toml"

/-- A path that can be looked up from the working directory but not after the path of it. -/
def given : Path := .dotted 2037 fileName

/-- The file in the working directory is empty; `above` is what the root holds besides. -/
def environment (above : List (Bytes × FileNode)) : Environment where
  files := {
    root := .dir ((Sample.name "work", .dir [(fileName.bytes, .file [])]) :: above)
    current := [Sample.name "work"] }
  vars := []

theorem looksFor (above : List (Bytes × FileNode)) (p : Path) : (environment above).LooksFor p :=
  fun _ => rfl

end TooFar

namespace Config

end Config

end ConstantScan
