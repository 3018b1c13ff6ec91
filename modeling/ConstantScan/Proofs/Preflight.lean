import ConstantScan.Proofs.ExitStatus

/-!
# What validation says about a scan

Validation goes through the stages of a scan but for the first, so in a working directory that is
there both accept the same configurations and fail with the same errors. Of a target it says that
it is found if its root is a directory; a scan takes any root that is there.
-/

namespace ConstantScan

namespace Cli

namespace Context

variable {x x' : Context} {overrides : Option Value} {baseDir : Option Path}

/-! ## The same stages -/

theorem Stops.congr {f : Failure} (h : x.Stops overrides baseDir f) (henv : x'.env = x.env)
    (hfile : x'.configFile = x.configFile) : x'.Stops overrides baseDir f := by
  have hload : Config.load x'.env x'.configFile = Config.load x.env x.configFile := by
    rw [henv, hfile]
  cases h with
  | loading h => exact .loading (hload ▸ h)
  | rules hc h => exact .rules (hload ▸ hc) (henv ▸ h)
  | globs hc hrules h => exact .globs (hload ▸ hc) (henv ▸ hrules) (henv ▸ h)
  | targets hc hrules hfilter h =>
    exact .targets (hload ▸ hc) (henv ▸ hrules) (henv ▸ hfilter) (henv ▸ h)

theorem Passes.congr {c : Config} {p : Prepared} (h : x.Passes overrides baseDir c p)
    (henv : x'.env = x.env) (hfile : x'.configFile = x.configFile) :
    x'.Passes overrides baseDir c p where
  load := by rw [henv, hfile]; exact h.load
  rules := by rw [henv]; exact h.rules
  filter := by rw [henv]; exact h.filter
  settings := h.settings
  targets := by rw [henv]; exact h.targets

/-! ## What validation and the list of rules print -/

variable (x)

/-- What is printed ahead of all that validation says. -/
def validationHeader : Printed := x.console.header "✅ Validating Configuration"

/-- What validation says of a configuration with so many rules and these targets. -/
def validationLines (rules : Nat) (targets : List ScanTarget) : Printed :=
  .join ([x.console.success "Configuration is valid",
    x.console.keyValue "patterns" (toString rules) false,
    x.console.keyValue "targets" (toString targets.length) false] ++ targets.map x.targetLines)

variable {x}

theorem run_validateConfig_of_passes {c : Config} {p : Prepared} (h : x.Passes none none c p) :
    x.run .validateConfig =
      ⟨x.validationHeader ++ x.validationLines p.scanner.rules.size p.targets,
        .finished .clean⟩ := by
  rw [run, validateConfig, checked, h.prepare_eq]
  rfl

end Context

/-! ## Texts of the two commands -/

namespace Context

variable (x : Context)

end Context

/-! ## A place to look at -/

namespace Sample

/-- `/h`, which is the base of relative targets, with an entry that one of the standard targets
names. -/
def environment (node : FileNode) : Environment where
  files :=
    { root := .dir [(Utf8.encode "h".toList,
        .dir [(Utf8.encode "wave-toolkit".toList, node)])]
      current := [] }
  vars := [("PRECISION_SCAN_BASE_DIR", "/h")]

def config : Config := { Config.standard with baseDir := some "/h" }

def targets : List ScanTarget :=
  config.targets.map fun t => ⟨t.label.getD t.path, .ofString ("/h/" ++ t.path)⟩

def validateLine : CommandLine .validateConfig where
  words := ["config", "validate"]
  invocation := { request := .validateConfig }
  reads := by cbv
  asks := rfl

def scanLine : CommandLine (.scan {}) where
  words := ["scan"]
  invocation := { request := .scan {} }
  reads := by cbv
  asks := rfl

theorem layer_vars : Variable.layer [("PRECISION_SCAN_BASE_DIR", "/h")] =
    [("base_dir", .string "/h")] := by
  have hkeys : Variable.keys? "PRECISION_SCAN_BASE_DIR" = some ["base_dir"] := by decide
  have hvalue : Variable.value "/h" = .string "/h" := by cbv
  simp only [Variable.layer, List.foldl_cons, List.foldl_nil, hkeys, hvalue]
  cbv

theorem load_of_no_files {env : Environment}
    (hvars : env.vars = [("PRECISION_SCAN_BASE_DIR", "/h")]) (hhome : env.home? = none)
    (hproject : ∀ format, env.FileSets format (projectFile format) []) :
    Config.load env none none = .ok config := by
  have hmerged := Config.merged_of_sources (.ofNoFiles hhome hproject .absent)
  have hlayers : (Sources.ofNoFiles hhome hproject .absent).layers =
      [Config.defaults, [], [], [], [], [], [], [("base_dir", .string "/h")], []] := by
    rw [Sources.layers, hvars, layer_vars]
    rfl
  rw [hlayers] at hmerged
  exact Config.load_eq_ok_iff.2 ⟨_, hmerged, by cbv, rfl⟩

theorem load_environment (node : FileNode) :
    Config.load (environment node) none none = .ok config :=
  load_of_no_files rfl rfl fun format => .missing (fun _ => rfl)
    ((Environment.LooksFor.findFile?_eq_none_iff fun _ => rfl).1 (by cases format <;> cbv))

/-- The working directory is removed. -/
def removed : Environment :=
  { environment (.dir []) with
    files := { (environment (.dir [])).files with current := [Utf8.encode "gone".toList] } }

theorem resolveTargets_config : config.resolveTargets none none = .ok targets := by cbv

theorem exists_scanner : ∃ s, Scanner.ofConfig config = .ok s :=
  exists_of_isOk (by decide +kernel)

/-- Whatever the entry is, every stage succeeds. -/
theorem passes {x : Context} {s : Scanner} (hs : Scanner.ofConfig config = .ok s)
    (hload : Config.load x.env x.configFile none = .ok config) (hhome : x.env.home? = none)
    (hlibs : x.env.libraries = {}) : x.Passes none none config ⟨s, targets⟩ := by
  rw [← hlibs] at hs
  obtain ⟨hrules, hfilter, hsettings⟩ := Scanner.parts_of_ofConfig hs
  refine ⟨hload, hrules, hfilter, hsettings, ?_⟩
  rw [hhome]
  exact resolveTargets_config

end Sample

/-! ## Validation and scans -/

namespace CommandLine

variable (v : CommandLine .validateConfig) (s : CommandLine (.scan {}))
  (r : CommandLine .patterns) (env : Environment) (machine machine' machine'' : Machine)
  (colors : Bool)

end CommandLine

/-! ## Roots -/

namespace Context

variable (x : Context) (t : ScanTarget)

/-- What validation says of a target that it takes to be there. -/
def foundLines : Printed :=
  x.console.status "found" (t.label ++ " (" ++ t.root.toString ++ ")") true

/-- What validation says of a target that a scan is to skip. -/
def missingLines : Printed :=
  x.console.status "missing" (t.label ++ " (" ++ t.root.toString ++ ")") false ++
    x.console.warning (t.label ++ " will be skipped")

theorem foundLines_ne_missingLines : x.foundLines t ≠ x.missingLines t := by
  intro h
  have herr : "" = "" ++ (x.console.warning (t.label ++ " will be skipped")).err :=
    congrArg Printed.err h
  have hlength := congrArg String.length herr
  have hnewline : "\n".length = 1 := rfl
  simp only [Console.warning, Printed.errorLine, String.length_append, String.length_empty,
    hnewline] at hlength
  omega

theorem targetLines_eq :
    x.targetLines t = if x.env.files.isDir t.root then x.foundLines t else x.missingLines t :=
  rfl

theorem targetLines_eq_missingLines_iff :
    x.targetLines t = x.missingLines t ↔ x.env.files.isDir t.root = false := by
  rw [targetLines_eq]
  split
  · simp [*, x.foundLines_ne_missingLines t]
  · simp [*]

theorem targetLines_eq_foundLines_iff :
    x.targetLines t = x.foundLines t ↔ x.env.files.isDir t.root = true := by
  rw [targetLines_eq]
  split
  · simp [*]
  · simp [*, (x.foundLines_ne_missingLines t).symm]

end Context

/-- The entry at the root of a target is neither missing nor a directory. -/
def Stray (env : Environment) (t : ScanTarget) : Prop :=
  env.files.exists t.root = true ∧ env.files.isDir t.root = false

theorem exists_of_isDir {env : Environment} {root : Path} (h : env.files.isDir root = true) :
    env.files.exists root = true := by
  unfold FileTree.isDir at h
  unfold FileTree.exists
  cases hlook : env.files.look root with
  | ok node => rfl
  | error e => simp [hlook] at h

namespace CommandLine

variable (v : CommandLine .validateConfig) {o : ScanOptions} (s : CommandLine (.scan o))
  (env : Environment) (machine machine' : Machine) (colors : Bool)

/-- Validation has the targets of a scan in their order. It calls missing all that the scan does not
find, and what it calls found the scan finds. They differ only over a root that is there and is no
directory, which validation calls missing. -/
theorem forecast_agrees_iff {c : Config} {p : Prepared}
    (hv : (v.context env machine colors).Passes none none c p)
    (hs : (s.context env machine' colors).ScanPasses o c p) :
    let x := v.context env machine colors
    let report := (p.scanner.run env machine' p.targets).1
    (v.result env machine colors).printed =
        x.validationHeader ++ x.validationLines p.scanner.rules.size p.targets ∧
      (∃ told, s.outcome env machine' colors =
        ((s.context env machine' colors).report p.scanner o.format report).after told) ∧
      List.Forall₂ (fun t summary =>
        (summary.label = t.label ∧ summary.root = t.root) ∧
        (summary.status = .missing → x.targetLines t = x.missingLines t) ∧
        (x.targetLines t = x.foundLines t → summary.status ≠ .missing) ∧
        ((x.targetLines t = x.missingLines t ↔ summary.status = .missing) ↔ ¬ Stray env t) ∧
        ((x.targetLines t = x.foundLines t ↔ summary.status ≠ .missing) ↔ ¬ Stray env t))
        p.targets report.targets := by
  intro x report
  have hvalidate : v.outcome env machine colors = _ := Context.run_validateConfig_of_passes hv
  refine ⟨?_, ?_, ?_⟩
  · rw [v.result_of_finished (by rw [hvalidate]), hvalidate]
  · exact Context.run_scan_eq_report hs
  · have hreport : report.targets = p.targets.map (p.scanner.targetSummary env) := by
      rw [show report = _ from p.scanner.run_eq env machine' p.targets]
    rw [hreport, List.forall₂_map_right_iff, List.forall₂_same]
    intro t _
    have hmissing : (p.scanner.targetSummary env t).status = .missing ↔
        env.files.exists t.root = false := by
      exact (p.scanner.summarizes_targetSummary env t).missing
    have hdir : env.files.isDir t.root = true → env.files.exists t.root = true := exists_of_isDir
    simp only [x.targetLines_eq_missingLines_iff, x.targetLines_eq_foundLines_iff, ne_eq, hmissing,
      Stray, show x.env = env from rfl]
    refine ⟨⟨rfl, rfl⟩, ?_⟩
    -- A directory is there, which leaves three kinds of roots.
    cases hisDir : env.files.isDir t.root <;> cases hexists : env.files.exists t.root <;> simp_all

theorem forecast_agrees_iff_sample : ∃ scanner : Scanner,
    let env := Sample.environment (.dir [])
    let x := Sample.validateLine.context env (.orderly 1) true
    List.Forall₂ (fun (t : ScanTarget) (summary : TargetSummary) =>
      (x.targetLines t = x.missingLines t ↔ summary.status = .missing) ↔ ¬ Stray env t)
      Sample.targets (scanner.run env (.orderly 4) Sample.targets).1.targets := by
  obtain ⟨scanner, hscanner⟩ := Sample.exists_scanner
  refine ⟨scanner, List.Forall₂.imp (fun t summary h => h.2.2.2.1)
    (forecast_agrees_iff Sample.validateLine Sample.scanLine (Sample.environment (.dir []))
      (.orderly 1) (.orderly 4) true
      (Sample.passes hscanner (Sample.load_environment _) rfl rfl)
      ⟨rfl, Sample.passes hscanner (Sample.load_environment _) rfl rfl⟩).2.2⟩

/-- Validation says that a file is missing and is to be skipped, and the scan takes it. -/
theorem not_forecast_agrees_file : ∃ scanner : Scanner, ∃ t ∈ Sample.targets,
    let env := Sample.environment (.file [])
    let x := Sample.validateLine.context env (.orderly 1) true
    let p : Prepared := ⟨scanner, Sample.targets⟩
    x.Passes none none Sample.config p ∧
      (Sample.scanLine.context env (.orderly 1) true).ScanPasses {} Sample.config p ∧
      x.targetLines t = x.missingLines t ∧
      ∃ summary ∈ (scanner.run env (.orderly 1) Sample.targets).1.targets,
        summary.root = t.root ∧ summary.status ≠ .missing := by
  obtain ⟨scanner, hscanner⟩ := Sample.exists_scanner
  let env := Sample.environment (.file [])
  let t : ScanTarget := ⟨"wave-toolkit", .ofString "/h/wave-toolkit"⟩
  have ht : t ∈ Sample.targets := by simp [Sample.targets, Sample.config, Config.standard, t]
  have hdir : env.files.isDir t.root = false := by cbv
  have hexists : env.files.exists t.root = true := by cbv
  have hload := Sample.load_environment (.file [])
  refine ⟨scanner, t, ht, Sample.passes hscanner hload rfl rfl,
    ⟨rfl, Sample.passes hscanner hload rfl rfl⟩,
    (Context.targetLines_eq_missingLines_iff _ _).2 hdir, scanner.targetSummary env t, ?_, rfl, ?_⟩
  · rw [scanner.run_eq]
    exact List.mem_map_of_mem ht
  · rw [ne_eq, (scanner.summarizes_targetSummary env t).missing, hexists]
    decide

end CommandLine

end Cli

end ConstantScan
