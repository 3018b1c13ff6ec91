import ConstantScan.Cli.Program
import ConstantScan.Proofs.Priority
import ConstantScan.Proofs.RuleIndependence
import ConstantScan.Proofs.StatusLines

/-!
# How the work is done does not show

The mode of a scan, the bounds on its workers, the machine and verbosity have no part in its report,
in what it prints to its output and in how it ends.
-/

namespace ConstantScan

/-- What a configuration says about how the work is done. -/
structure Effort where
  mode : ScanMode
  maxThreads : Nat
  threadPercentage : Nat
  minFilesForParallel : Nat

def ScanSettings.withEffort (settings : ScanSettings) (e : Effort) : ScanSettings :=
  { settings with
    mode := e.mode
    maxThreads := e.maxThreads
    threadPercentage := e.threadPercentage
    minFilesForParallel := e.minFilesForParallel }

def Config.withEffort (c : Config) (e : Effort) : Config :=
  { c with scanner := c.scanner.withEffort e }

def Scanner.withEffort (s : Scanner) (e : Effort) : Scanner :=
  { s with settings := s.settings.withEffort e }

/-! ## Scanners -/

theorem Scanner.ofConfig_withEffort (c : Config) (e : Effort) (libs : Libraries) :
    ofConfig (c.withEffort e) libs = (ofConfig c libs).map (·.withEffort e) :=
  ofConfig_map_settings (f := (·.withEffort e)) libs (fun _ => rfl) c

theorem Config.resolveTargets_withEffort (c : Config) (e : Effort) (override home : Option Path) :
    (c.withEffort e).resolveTargets override home = c.resolveTargets override home :=
  rfl

/-! ## Surroundings -/

/-- What a scan finds around it is the same: files, libraries, and variables that tell where the
rules of the user are. -/
structure Environment.Alike (env env' : Environment) : Prop where
  files : env'.files = env.files
  libraries : env'.libraries = env.libraries
  home : env'.home? = env.home?
  desktopConfigDir : env'.desktopConfigDir? = env.desktopConfigDir?

namespace Environment.Alike

variable {env env' : Environment} (h : env.Alike env')

include h

theorem workDir : env'.workDir = env.workDir := by rw [Environment.workDir, h.files]; rfl

theorem workDir? : env'.workDir? = env.workDir? := by
  rw [Environment.workDir?, Environment.workDir?, h.files, h.workDir]

theorem namedIn : UserRules.namedIn? env' = UserRules.namedIn? env := by
  funext settings
  simp only [UserRules.namedIn?, h.files, h.home]

theorem userRules : UserRules.load env' = UserRules.load env := by
  simp only [UserRules.load, UserRules.path?, h.files, h.home, h.desktopConfigDir, h.workDir,
    h.namedIn]

theorem walk (w : Walker) (root : Path) : w.walk env' root = w.walk env root := by
  simp only [Walker.walk, IgnoreChain.ofRoot, h.files, h.workDir, h.userRules]

end Environment.Alike

/-! ## Runs -/

namespace Scanner

variable (s : Scanner) (e : Effort) {env env' : Environment}

theorem walker_withEffort : (s.withEffort e).walker = s.walker := rfl

theorem outcomeOf_withEffort (h : env.Alike env') :
    (s.withEffort e).outcomeOf env' = s.outcomeOf env := by
  funext p
  simp only [outcomeOf, h.files]
  rfl

theorem targetFindings_withEffort (h : env.Alike env') :
    (s.withEffort e).targetFindings env' = s.targetFindings env := by
  funext target
  simp only [targetFindings, walker_withEffort, outcomeOf_withEffort s e h, h.walk]

theorem targetSummary_withEffort (h : env.Alike env') :
    (s.withEffort e).targetSummary env' = s.targetSummary env := by
  funext target
  simp only [targetSummary, targetStatus, walker_withEffort, outcomeOf_withEffort s e h,
    targetFindings_withEffort s e h, h.files, h.walk]

theorem run_withEffort (h : env.Alike env') (machine machine' : Machine)
    (targets : List ScanTarget) :
    ((s.withEffort e).run env' machine' targets).1 = (s.run env machine targets).1 := by
  rw [run_eq, run_eq, targetFindings_withEffort s e h, targetSummary_withEffort s e h]

end Scanner

/-! ## What is printed -/

namespace Cli

namespace Context

variable (x : Context)

theorem describe_out (p : Prepared) : (x.describe p).out = "" := by
  apply Printed.join_out
  rw [List.forall_mem_map]
  intro text _
  unfold Console.detail
  split <;> rfl

theorem logged_out (entries : List LogEntry) : (x.logged entries).out = "" := by
  unfold logged
  split
  · apply Printed.join_out
    rw [List.forall_mem_map]
    intro entry _
    rfl
  · rfl

end Context

/-! ## Calls of the program -/

/-- A call of the program that comes to a scan. -/
structure ScanCall where
  env : Environment
  machine : Machine
  words : List String
  invocation : Invocation
  options : ScanOptions
  config : Config
  reads : Invocation.ofWords words = .ok invocation
  asks : invocation.request = .scan options
  loads : Config.load env invocation.configFile (options.overrides env.workDir) = .ok config

namespace ScanCall

/-- Two calls that differ at most in the effort, the machine and what they tell meanwhile. -/
structure Alike (x y : ScanCall) : Prop where
  env : x.env.Alike y.env
  noColor : y.invocation.noColor = x.invocation.noColor
  baseDir : y.options.baseDir = x.options.baseDir
  format : y.options.format = x.options.format
  config : ∃ e, y.config = x.config.withEffort e

variable (x : ScanCall) (colors : Bool)

def context : Context :=
  x.invocation.context x.env x.machine colors (logFilter x.env x.invocation.verbose).shows

def prepared : Except Failure Prepared :=
  match x.env.workDir? with
  | none => .error .noWorkDir
  | some _ => do
    let scanner ← (Scanner.ofConfig x.config x.env.libraries).mapError .scanner
    let targets ← (x.config.resolveTargets x.options.baseDir x.env.home?).mapError .config
    return { scanner, targets }

def report : Except Failure Report :=
  x.prepared.map fun p => (p.scanner.run x.env x.machine p.targets).1

def result : Result := runProgram x.env x.machine colors x.words

/-- How the files of each target are worked on. -/
def strategies : Except Failure (List Strategy) :=
  x.prepared.map fun p => p.targets.map fun target =>
    .forWorkload p.scanner.settings x.machine.cores (p.scanner.walker.walk x.env target.root).length

theorem prepareScan_eq : (x.context colors).prepareScan x.options = x.prepared := by
  have hload : (x.context colors).load (x.options.overrides x.env.workDir) = .ok x.config := by
    unfold Context.load
    exact congrArg (Except.mapError Failure.load) x.loads
  have henv : (x.context colors).env = x.env := rfl
  unfold Context.prepareScan Context.prepare prepared
  rw [henv]
  cases hdir : x.env.workDir? with
  | none => rfl
  | some dir =>
    rw [← Environment.eq_workDir hdir] at hload
    dsimp only
    rw [hload]
    rfl

def header : Printed :=
  match x.options.format with
  | .text => (x.context colors).console.header Context.banner
  | .json => {}

theorem result_eq :
    x.result colors =
      let o := (x.context colors).run (.scan x.options)
      let told := match o.ending with
        | .failed f => (x.context colors).console.error f.fullMessage
        | _ => {}
      ⟨o.printed ++ told, o.ending.code⟩ := by
  rw [result, runProgram, x.reads]
  simp only [Invocation.run, x.asks]
  rfl

theorem result_of_error {f : Failure} (h : x.prepared = .error f) :
    x.report = .error f ∧ (x.result colors).printed.out = "" ∧
      (x.result colors).code = failureCode := by
  have hrun : (x.context colors).run (.scan x.options) = ⟨{}, .failed f⟩ := by
    rw [Context.run, Context.scan, prepareScan_eq, h]
    rfl
  rw [report, h, result_eq, hrun]
  exact ⟨rfl, rfl, rfl⟩

/-- What goes to the output is the header and the report. -/
theorem result_of_ok {p : Prepared} {r : Report} (h : x.prepared = .ok p)
    (hrun : (p.scanner.run x.env x.machine p.targets).1 = r) :
    let o := (x.context colors).report p.scanner x.options.format r
    x.report = .ok r ∧ (x.result colors).printed.out = (x.header colors).out ++ o.printed.out ∧
      (x.result colors).code = o.ending.code := by
  subst hrun
  intro o
  have hrun : (x.context colors).run (.scan x.options) = o.after
      (x.header colors ++ (x.context colors).describe p ++
        (x.context colors).logged (p.scanner.run x.env x.machine p.targets).2) := by
    rw [Context.run, Context.scan, prepareScan_eq, h]
    rfl
  rw [report, h, result_eq, hrun]
  refine ⟨rfl, ?_, rfl⟩
  simp only [Outcome.after, Printed.append_out, Context.describe_out, Context.logged_out,
    String.append_empty]
  cases o.ending <;> exact String.append_empty

variable {x} {y : ScanCall}

theorem Alike.prepared (h : x.Alike y) :
    ∃ e, y.prepared = x.prepared.map fun p => { p with scanner := p.scanner.withEffort e } := by
  obtain ⟨e, hconfig⟩ := h.config
  refine ⟨e, ?_⟩
  unfold ScanCall.prepared
  rw [hconfig, Scanner.ofConfig_withEffort, Config.resolveTargets_withEffort, h.baseDir, h.env.home,
    h.env.libraries, h.env.workDir?]
  cases x.env.workDir? with
  | none => rfl
  | some _ =>
    cases Scanner.ofConfig x.config x.env.libraries with
    | error _ => rfl
    | ok _ => cases x.config.resolveTargets x.options.baseDir x.env.home? <;> rfl

theorem Alike.color (h : x.Alike y) :
    (y.context colors).console.color = (x.context colors).console.color := by
  simp only [context, Invocation.context, Console.make, h.noColor]

theorem Alike.header (h : x.Alike y) : y.header colors = x.header colors := by
  simp only [ScanCall.header, h.format, Console.header, Console.paint, h.color]

/-- The report, the output and the exit code are the same. -/
theorem effort_does_not_show (h : x.Alike y) :
    y.report = x.report ∧ (y.result colors).printed.out = (x.result colors).printed.out ∧
      (y.result colors).code = (x.result colors).code := by
  obtain ⟨e, hprepared⟩ := h.prepared
  cases hx : x.prepared with
  | error f =>
    have hy : y.prepared = .error f := by rw [hprepared, hx]; rfl
    obtain ⟨hreport, hout, hcode⟩ := x.result_of_error colors hx
    obtain ⟨hreport', hout', hcode'⟩ := y.result_of_error colors hy
    exact ⟨hreport'.trans hreport.symm, hout'.trans hout.symm, hcode'.trans hcode.symm⟩
  | ok p =>
    have hy : y.prepared = .ok { p with scanner := p.scanner.withEffort e } := by
      rw [hprepared, hx]; rfl
    have hrendered (r : Report) :
        (y.context colors).report (p.scanner.withEffort e) y.options.format r =
          (x.context colors).report p.scanner x.options.format r := by
      simp only [Context.report, h.color, h.format]
      rfl
    obtain ⟨hreport, hout, hcode⟩ := x.result_of_ok colors hx rfl
    obtain ⟨hreport', hout', hcode'⟩ := y.result_of_ok colors hy
      (p.scanner.run_withEffort e h.env x.machine y.machine p.targets)
    rw [hrendered] at hout' hcode'
    rw [hreport, hreport', hout, hout', hcode, hcode', h.header]
    exact ⟨rfl, rfl, rfl⟩

/-! ## A scan in two ways -/

def backwards (cores : Nat) : Machine where
  cores
  startsWorkers _ _ := true
  schedule _ _ items :=
    { shares := [(List.range items).reverse]
      turns := []
      length_le := Nat.le_max_right _ _
      perm := by simp [List.reverse_perm] }

def scratchNames : List String := ["a.py", "b.py", "c.py"]

/-- `/a` with sources of one line each. -/
def scratch : Environment where
  files :=
    { root := .dir [(Utf8.encode "a".toList, .dir (scratchNames.map fun name =>
        (Utf8.encode name.toList, .file (Utf8.encode "e = 2.718".toList))))]
      current := [] }
  vars := []

def scratchConfig (target : String) : Config :=
  { Config.standard with targets := [{ label := some target, path := target }] }

def scratchSources {overrides : Option Value} {asked : Dict} (h : OverridesSet overrides asked) :
    Sources scratch overrides :=
  .ofNoFiles rfl (fun format => .missing (fun _ => rfl)
    ((Environment.LooksFor.findFile?_eq_none_iff fun _ => rfl).1 (by cases format <;> cbv))) h

def patience : Effort where
  mode := .auto
  maxThreads := 0
  threadPercentage := 75
  minFilesForParallel := 50

def patientCall : ScanCall where
  env := scratch
  machine := .orderly 1
  words := ["scan", "/a"]
  invocation := { request := .scan { paths := [.ofString "/a"] } }
  options := { paths := [.ofString "/a"] }
  config := (scratchConfig "/a").withEffort patience
  reads := by cbv
  asks := rfl
  loads := Config.load_eq_ok_iff.2
    ⟨_, Config.merged_of_sources (scratchSources (.dict _)), by cbv, by cbv⟩

def haste : Effort := { patience with mode := .parallel, maxThreads := 2 }

def hastyCall : ScanCall where
  env := scratch
  machine := backwards 8
  words := ["scan", "--verbose", "--mode", "parallel", "--max-threads=2", "/a"]
  invocation :=
    { verbose := true
      request := .scan
        { paths := [.ofString "/a"], mode := some .parallel, maxThreads := some 2 } }
  options := { paths := [.ofString "/a"], mode := some .parallel, maxThreads := some 2 }
  config := (scratchConfig "/a").withEffort haste
  reads := by cbv
  asks := rfl
  loads := Config.load_eq_ok_iff.2
    ⟨_, Config.merged_of_sources (scratchSources (.dict _)), by cbv, by cbv⟩

def scratchTarget : ScanTarget := ⟨"/a", .ofString "/a"⟩

theorem exists_scratchScanner : ∃ s, Scanner.ofConfig (scratchConfig "/a") = .ok s :=
  exists_of_isOk (by decide +kernel)

section

variable {s : Scanner} (h : Scanner.ofConfig (scratchConfig "/a") = .ok s)
include h

theorem prepared_of_scratch {x : ScanCall} (henv : x.env = scratch)
    (hbase : x.options.baseDir = none) {e : Effort}
    (hconfig : x.config = (scratchConfig "/a").withEffort e) :
    x.prepared = .ok ⟨s.withEffort e, [scratchTarget]⟩ := by
  have hdir : scratch.workDir? = some scratch.workDir := rfl
  have htargets : (scratchConfig "/a").resolveTargets none scratch.home? =
      .ok [scratchTarget] := by cbv
  have hscanner : Scanner.ofConfig (scratchConfig "/a") scratch.libraries = .ok s := h
  rw [prepared, henv, hbase, hconfig, hdir, Scanner.ofConfig_withEffort, hscanner,
    Config.resolveTargets_withEffort, htargets]
  rfl

theorem walk_scratch : s.walker.walk scratch scratchTarget.root =
    scratchNames.map fun name => .ofString ("/a/" ++ name) := by
  obtain ⟨-, hfilter, hsettings⟩ := Scanner.parts_of_ofConfig h
  have hread : FileFilter.ofSettings (scratchConfig "/a").scanner FileFilter.joinAny =
      .ok ⟨.ofList Config.standard.scanner.extensions, .ofList Config.standard.scanner.excludeDirs,
        []⟩ := by cbv
  rw [Scanner.walker, hsettings, ← Except.ok.inj (hread.symm.trans hfilter)]
  cbv

theorem scannedFiles_scratch : s.scannedFiles scratch scratchTarget =
    scratchNames.map fun name => .ofString ("/a/" ++ name) := by
  obtain ⟨-, -, hsettings⟩ := Scanner.parts_of_ofConfig h
  rw [Scanner.scannedFiles, walk_scratch h]
  obtain ⟨rules, filter, settings⟩ := s
  simp only at hsettings
  subst hsettings
  cbv

theorem findings_scratch (machine : Machine) :
    (s.run scratch machine [scratchTarget]).1.findings =
      scratchNames.map fun name => ⟨"/a", name, 1, "e = 2.718", "direct_const"⟩ := by
  obtain ⟨hrules, -, -⟩ := Scanner.parts_of_ofConfig h
  have hnames := RuleSet.names_matching hrules "e = 2.718".toList
  rw [show (RuleSettings.active (scratchConfig "/a").patterns).filter _ = [builtinSources[3]] by
    decide +kernel] at hnames
  have hline : textLines (Utf8.decode (Utf8.encode "e = 2.718".toList)) = ["e = 2.718".toList] := by
    cbv
  have hread : ∀ name ∈ scratchNames, scratch.files.read (.ofString ("/a/" ++ name)) =
      .ok (Utf8.encode "e = 2.718".toList) := by
    simp only [scratchNames, List.forall_mem_cons]
    exact ⟨by cbv, by cbv, by cbv, by simp⟩
  simp only [scratchNames, List.forall_mem_cons] at hread
  rw [s.run_eq, List.flatMap_singleton, s.targetFindings_eq, scannedFiles_scratch h]
  simp only [scratchNames, List.map_cons, List.map_nil, List.flatMap_cons, List.flatMap_nil, hread,
    Except.toOption, Option.toList_some, s.contentFindings_of_line _ _ hline, hnames]
  cbv

end

theorem effort_does_not_show_hasty :
    patientCall.strategies = .ok [.sequential] ∧ hastyCall.strategies = .ok [.parallel 2] ∧
      hastyCall.report = patientCall.report ∧
      (hastyCall.result true).printed.out = (patientCall.result true).printed.out ∧
      (hastyCall.result true).code = (patientCall.result true).code ∧
      (∃ r, patientCall.report = .ok r ∧ r.findings.length = 3) ∧
      (patientCall.result true).code = 1 := by
  obtain ⟨s, hs⟩ := exists_scratchScanner
  have hpatient : patientCall.prepared = .ok ⟨s.withEffort patience, [scratchTarget]⟩ :=
    prepared_of_scratch hs rfl rfl rfl
  have hhasty : hastyCall.prepared = .ok ⟨s.withEffort haste, [scratchTarget]⟩ :=
    prepared_of_scratch hs rfl rfl rfl
  have hsettings := (Scanner.parts_of_ofConfig hs).2.2
  have hstrategy (x : ScanCall) (henv : x.env = scratch) {e : Effort}
      (h : x.prepared = .ok ⟨s.withEffort e, [scratchTarget]⟩) : x.strategies =
        .ok [.forWorkload ((scratchConfig "/a").scanner.withEffort e) x.machine.cores 3] := by
    have hwalk := walk_scratch hs
    rw [← s.walker_withEffort e] at hwalk
    rw [strategies, h, ← hsettings, henv]
    simp only [Except.map, List.map_cons, List.map_nil, hwalk]
    rfl
  obtain ⟨hreport, -, hcode⟩ := patientCall.result_of_ok true hpatient rfl
  have hfindings : (((s.withEffort patience).run patientCall.env patientCall.machine
      [scratchTarget]).1).findings = _ :=
    (congrArg Report.findings
      (s.run_withEffort patience ⟨rfl, rfl, rfl, rfl⟩ (.orderly 1) _ _)).trans
        (findings_scratch hs (.orderly 1))
  obtain ⟨hsame, hout, hcodes⟩ := effort_does_not_show (x := patientCall) (y := hastyCall) true
    { env := ⟨rfl, rfl, rfl, rfl⟩
      noColor := rfl
      baseDir := rfl
      format := rfl
      config := ⟨haste, rfl⟩ }
  refine ⟨hstrategy _ rfl hpatient, hstrategy _ rfl hhasty, hsame, hout, hcodes,
    ⟨_, hreport, ?_⟩, hcode.trans ?_⟩
  · rw [hfindings]
    rfl
  · exact (Report.code_eq_one_iff _).2 (by rw [hfindings]; simp [scratchNames])

end ScanCall

end Cli

end ConstantScan
