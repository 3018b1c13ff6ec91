import ConstantScan.Cli.Program
import ConstantScan.Proofs.RuleSets
import ConstantScan.Proofs.StatusLines
import ConstantScan.Proofs.Utf8

/-!
# The stages before a scan

A scan asks for the working directory. Then a configuration is loaded, its rules and globs are read
and its targets get their roots, in this order. The first stage that fails says why nothing is
scanned.
-/

namespace ConstantScan

namespace Cli

namespace Context

variable (x : Context) (overrides : Option Value) (baseDir : Option Path)

/-- The first stage that fails, and why it does. -/
inductive Stops : Failure → Prop
  | loading {e : LoadError} (h : Config.load x.env x.configFile overrides = .error e) :
      Stops (.load e)
  | rules {c : Config} {e : RuleError}
      (hload : Config.load x.env x.configFile overrides = .ok c)
      (h : RuleSet.ofSettings c.patterns x.env.libraries.readRegex = .error e) :
      Stops (.scanner (.rule e))
  | globs {c : Config} {rules : RuleSet} {e : FilterError}
      (hload : Config.load x.env x.configFile overrides = .ok c)
      (hrules : RuleSet.ofSettings c.patterns x.env.libraries.readRegex = .ok rules)
      (h : FileFilter.ofSettings c.scanner x.env.libraries.joinGlobs = .error e) :
      Stops (.scanner (.filter e))
  | targets {c : Config} {rules : RuleSet} {filter : FileFilter} {e : ConfigError}
      (hload : Config.load x.env x.configFile overrides = .ok c)
      (hrules : RuleSet.ofSettings c.patterns x.env.libraries.readRegex = .ok rules)
      (hfilter : FileFilter.ofSettings c.scanner x.env.libraries.joinGlobs = .ok filter)
      (h : c.resolveTargets baseDir x.env.home? = .error e) : Stops (.config e)

/-- No stage fails, and this is what the stages come to. -/
structure Passes (c : Config) (p : Prepared) : Prop where
  load : Config.load x.env x.configFile overrides = .ok c
  rules : RuleSet.ofSettings c.patterns x.env.libraries.readRegex = .ok p.scanner.rules
  filter : FileFilter.ofSettings c.scanner x.env.libraries.joinGlobs = .ok p.scanner.filter
  settings : p.scanner.settings = c.scanner
  targets : c.resolveTargets baseDir x.env.home? = .ok p.targets

variable {x overrides baseDir}

theorem prepare_of_stops {f : Failure} (h : x.Stops overrides baseDir f) :
    x.prepare overrides baseDir = .error f := by
  cases h with
  | loading h => simp [prepare, Context.load, h, Except.mapError, bind, Except.bind]
  | rules hload h =>
    simp [prepare, Context.load, Scanner.ofConfig, hload, h, Except.mapError, bind, Except.bind]
  | globs hload hrules h =>
    simp [prepare, Context.load, Scanner.ofConfig, hload, hrules, h, Except.mapError, bind,
      Except.bind]
  | targets hload hrules hfilter h =>
    simp [prepare, Context.load, Scanner.ofConfig, hload, hrules, hfilter, h, Except.mapError,
      bind, Except.bind, pure, Except.pure]

theorem Passes.prepare_eq {c : Config} {p : Prepared} (h : x.Passes overrides baseDir c p) :
    x.prepare overrides baseDir = .ok p := by
  obtain ⟨hload, hrules, hfilter, hsettings, htargets⟩ := h
  obtain ⟨⟨rules, filter, settings⟩, targets⟩ := p
  simp only at hrules hfilter hsettings htargets
  simp [prepare, Context.load, Scanner.ofConfig, hload, hrules, hfilter, hsettings, htargets,
    Except.mapError, bind, Except.bind, pure, Except.pure]

variable (x overrides baseDir)

variable (o : ScanOptions)

/-- The first stage of a scan that fails, and why it does. -/
inductive ScanStops : Failure → Prop
  | noWorkDir (h : x.env.workDir? = none) : ScanStops .noWorkDir
  | later {f : Failure} (hdir : x.env.workDir? = some x.env.workDir)
      (h : x.Stops (o.overrides x.env.workDir) o.baseDir f) : ScanStops f

/-- No stage of a scan fails. -/
structure ScanPasses (c : Config) (p : Prepared) : Prop where
  workDir : x.env.workDir? = some x.env.workDir
  later : x.Passes (o.overrides x.env.workDir) o.baseDir c p

variable {x o}

theorem ScanStops.prepareScan_eq {f : Failure} (h : x.ScanStops o f) :
    x.prepareScan o = .error f := by
  cases h with
  | noWorkDir h => rw [prepareScan, h]
  | later hdir h =>
    rw [prepareScan, hdir]
    exact prepare_of_stops h

theorem ScanPasses.prepareScan_eq {c : Config} {p : Prepared} (h : x.ScanPasses o c p) :
    x.prepareScan o = .ok p := by
  rw [prepareScan, h.workDir]
  exact h.later.prepare_eq

end Context

/-! ## Command lines -/

/-- A command line that asks for a request. -/
structure CommandLine (request : Request) where
  words : List String
  invocation : Invocation
  reads : Invocation.ofWords words = .ok invocation
  asks : invocation.request = request

namespace CommandLine

variable {request : Request} (l : CommandLine request) (env : Environment) (machine : Machine)
  (colors : Bool)

def context : Context :=
  l.invocation.context env machine colors (logFilter env l.invocation.verbose).shows

def outcome : Outcome := (l.context env machine colors).run request

def result : Result := runProgram env machine colors l.words

theorem run_eq_outcome :
    l.invocation.run env machine colors (logFilter env l.invocation.verbose).shows =
      l.outcome env machine colors :=
  congrArg (l.context env machine colors).run l.asks

variable {env machine colors}

theorem result_of_finished {status : ExitStatus}
    (h : (l.outcome env machine colors).ending = .finished status) :
    l.result env machine colors = ⟨(l.outcome env machine colors).printed, status.code⟩ := by
  simp only [result, runProgram, l.reads, run_eq_outcome, h, Printed.append_empty]
  rfl

end CommandLine

end Cli

/-! ## Roots that are texts -/

namespace Path

/-- Its bytes are a text. -/
def IsText (p : Path) : Prop := ∃ s, p = .ofString s

theorem IsText.isValid {p : Path} (h : p.IsText) : Utf8.isValid p.bytes = true := by
  obtain ⟨s, rfl⟩ := h
  exact Utf8.isValid_ofString s

theorem IsText.join {p q : Path} (hp : p.IsText) (hq : q.IsText) : (p.join q).IsText := by
  obtain ⟨s, rfl⟩ := hp
  obtain ⟨t, rfl⟩ := hq
  unfold Path.join
  split
  · exact ⟨t, rfl⟩
  · split
    · exact ⟨s ++ t, by simp only [ofString, Utf8.ofString_append]⟩
    · refine ⟨s ++ ("/" ++ t), ?_⟩
      have hslash : Utf8.ofString "/" = [slash] := by cbv
      simp only [ofString, Utf8.ofString_append, hslash, List.singleton_append]

end Path

theorem isText_of_expandHome {path : String} {home : Option Path}
    (hhome : ∀ h ∈ home, h.IsText) {p : Path} (hp : expandHome path home = some p) : p.IsText := by
  unfold expandHome at hp
  split at hp
  · exact hhome p hp
  · obtain ⟨h, hh, rfl⟩ := Option.map_eq_some_iff.1 hp
    exact (hhome h hh).join ⟨_, rfl⟩
  · exact ⟨path, (Option.some.inj hp).symm⟩

theorem isText_of_resolveRoot {path : String} {base home : Option Path}
    (hbase : ∀ b ∈ base, b.IsText) (hhome : ∀ h ∈ home, h.IsText) {root : Path}
    (h : resolveRoot path base home = some root) : root.IsText := by
  obtain ⟨p, hp, hroot⟩ := Option.bind_eq_some_iff.1 h
  have htext := isText_of_expandHome hhome hp
  split at hroot
  · exact Option.some.inj hroot ▸ htext
  · obtain ⟨b, hb, rfl⟩ := Option.map_eq_some_iff.1 hroot
    exact (hbase b hb).join htext

theorem Config.isText_base (c : Config) {override home base : Option Path}
    (hoverride : ∀ d ∈ override, d.IsText) (hhome : ∀ h ∈ home, h.IsText)
    (h : c.base override home = .ok base) : ∀ b ∈ base, b.IsText := by
  unfold Config.base at h
  split at h
  · obtain rfl := Except.ok.inj h
    exact hoverride
  · split at h
    · next p hp =>
      obtain rfl := Except.ok.inj h
      intro b hb
      obtain rfl := Option.mem_some.1 hb
      exact isText_of_expandHome hhome hp
    · cases h
  · obtain rfl := Except.ok.inj h
    exact hhome

theorem Config.isText_of_resolveTargets {c : Config} {override home : Option Path}
    (hoverride : ∀ d ∈ override, d.IsText) (hhome : ∀ h ∈ home, h.IsText)
    {targets : List ScanTarget} (h : c.resolveTargets override home = .ok targets) :
    ∀ t ∈ targets, t.root.IsText := by
  unfold Config.resolveTargets at h
  cases hbase : c.base override home with
  | error e => simp [hbase, bind, Except.bind] at h
  | ok base =>
    simp only [hbase, bind, Except.bind, mapM_eq_ok_iff] at h
    intro t ht
    obtain ⟨entry, -, hentry⟩ := exists_mem_of_forall₂ h ht
    unfold resolveTarget at hentry
    split at hentry
    · next root hroot =>
      obtain rfl := Except.ok.inj hentry
      exact isText_of_resolveRoot (c.isText_base hoverride hhome hbase) hhome hroot
    · cases hentry

end ConstantScan
