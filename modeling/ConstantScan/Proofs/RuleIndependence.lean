import ConstantScan.Proofs.Enumeration
import ConstantScan.Proofs.RuleSets
import Mathlib

/-!
# Rules do not touch one another

What a run finds by one rule depends on the expression of that rule, not on the other rules of the
set, and no rule has a part in which files are scanned.
-/

namespace ConstantScan

/-! ## Lines, contents and files -/

namespace RuleSet

theorem filter_scanLine (rules : RuleSet) (name : String) (number : Nat) (line : List Char) :
    (rules.scanLine number line).filter (·.rule == name) =
      (rules.regexOf? name).toList.flatMap fun regex =>
        if regex.isFoundIn line then [⟨number, String.ofList line, name⟩] else [] := by
  have hswap : (rules.rules.filter (·.matchesLine line)).filter (·.name == name) =
      (rules.find? name).toList.filter (·.matchesLine line) := by
    rw [List.filter_filter, ← filter_name, List.filter_filter]
    simp only [Bool.and_comm]
  rw [scanLine, matching, List.filter_map]
  simp only [Function.comp_def]
  rw [hswap, regexOf?]
  cases hfind : rules.find? name with
  | none => rfl
  | some rule =>
    have hname : rule.name = name := by simpa using List.find?_some hfind
    cases hmatch : rule.regex.isFoundIn line <;> simp [Rule.matchesLine, hmatch, hname]

theorem filter_scan_congr {rules rules' : RuleSet} {name : String}
    (h : rules'.regexOf? name = rules.regexOf? name) (content : Bytes) :
    (rules'.scan content).filter (·.rule == name) =
      (rules.scan content).filter (·.rule == name) := by
  simp only [scan, scanLines, List.filter_flatMap, filter_scanLine, h]

theorem isScanned_scanFile (rules rules' : RuleSet) (settings : ScanSettings) (t : FileTree)
    (p : Path) :
    (scanFile rules' settings t p).isScanned = (scanFile rules settings t p).isScanned := by
  unfold scanFile
  cases loadFile settings t p <;> rfl

theorem filter_found_congr {rules rules' : RuleSet} {name : String}
    (h : rules'.regexOf? name = rules.regexOf? name) (settings : ScanSettings) (t : FileTree)
    (p : Path) :
    (scanFile rules' settings t p).found.filter (·.rule == name) =
      (scanFile rules settings t p).found.filter (·.rule == name) := by
  unfold scanFile
  cases loadFile settings t p with
  | error reason => rfl
  | ok content => exact filter_scan_congr h content

/-- Only rules of the set are reported. -/
theorem rule_of_mem_scan {rules : RuleSet} {content : Bytes} {m : LineMatch}
    (h : m ∈ rules.scan content) : ∃ rule ∈ rules.rules, rule.name = m.rule := by
  obtain ⟨⟨line, number⟩, -, hm⟩ := List.mem_flatMap.1 h
  obtain ⟨rule, hrule, rfl⟩ := List.mem_map.1 hm
  exact ⟨rule, (List.mem_filter.1 hrule).1, rfl⟩

theorem rule_of_mem_found {rules : RuleSet} {settings : ScanSettings} {t : FileTree} {p : Path}
    {m : LineMatch} (h : m ∈ (scanFile rules settings t p).found) :
    ∃ rule ∈ rules.rules, rule.name = m.rule := by
  unfold scanFile at h
  cases hload : loadFile settings t p with
  | error reason => simp [hload, FileOutcome.found] at h
  | ok content =>
    rw [hload] at h
    exact rule_of_mem_scan h

end RuleSet

/-- What a summary says, but for the findings. -/
def TargetSummary.files (t : TargetSummary) : String × Path × Option (Nat × Nat) :=
  (t.label, t.root,
    match t.status with
    | .missing => none
    | .scanned scanned skipped _ => some (scanned, skipped))

namespace Scanner

/-! ## Scanners that differ in their rules -/

/-- The scanners look at the same files in the same way. -/
structure SameFiles (s s' : Scanner) : Prop where
  filter : s'.filter = s.filter
  settings : s'.settings = s.settings

namespace SameFiles

variable {s s' : Scanner} (h : s.SameFiles s') (env : Environment)

include h

theorem walker : s'.walker = s.walker := by rw [Scanner.walker, h.filter, h.settings]; rfl

theorem isScanned_outcomeOf (p : Path) :
    (s'.outcomeOf env p).isScanned = (s.outcomeOf env p).isScanned := by
  rw [outcomeOf, h.settings]
  exact RuleSet.isScanned_scanFile ..

theorem files_targetSummary (target : ScanTarget) :
    (s'.targetSummary env target).files = (s.targetSummary env target).files := by
  simp only [targetSummary, TargetSummary.files, targetStatus, h.walker, h.isScanned_outcomeOf]
  split_ifs <;> rfl

theorem ofRule_targetFindings {name : String}
    (hname : s'.rules.regexOf? name = s.rules.regexOf? name) (target : ScanTarget) :
    (s'.targetFindings env target).ofRule name = (s.targetFindings env target).ofRule name := by
  have hfile (p : Path) :
      ((s'.outcomeOf env p).found.map (·.attribute target p)).filter (·.rule == name) =
        ((s.outcomeOf env p).found.map (·.attribute target p)).filter (·.rule == name) := by
    rw [List.filter_map, List.filter_map, outcomeOf, h.settings]
    exact congrArg _ (RuleSet.filter_found_congr hname ..)
  simp only [targetFindings, Findings.ofRule, List.filter_flatMap, h.walker, hfile]

theorem ofRule_run {name : String} (hname : s'.rules.regexOf? name = s.rules.regexOf? name)
    (machine machine' : Machine) (targets : List ScanTarget) :
    (s'.run env machine' targets).1.findings.ofRule name =
      (s.run env machine targets).1.findings.ofRule name := by
  rw [run_eq, run_eq, Findings.ofRule, Findings.ofRule, List.filter_flatMap, List.filter_flatMap]
  exact List.flatMap_congr fun target _ => h.ofRule_targetFindings env hname target

theorem files_run (machine machine' : Machine) (targets : List ScanTarget) :
    (s'.run env machine' targets).1.targets.map TargetSummary.files =
      (s.run env machine targets).1.targets.map TargetSummary.files := by
  rw [run_eq, run_eq, List.map_map, List.map_map]
  exact List.map_congr_left fun target _ => h.files_targetSummary env target

end SameFiles

theorem rule_of_mem_run {s : Scanner} {env : Environment} {machine : Machine}
    {targets : List ScanTarget} {f : Finding} (h : f ∈ (s.run env machine targets).1.findings) :
    ∃ rule ∈ s.rules.rules, rule.name = f.rule := by
  rw [run_eq] at h
  obtain ⟨target, -, hf⟩ := List.mem_flatMap.1 h
  obtain ⟨p, -, hf⟩ := List.mem_flatMap.1 hf
  obtain ⟨m, hm, rfl⟩ := List.mem_map.1 hf
  exact RuleSet.rule_of_mem_found hm

/-! ## Configurations that differ in their rules -/

/-- A rule that two rule sets have in common finds the same, whatever else is in them. -/
theorem SameFiles.ofRule_run_of_source {s s' : Scanner} (h : s.SameFiles s')
    {settings settings' : RuleSettings} {read : RegexReader}
    (hrules : RuleSet.ofSettings settings read = .ok s.rules)
    (hrules' : RuleSet.ofSettings settings' read = .ok s'.rules) {rule rule' : Rule}
    (hrule : rule ∈ s.rules.rules) (hrule' : rule' ∈ s'.rules.rules)
    (hname : rule'.name = rule.name) (hsource : rule'.source = rule.source) (env : Environment)
    (machine machine' : Machine) (targets : List ScanTarget) :
    (s'.run env machine' targets).1.findings.ofRule rule.name =
      (s.run env machine targets).1.findings.ofRule rule.name := by
  refine h.ofRule_run env ?_ machine machine' targets
  have hread' := RuleSet.read_source hrules' hrule'
  rw [hsource, RuleSet.read_source hrules hrule] at hread'
  rw [← hname, RuleSet.regexOf?_of_mem hrule', hname, RuleSet.regexOf?_of_mem hrule,
    Except.ok.inj hread']

theorem asked_of_mem_run {s : Scanner} {settings : RuleSettings} {read : RegexReader}
    (hrules : RuleSet.ofSettings settings read = .ok s.rules) {env : Environment}
    {machine : Machine} {targets : List ScanTarget} {f : Finding}
    (h : f ∈ (s.run env machine targets).1.findings) :
    ∃ asked ∈ settings.active, asked.name = f.rule := by
  obtain ⟨rule, hrule, hname⟩ := rule_of_mem_run h
  obtain ⟨asked, hasked, haname, -⟩ := (RuleSet.mem_active_iff hrules).2 ⟨rule, hrule, hname, rfl⟩
  exact ⟨asked, hasked, haname⟩

theorem parts_of_ofConfig {c : Config} {libs : Libraries} {s : Scanner}
    (h : ofConfig c libs = .ok s) :
    RuleSet.ofSettings c.patterns libs.readRegex = .ok s.rules ∧
      FileFilter.ofSettings c.scanner libs.joinGlobs = .ok s.filter ∧ s.settings = c.scanner := by
  simp only [ofConfig, bind, Except.bind, pure, Except.pure] at h
  cases hrules : RuleSet.ofSettings c.patterns libs.readRegex with
  | error e => simp [hrules, Except.mapError] at h
  | ok rules =>
    cases hfilter : FileFilter.ofSettings c.scanner libs.joinGlobs with
    | error e => simp [hrules, hfilter, Except.mapError] at h
    | ok filter =>
      simp only [hrules, hfilter, Except.mapError, Except.ok.injEq] at h
      subst h
      exact ⟨rfl, rfl, rfl⟩

/-- A rule that two configurations ask for finds the same with both, whatever other rules they ask
for, and the same files are scanned; nothing is found by a rule that is not asked for. -/
theorem run_of_rules (c : Config) (libs : Libraries) {p p' : RuleSettings} {s s' : Scanner}
    (hs : ofConfig { c with patterns := p } libs = .ok s)
    (hs' : ofConfig { c with patterns := p' } libs = .ok s') (env : Environment)
    (machine machine' : Machine) (targets : List ScanTarget) :
    let r := (s.run env machine targets).1
    let r' := (s'.run env machine' targets).1
    (∀ rule ∈ s.rules.rules, ∀ rule' ∈ s'.rules.rules, rule'.name = rule.name →
        rule'.source = rule.source →
        r'.findings.ofRule rule.name = r.findings.ofRule rule.name) ∧
      r'.targets.map TargetSummary.files = r.targets.map TargetSummary.files ∧
      (∀ asked ∈ p.active, ∀ asked' ∈ p'.active, asked'.name = asked.name →
        asked'.regex = asked.regex →
        r'.findings.ofRule asked.name = r.findings.ofRule asked.name) ∧
      (∀ f ∈ r.findings, ∃ asked ∈ p.active, asked.name = f.rule) ∧
      ∀ f ∈ r'.findings, ∃ asked ∈ p'.active, asked.name = f.rule := by
  obtain ⟨hrules, hfilter, hsettings⟩ := parts_of_ofConfig hs
  obtain ⟨hrules', hfilter', hsettings'⟩ := parts_of_ofConfig hs'
  have hsame : s.SameFiles s' :=
    ⟨Except.ok.inj (hfilter'.symm.trans hfilter), hsettings'.trans hsettings.symm⟩
  refine ⟨?_, hsame.files_run env machine machine' targets, ?_,
    fun f hf => asked_of_mem_run hrules hf, fun f hf => asked_of_mem_run hrules' hf⟩
  · intro rule hrule rule' hrule' hname hsource
    exact hsame.ofRule_run_of_source hrules hrules' hrule hrule' hname hsource env machine machine'
      targets
  · -- What is asked for with one name and one expression is compiled to such rules.
    intro asked hasked asked' hasked' hname hregex
    obtain ⟨rule, hrule, hrname, hrsource⟩ :=
      (RuleSet.mem_active_iff hrules).1 ⟨asked, hasked, rfl, rfl⟩
    obtain ⟨rule', hrule', hrname', hrsource'⟩ :=
      (RuleSet.mem_active_iff hrules').1 ⟨asked', hasked', rfl, rfl⟩
    rw [← hrname]
    exact hsame.ofRule_run_of_source hrules hrules' hrule hrule'
      (hrname'.trans (hname.trans hrname.symm)) (hrsource'.trans (hregex.trans hrsource.symm))
      env machine machine' targets

/-- A custom rule takes the name of a built-in rule that is left out. -/
def otherRules : RuleSettings where
  disabled := ["python_pow"]
  custom := [{ name := "pi", regex := "3\\.14" }, { name := "python_pow", regex := "pow" }]

/-- `/repo` with one line that several rules match. -/
def powSources : Environment where
  files :=
    { root := .dir [(Utf8.encode "repo".toList,
        .dir [(Utf8.encode "a.py".toList, .file (Utf8.encode "Math.pow(2.71, 3.14)".toList))])]
      current := [] }
  vars := []

theorem rules_powSources {p : RuleSettings} {s : Scanner}
    (h : ofConfig { patterns := p } = .ok s) (machine : Machine) :
    (s.run powSources machine [letterTarget]).1.findings.map (·.rule) =
      (p.active.filter fun r => (Regex.read r.regex).toOption.any
        (·.isFoundIn "Math.pow(2.71, 3.14)".toList)).map RuleSource.name := by
  obtain ⟨hrules, hfilter, hsettings⟩ := parts_of_ofConfig h
  have hread : FileFilter.ofSettings {} FileFilter.joinAny =
      .ok ⟨.ofList ({} : ScanSettings).extensions, .ofList ({} : ScanSettings).excludeDirs, []⟩ := by
    cbv
  have hscanned : s.scannedFiles powSources letterTarget = [.ofString "/repo/a.py"] := by
    obtain ⟨rules, filter, settings⟩ := s
    simp only at hfilter hsettings
    obtain rfl := Except.ok.inj (hread.symm.trans hfilter)
    subst hsettings
    cbv
  have hcontent : powSources.files.read (.ofString "/repo/a.py") =
      .ok (Utf8.encode "Math.pow(2.71, 3.14)".toList) := by cbv
  have hline : textLines (Utf8.decode (Utf8.encode "Math.pow(2.71, 3.14)".toList)) =
      ["Math.pow(2.71, 3.14)".toList] := by cbv
  rw [run_eq, List.flatMap_singleton, targetFindings_eq, hscanned, List.flatMap_singleton, hcontent,
    ← RuleSet.names_matching hrules]
  simp only [Except.toOption, Option.toList_some, List.flatMap_singleton,
    s.contentFindings_of_line _ _ hline, List.map_map]
  simp [Function.comp_def]

theorem run_of_rules_other :
    ∃ s s', ofConfig {} = .ok s ∧ ofConfig { patterns := otherRules } = .ok s' ∧
      let r := (s.run powSources (.orderly 1) [letterTarget]).1
      let r' := (s'.run powSources (.orderly 4) [letterTarget]).1
      r.findings.map (·.rule) = ["python_pow", "js_java_pow"] ∧
      r'.findings.map (·.rule) = ["js_java_pow", "pi", "python_pow"] ∧
      r'.findings.ofRule "js_java_pow" = r.findings.ofRule "js_java_pow" := by
  obtain ⟨s, hs⟩ := exists_of_isOk (r := ofConfig {}) (by decide +kernel)
  obtain ⟨s', hs'⟩ := exists_of_isOk (r := ofConfig { patterns := otherRules }) (by decide +kernel)
  refine ⟨s, s', hs, hs', ?_, ?_, ?_⟩
  · rw [rules_powSources hs]
    decide +kernel
  · rw [rules_powSources hs']
    decide +kernel
  · have hasked : builtinSources[2] ∈ ({} : RuleSettings).active := by decide
    have hasked' : builtinSources[2] ∈ otherRules.active := by decide
    exact (run_of_rules {} {} hs hs' powSources (.orderly 1) (.orderly 4)
      [letterTarget]).2.2.1 _ hasked _ hasked' rfl rfl

end Scanner

end ConstantScan
