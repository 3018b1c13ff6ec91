import ConstantScan.Proofs.Execution
import ConstantScan.Proofs.Walk
import ConstantScan.Scan.Run

/-!
# What a run comes to

A run goes from target to target and from file to file and gathers as it goes. Here what it has
gathered at the end is said target by target, without the machine.
-/

namespace ConstantScan

/-- Settings that make the same filter make the same scanner, but for the settings themselves. -/
theorem Scanner.ofConfig_map_settings {f : ScanSettings → ScanSettings} (libs : Libraries)
    (hf : ∀ settings, FileFilter.ofSettings (f settings) libs.joinGlobs =
      FileFilter.ofSettings settings libs.joinGlobs) (c : Config) :
    ofConfig { c with scanner := f c.scanner } libs =
      (ofConfig c libs).map fun s => { s with settings := f s.settings } := by
  rw [ofConfig, ofConfig, hf]
  cases RuleSet.ofSettings c.patterns libs.readRegex with
  | error _ => rfl
  | ok _ => cases FileFilter.ofSettings c.scanner libs.joinGlobs <;> rfl

/-! ## The files of a target -/

def FileOutcome.isScanned : FileOutcome → Bool
  | scanned _ => true
  | skipped _ => false

theorem Tally.foldl_add (target : ScanTarget) (outcomes : List (Path × FileOutcome)) (t : Tally) :
    (outcomes.foldl (Tally.add target) t).scanned =
        t.scanned + outcomes.countP (·.2.isScanned) ∧
      (outcomes.foldl (Tally.add target) t).skipped =
        t.skipped + outcomes.countP (!·.2.isScanned) ∧
      (outcomes.foldl (Tally.add target) t).findings.toList =
        t.findings.toList ++ outcomes.flatMap fun o => o.2.found.map (·.attribute target o.1) := by
  induction outcomes generalizing t with
  | nil => simp
  | cons o outcomes ih =>
    obtain ⟨hscanned, hskipped, hfindings⟩ := ih (t.add target o)
    rw [List.foldl_cons, hscanned, hskipped, hfindings]
    obtain ⟨p, found | reason⟩ := o
    · simp [Tally.add, FileOutcome.isScanned, FileOutcome.found]; omega
    · simp [Tally.add, FileOutcome.isScanned, FileOutcome.found]; omega

namespace Scanner

variable (s : Scanner) (env : Environment)

def outcomeOf (p : Path) : FileOutcome := scanFile s.rules s.settings env.files p

theorem outcomes_eq (machine : Machine) (root : Path) :
    s.outcomes env machine root = (s.walker.walk env root).map fun p => (p, s.outcomeOf env p) :=
  Strategy.execute_eq_map ..

/-- What a target adds to the findings. -/
def targetFindings (target : ScanTarget) : Findings :=
  (s.walker.walk env target.root).flatMap fun p =>
    (s.outcomeOf env p).found.map (·.attribute target p)

def targetStatus (target : ScanTarget) : TargetStatus :=
  if env.files.exists target.root then
    let files := s.walker.walk env target.root
    .scanned (files.countP fun p => (s.outcomeOf env p).isScanned)
      (files.countP fun p => !(s.outcomeOf env p).isScanned) (s.targetFindings env target).length
  else .missing

def targetSummary (target : ScanTarget) : TargetSummary :=
  { label := target.label, root := target.root, status := s.targetStatus env target }

theorem targetFindings_of_not_exists {target : ScanTarget}
    (h : env.files.exists target.root = false) : s.targetFindings env target = [] := by
  simp [targetFindings, s.walker.walk_of_not_exists env h]

/-! ## The targets of a run -/

theorem scanTarget_eq (machine : Machine) (p : Progress) (target : ScanTarget) :
    (s.scanTarget env machine p target).summaries.toList =
        p.summaries.toList ++ [s.targetSummary env target] ∧
      (s.scanTarget env machine p target).findings.toList =
        p.findings.toList ++ s.targetFindings env target := by
  unfold scanTarget targetSummary targetStatus
  cases h : env.files.exists target.root with
  | false => simp [targetFindings_of_not_exists s env h]
  | true =>
    simp only [if_true, outcomes_eq]
    obtain ⟨hscanned, hskipped, hfindings⟩ := Tally.foldl_add target
      ((s.walker.walk env target.root).map fun p => (p, s.outcomeOf env p))
      { findings := p.findings
        log := p.log.push ⟨.info, "Scanning " ++ target.label ++ "..."⟩ }
    rw [List.flatMap_map] at hfindings
    have hfound := congrArg List.length hfindings
    simp only [Array.length_toList, List.length_append] at hfound
    refine ⟨?_, hfindings⟩
    simp only [Array.toList_push, hscanned, hskipped, hfound, List.countP_map, Nat.zero_add,
      Nat.add_sub_cancel_left]
    rfl

theorem foldl_scanTarget (machine : Machine) (targets : List ScanTarget) (p : Progress) :
    (targets.foldl (s.scanTarget env machine) p).summaries.toList =
        p.summaries.toList ++ targets.map (s.targetSummary env) ∧
      (targets.foldl (s.scanTarget env machine) p).findings.toList =
        p.findings.toList ++ targets.flatMap (s.targetFindings env) := by
  induction targets generalizing p with
  | nil => simp
  | cons target targets ih =>
    obtain ⟨hsummaries, hfindings⟩ := ih (s.scanTarget env machine p target)
    obtain ⟨hsummary, hfound⟩ := s.scanTarget_eq env machine p target
    rw [List.foldl_cons, hsummaries, hfindings, hsummary, hfound]
    simp

/-- A run reports each target on its own, in the order in which they are given. -/
theorem run_eq (machine : Machine) (targets : List ScanTarget) :
    (s.run env machine targets).1 =
      { targets := targets.map (s.targetSummary env)
        findings := targets.flatMap (s.targetFindings env) } := by
  obtain ⟨hsummaries, hfindings⟩ := s.foldl_scanTarget env machine targets {}
  simp only [run, hsummaries, hfindings, List.nil_append]

end Scanner

/-! ## Exit codes -/

namespace Report

variable (r : Report)

theorem code_eq_one_iff : r.exitStatus.code = 1 ↔ r.findings ≠ [] := by
  cases h : r.findings <;> simp [exitStatus, isClean, h, ExitStatus.code]

end Report

end ConstantScan
