import ConstantScan.Execution
import ConstantScan.Report.Basic
import ConstantScan.Scan.File
import ConstantScan.Scan.Log
import ConstantScan.Scan.Scanner
import ConstantScan.Target
import ConstantScan.Walk

/-! # Scanning targets -/

namespace ConstantScan

structure Progress where
  summaries : Array TargetSummary := #[]
  /-- What is found so far, in all targets. -/
  findings : Array Finding := #[]
  log : Array LogEntry := #[]

/-- What the files of a target have come to, beside what was found and told before. -/
structure Tally where
  scanned : Nat := 0
  skipped : Nat := 0
  findings : Array Finding
  log : Array LogEntry

def LineMatch.attribute (m : LineMatch) (target : ScanTarget) (file : Path) : Finding :=
  { target := target.label
    file := file.relativeText target.root
    line := m.line
    text := String.ofList (Unicode.trim m.text.toList)
    rule := m.rule }

def skipEntry (file : Path) (reason : SkipReason) : LogEntry :=
  ⟨.warning, "Could not scan " ++ file.toString ++ ": " ++ reason.message⟩

def Tally.add (target : ScanTarget) (t : Tally) (outcome : Path × FileOutcome) : Tally :=
  match outcome.2 with
  | .scanned found =>
    { t with
      scanned := t.scanned + 1
      findings := t.findings ++ found.map (·.attribute target outcome.1) }
  | .skipped reason =>
    { t with skipped := t.skipped + 1, log := t.log.push (skipEntry outcome.1 reason) }

namespace Scanner

def walker (s : Scanner) : Walker := .ofSettings s.filter s.settings

/-- The files of a root with what comes of scanning them, in the order of the walk. -/
def outcomes (s : Scanner) (env : Environment) (machine : Machine) (root : Path) :
    List (Path × FileOutcome) :=
  let files := s.walker.walk env root
  (Strategy.forWorkload s.settings machine.cores files.length).execute machine
    (fun p => (p, scanFile s.rules s.settings env.files p)) files

/-- Scans the next target of a run. What it adds to the findings is counted by how many there were
before. -/
def scanTarget (s : Scanner) (env : Environment) (machine : Machine) (p : Progress)
    (target : ScanTarget) : Progress :=
  let summary (status : TargetStatus) : TargetSummary :=
    { label := target.label, root := target.root, status }
  if env.files.exists target.root then
    let before := p.findings.size
    let start : Tally :=
      { findings := p.findings
        log := p.log.push ⟨.info, "Scanning " ++ target.label ++ "..."⟩ }
    let outcomes := s.outcomes env (machine.after p.summaries.size) target.root
    let t := outcomes.foldl (Tally.add target) start
    let found := t.findings.size - before
    { summaries := p.summaries.push (summary (.scanned t.scanned t.skipped found))
      findings := t.findings
      log := t.log.push ⟨.info, "Scanned " ++ toString t.scanned ++ " files, found " ++
        toString found ++ " issues"⟩ }
  else
    { p with
      summaries := p.summaries.push (summary .missing)
      log := p.log.push ⟨.warning, "Repository not found: " ++ target.label ++ " (" ++
        target.root.toString ++ ")"⟩ }

def run (s : Scanner) (env : Environment) (machine : Machine) (targets : List ScanTarget) :
    Report × List LogEntry :=
  let p := targets.foldl (s.scanTarget env machine) {}
  ({ targets := p.summaries.toList, findings := p.findings.toList }, p.log.toList)

end Scanner

end ConstantScan
