import ConstantScan.Path

/-! # Findings and reports -/

namespace ConstantScan

/-- A rule that matches a line of a file of a target. -/
structure Finding where
  target : String
  /-- The place of the file under the root of the target. -/
  file : String
  line : Nat
  /-- The line without the blanks around it. -/
  text : String
  rule : String
  deriving DecidableEq, Repr

inductive TargetStatus
  | missing
  | scanned (filesScanned filesSkipped findings : Nat)
  deriving DecidableEq, Repr

structure TargetSummary where
  label : String
  root : Path
  status : TargetStatus
  deriving DecidableEq, Repr

def TargetSummary.findings (s : TargetSummary) : Nat :=
  match s.status with
  | .missing => 0
  | .scanned _ _ n => n

/-! ## Findings in the order in which they arrive -/

abbrev Findings := List Finding

structure TargetGroup where
  label : String
  findings : List Finding
  deriving DecidableEq, Repr

namespace Findings

/-- A finding that is there already is added like any other. -/
def add (fs : Findings) (f : Finding) : Findings := fs ++ [f]

def addAll (fs : Findings) (more : List Finding) : Findings := fs ++ more

def ofTarget (fs : Findings) (label : String) : Findings := fs.filter (·.target == label)

def ofRule (fs : Findings) (name : String) : Findings := fs.filter (·.rule == name)

def countFor (fs : Findings) (label : String) : Nat := (fs.ofTarget label).length

/-- Puts a finding in front of those of its target, or behind all groups in one of its own. -/
def addToGroups (f : Finding) : List TargetGroup → List TargetGroup
  | [] => [⟨f.target, [f]⟩]
  | g :: gs =>
    if g.label = f.target then { g with findings := f :: g.findings } :: gs
    else g :: addToGroups f gs

/-- The findings of each target; the targets are in the order of their first findings. -/
def groups (fs : Findings) : List TargetGroup :=
  let lastFirst := fs.foldl (fun gs f => addToGroups f gs) []
  lastFirst.map fun g => { g with findings := g.findings.reverse }

def sortedGroups (fs : Findings) : List TargetGroup :=
  (groups fs).mergeSort fun a b => a.label ≤ b.label

end Findings

/-- The order by target, file, line and rule. -/
def Finding.compare (a b : Finding) : Ordering :=
  (Ord.compare a.target b.target).then <|
    (Ord.compare a.file b.file).then <|
      (Ord.compare a.line b.line).then (Ord.compare a.rule b.rule)

def Findings.canonical (fs : Findings) : Findings := fs.mergeSort fun a b => (a.compare b).isLE

/-! ## Reports -/

structure Report where
  /-- In the order in which the targets were given. -/
  targets : List TargetSummary
  findings : Findings
  deriving DecidableEq, Repr

inductive ExitStatus
  | clean
  | issuesFound
  deriving DecidableEq, Repr

def ExitStatus.code : ExitStatus → Nat
  | clean => 0
  | issuesFound => 1

namespace Report

def total (r : Report) : Nat := r.findings.length

def isClean (r : Report) : Bool := r.findings.isEmpty

def targetsWithIssues (r : Report) : Nat := r.findings.groups.length

def countFor (r : Report) (label : String) : Nat := r.findings.countFor label

def exitStatus (r : Report) : ExitStatus := if r.isClean then .clean else .issuesFound

theorem exitStatus_eq_clean_iff (r : Report) : r.exitStatus = .clean ↔ r.findings = [] := by
  cases h : r.findings <;> simp [exitStatus, isClean, h]

end Report

end ConstantScan
