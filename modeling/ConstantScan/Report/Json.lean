import ConstantScan.Report.Basic
import ConstantScan.Json.Printer

/-! # Reports for programs -/

namespace ConstantScan

def Finding.value (f : Finding) : Value :=
  .dict [("line_number", .number (.unsigned f.line)), ("line_text", .string f.text),
    ("pattern_name", .string f.rule), ("relative_file_path", .string f.file),
    ("target_label", .string f.target)]

/-- Nothing if the root is no text. -/
def TargetSummary.value? (s : TargetSummary) : Option Value :=
  if Utf8.isValid s.root.bytes then
    let label := ("label", Value.string s.label)
    let root := ("root", Value.string s.root.toString)
    match s.status with
    | .missing => some (.dict [label, root, ("status", .string "missing")])
    | .scanned scanned skipped findings =>
      some (.dict [("files_scanned", .number (.unsigned scanned)),
        ("files_skipped", .number (.unsigned skipped)),
        ("findings", .number (.unsigned findings)), label, root, ("status", .string "scanned")])
  else none

namespace Report

def summaryValue (r : Report) : Value :=
  .dict [("configured_targets", .number (.unsigned r.targets.length)),
    ("targets_with_issues", .number (.unsigned r.targetsWithIssues)),
    ("total_issues", .number (.unsigned r.total))]

def value? (r : Report) : Option Value :=
  (r.targets.mapM TargetSummary.value?).map fun targets =>
    .dict [("findings", .list (r.findings.map Finding.value)), ("summary", r.summaryValue),
      ("targets", .list targets)]

inductive Rendering
  | body (text : String)
  /-- The process ends at once: a root that is no text has no place in a document. -/
  | abort
  deriving DecidableEq, Repr

def json (r : Report) : Rendering :=
  match r.value? with
  | some v => .body (Json.pretty 0 v)
  | none => .abort

end Report

end ConstantScan
