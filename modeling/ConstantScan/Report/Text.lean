import ConstantScan.Report.Basic
import ConstantScan.Rule.Basic
import ConstantScan.Text.Style

/-! # Reports for people -/

namespace ConstantScan.Report

def noIssuesMessage : String := "No hardcoded constant approximations found!"

/-- How many characters a line across the report takes. -/
def ruleWidth : Nat := 70

def heavyRule : String := String.ofList (List.replicate ruleWidth '=')

def lightRule : String := String.ofList (List.replicate ruleWidth '─')

def plural (count : Nat) (one many : String) : String := if count = 1 then one else many

variable (color : Bool)

def titleLines (mark title : String) : List String :=
  [heavyRule, mark ++ " " ++ Style.bold.paint color title, heavyRule]

def findingLines (f : Finding) : List String :=
  ["  " ++ (Style.colored .cyan).paint color (f.file ++ ":" ++ toString f.line) ++ " " ++
      (Style.boldColored .red).paint color ("[" ++ f.rule ++ "]"),
    "      " ++ Style.dim.paint color f.text]

def groupLines (g : TargetGroup) : List String :=
  let count := g.findings.length
  let counted := "(" ++ toString count ++ " " ++ plural count "issue" "issues" ++ ")"
  ["", "📂 " ++ (Style.boldColored .cyan).paint color g.label ++ " " ++
      Style.dim.paint color counted,
    Style.dim.paint color lightRule] ++ g.findings.flatMap (findingLines color)

/-- The advice of the rules that have findings, in the order of the set. -/
def hints (rules : RuleSet) (r : Report) : List String :=
  (rules.rules.filter fun rule =>
    !rule.remediation.isEmpty && !(r.findings.ofRule rule.name).isEmpty).map Rule.remediation

def adviceLines (rules : RuleSet) (r : Report) : List String :=
  ["", "🎯 " ++ Style.bold.paint color "RECOMMENDED ACTIONS:",
    "1. Review each finding to confirm it's a precision issue"] ++
    ((hints rules r).zipIdx 2).map fun (hint, i) => toString i ++ ". " ++ hint

def summaryLines (r : Report) : List String :=
  [""] ++ titleLines color "📊" "SUMMARY" ++
    ["Targets scanned: " ++ toString r.targets.length,
      "Targets with issues: " ++ toString r.targetsWithIssues,
      "Total issues found: " ++ Style.bold.paint color (toString r.total)]

def bodyLines (rules : RuleSet) (r : Report) : List String :=
  if r.isClean then
    let green := (Style.colored .green).paint color
    ["", green "✅" ++ " " ++ green noIssuesMessage]
  else
    let found :=
      "FOUND " ++ toString r.total ++ " POTENTIAL PRECISION " ++
        plural r.total "ISSUE" "ISSUES" ++ ":"
    ["", (Style.colored .red).paint color "❌" ++ " " ++
        (Style.boldColored .red).paint color found] ++
      r.findings.sortedGroups.flatMap (groupLines color) ++ summaryLines color r ++
      adviceLines color rules r

/-- The report as lines of text; targets are sorted by label. -/
def text (rules : RuleSet) (r : Report) : String :=
  String.join ((titleLines color "🔍" "HARDCODED CONSTANT SCAN RESULTS" ++
    bodyLines color rules r).map (· ++ "\n"))

end ConstantScan.Report
