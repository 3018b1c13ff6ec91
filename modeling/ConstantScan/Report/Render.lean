import ConstantScan.Report.Json
import ConstantScan.Report.Text

/-! # The formats of reports -/

namespace ConstantScan

inductive ReportFormat
  | text
  | json
  deriving DecidableEq, Repr

def ReportFormat.name : ReportFormat → String
  | text => "text"
  | json => "json"

def ReportFormat.all : List ReportFormat := [.text, .json]

def ReportFormat.ofName? (name : String) : Option ReportFormat := all.find? (·.name == name)

theorem ReportFormat.ofName?_name (f : ReportFormat) : ofName? f.name = some f := by
  cases f <;> decide

def Report.render (rules : RuleSet) (r : Report) (format : ReportFormat) (color : Bool) :
    Report.Rendering :=
  match format with
  | .text => .body (r.text color rules)
  | .json => r.json

end ConstantScan
