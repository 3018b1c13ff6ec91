import ConstantScan.Libraries
import ConstantScan.Rule.Builtin

/-! # Scanners: what a configuration says about a scan, read and checked -/

namespace ConstantScan

structure Scanner where
  rules : RuleSet
  filter : FileFilter
  settings : ScanSettings

inductive ScannerError
  | rule (error : RuleError)
  | filter (error : FilterError)
  deriving DecidableEq, Repr

namespace ScannerError

def message : ScannerError → String
  | rule e => e.message
  | filter e => e.message

def causes : ScannerError → List String
  | rule e => e.causes
  | filter e => e.causes

end ScannerError

/-- Rules are read before globs. -/
def Scanner.ofConfig (c : Config) (libs : Libraries := {}) : Except ScannerError Scanner := do
  let rules ← (RuleSet.ofSettings c.patterns libs.readRegex).mapError .rule
  let filter ← (FileFilter.ofSettings c.scanner libs.joinGlobs).mapError .filter
  return { rules, filter, settings := c.scanner }

end ConstantScan
