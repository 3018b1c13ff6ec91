import ConstantScan.Config.Basic
import ConstantScan.Json.Printer
import ConstantScan.Toml.Printer
import ConstantScan.Yaml.Printer

/-! # Writing configurations -/

namespace ConstantScan

inductive ConfigFormat
  | toml
  | json
  | yaml
  deriving DecidableEq, Repr

def ConfigFormat.name : ConfigFormat → String
  | toml => "toml"
  | json => "json"
  | yaml => "yaml"

def ConfigFormat.all : List ConfigFormat := [.toml, .json, .yaml]

def ConfigFormat.ofName? (name : String) : Option ConfigFormat := all.find? (·.name == name)

theorem ConfigFormat.ofName?_name (f : ConfigFormat) : ofName? f.name = some f := by
  cases f <;> decide

/-! ## Values -/

def Value.strings (ss : List String) : Value := .list (ss.map .string)

def Value.natural (n : Nat) : Value := .number (.unsigned n)

def textEntry (key : String) (s : Option String) : List (String × Value) :=
  (s.map fun s => (key, Value.string s)).toList

def TargetEntry.value (t : TargetEntry) : Value :=
  .dict (textEntry "label" t.label ++ [("path", .string t.path)])

def ScanSettings.value (s : ScanSettings) : Value :=
  .dict [("extensions", .strings s.extensions), ("exclude_dirs", .strings s.excludeDirs),
    ("ignore_paths", .strings s.ignorePaths), ("follow_symlinks", .bool s.followSymlinks),
    ("respect_gitignore", .bool s.respectGitignore),
    ("skip_binary_files", .bool s.skipBinaryFiles),
    ("max_file_size_mb", .natural s.maxFileSizeMb), ("mode", .string s.mode.name),
    ("max_threads", .natural s.maxThreads), ("thread_percentage", .natural s.threadPercentage),
    ("min_files_for_parallel", .natural s.minFilesForParallel)]

def CustomRule.value (c : CustomRule) : Value :=
  .dict [("name", .string c.name), ("regex", .string c.regex),
    ("description", .string c.description), ("remediation", .string c.remediation),
    ("enabled", .bool c.enabled)]

def RuleSettings.value (r : RuleSettings) : Value :=
  .dict [("disabled", .strings r.disabled), ("custom", .list (r.custom.map CustomRule.value))]

namespace Config

/-- The entries of a configuration in the order in which they are written. -/
def entries (c : Config) : List (String × Value) :=
  textEntry "base_dir" c.baseDir ++
    [("targets", .list (c.targets.map TargetEntry.value)), ("scanner", c.scanner.value),
      ("patterns", c.patterns.value)]

def value (c : Config) : Value := .dict c.entries

end Config

/-! ## Documents -/

structure WriteError where
  format : ConfigFormat
  deriving DecidableEq, Repr

def WriteError.message (e : WriteError) : String :=
  let name := match e.format with
    | .toml => "TOML"
    | .json => "JSON"
    | .yaml => "YAML"
  "Failed to serialize configuration as " ++ name

def Config.write (c : Config) (format : ConfigFormat) : Except WriteError String :=
  match format with
  | .toml =>
    match Toml.print? c.entries with
    | some text => .ok text
    | none => .error ⟨.toml⟩
  | .json => .ok (Json.pretty 0 c.value)
  | .yaml => .ok (Yaml.print c.entries)

end ConstantScan
