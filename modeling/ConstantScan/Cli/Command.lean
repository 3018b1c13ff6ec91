import ConstantScan.Config.Format
import ConstantScan.Report.Render

/-! # The commands of the program and what they take -/

namespace ConstantScan.Cli

inductive Command
  | root
  | scan
  | patterns
  | config
  | showConfig
  | validateConfig
  /-- Prints the help of a command that is named after it. -/
  | help
  | configHelp
  deriving DecidableEq, Repr

namespace Command

def all : List Command :=
  [root, scan, patterns, config, showConfig, validateConfig, help, configHelp]

def words : Command → List String
  | root => ["precision-scan"]
  | scan => ["precision-scan", "scan"]
  | patterns => ["precision-scan", "patterns"]
  | config => ["precision-scan", "config"]
  | showConfig => ["precision-scan", "config", "show"]
  | validateConfig => ["precision-scan", "config", "validate"]
  | help => ["precision-scan", "help"]
  | configHelp => ["precision-scan", "config", "help"]

def name (c : Command) : String := c.words.getLast?.getD ""

def helpAbout : String := "Print this message or the help of the given subcommand(s)"

def about : Command → String
  | root =>
    "Fast scanner for hardcoded approximations of mathematical constants across source repositories"
  | scan => "Scan the configured targets (default)"
  | patterns => "List the active detection patterns"
  | config => "Configuration management"
  | showConfig => "Show the effective merged configuration"
  | validateConfig => "Validate configuration, patterns and target roots"
  | help | configHelp => helpAbout

def subcommands : Command → List Command
  | root => [scan, patterns, config, help]
  | config => [showConfig, validateConfig, configHelp]
  | _ => []

def subcommand? (c : Command) (name : String) : Option Command :=
  c.subcommands.find? (·.name == name)

def isHelp : Command → Bool
  | help | configHelp => true
  | _ => false

/-- Whether it does nothing without a subcommand. -/
def needsSubcommand : Command → Bool
  | config => true
  | _ => false

end Command

/-! ## Arguments -/

structure Choice where
  name : String
  help : Option String := none
  deriving DecidableEq, Repr

inductive Taken
  | nothing
  | path
  | names
  | choice (choices : List Choice)
  | count
  deriving DecidableEq, Repr

inductive Argument
  | paths
  /-- The command whose help is asked for. -/
  | topics
  | baseDir
  | config
  | reportFormat
  | configFormat
  | verbose
  | mode
  | noColor
  | extensions
  | excludeDirs
  | ignorePaths
  | maxThreads
  | help
  | version
  deriving DecidableEq, Repr

namespace Argument

/-- What follows two dashes; operands have none. -/
def long? : Argument → Option String
  | paths | topics => none
  | baseDir => some "base-dir"
  | config => some "config"
  | reportFormat | configFormat => some "format"
  | verbose => some "verbose"
  | mode => some "mode"
  | noColor => some "no-color"
  | extensions => some "extensions"
  | excludeDirs => some "exclude-dirs"
  | ignorePaths => some "ignore-paths"
  | maxThreads => some "max-threads"
  | help => some "help"
  | version => some "version"

/-- What follows one dash. -/
def short? : Argument → Option Char
  | config => some 'c'
  | verbose => some 'v'
  | help => some 'h'
  | version => some 'V'
  | _ => none

def reportChoice : ReportFormat → Choice
  | .text => ⟨ReportFormat.text.name, some "Human-readable text grouped by target"⟩
  | .json => ⟨ReportFormat.json.name, some "JSON document"⟩

def modeChoice : ScanMode → Choice
  | .auto => ⟨ScanMode.auto.name,
      some "Parallel once the file count reaches \x60min_files_for_parallel\x60"⟩
  | m => ⟨m.name, none⟩

def taken : Argument → Taken
  | verbose | noColor | help | version => .nothing
  | paths | topics | baseDir | config => .path
  | extensions | excludeDirs | ignorePaths => .names
  | reportFormat => .choice (ReportFormat.all.map reportChoice)
  | configFormat => .choice (ConfigFormat.all.map fun f => ⟨f.name, none⟩)
  | mode => .choice (ScanMode.all.map modeChoice)
  | maxThreads => .count

def choices (a : Argument) : List Choice :=
  match a.taken with
  | .choice cs => cs
  | _ => []

def default? : Argument → Option String
  | reportFormat => some ReportFormat.text.name
  | configFormat => some ConfigFormat.toml.name
  | _ => none

def isOperand : Argument → Bool
  | paths | topics => true
  | _ => false

/-- Whether it may be given more than once. -/
def repeats : Argument → Bool
  | paths | topics | extensions | excludeDirs | ignorePaths => true
  | _ => false

/-- What stands for the value in help texts. -/
def valueName : Argument → String
  | paths => "PATH"
  | topics => "COMMAND"
  | baseDir => "DIR"
  | config => "FILE"
  | reportFormat | configFormat => "FORMAT"
  | mode => "MODE"
  | extensions => "EXTENSIONS"
  | excludeDirs => "EXCLUDE_DIRS"
  | ignorePaths => "IGNORE_PATHS"
  | maxThreads => "MAX_THREADS"
  | verbose | noColor | help | version => ""

def about : Argument → String
  | paths => "Directories to scan instead of the configured targets"
  | topics => "Print help for the subcommand(s)"
  | baseDir => "Base directory for relative target paths (defaults to the home directory)"
  | config => "Configuration file path (replaces user and repository config files)"
  | reportFormat => "Report format"
  | configFormat => "Output format"
  | verbose => "Enable verbose output"
  | mode => "Execution mode"
  | noColor => "Disable colored output"
  | extensions => "File extensions to scan, replacing the configured list (comma-separated)"
  | excludeDirs => "Directory names to skip, replacing the configured list (comma-separated)"
  | ignorePaths => "Glob patterns of paths to ignore, relative to each target (comma-separated)"
  | maxThreads => "Maximum worker threads (0 = derive from CPU count)"
  | help => "Print help"
  | version => "Print version"

end Argument

namespace Command

/-- In the order of the help text. -/
def arguments : Command → List Argument
  | scan => [.paths, .baseDir, .config, .reportFormat, .verbose, .mode, .noColor, .extensions,
      .excludeDirs, .ignorePaths, .maxThreads, .help, .version]
  | showConfig => [.config, .configFormat, .verbose, .noColor, .help, .version]
  | root | patterns | config | validateConfig => [.config, .verbose, .noColor, .help, .version]
  | help | configHelp => [.topics]

def operand? (c : Command) : Option Argument := c.arguments.find? (·.isOperand)

def options (c : Command) : List Argument := c.arguments.filter (!·.isOperand)

def long? (c : Command) (text : String) : Option Argument :=
  c.options.find? (·.long? == some text)

def short? (c : Command) (sign : Char) : Option Argument :=
  c.options.find? (·.short? == some sign)

end Command

end ConstantScan.Cli
