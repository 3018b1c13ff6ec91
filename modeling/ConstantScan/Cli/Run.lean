import ConstantScan.Cli.Invocation
import ConstantScan.Config.Load
import ConstantScan.Console
import ConstantScan.Scan.Run

/-! # Doing what a command line asks for -/

namespace ConstantScan.Cli

/-! ## How it ends -/

inductive Failure
  /-- The working directory has been removed. -/
  | noWorkDir
  | load (error : LoadError)
  | scanner (error : ScannerError)
  | config (error : ConfigError)
  /-- The cause is what the writer of documents says. -/
  | write (error : WriteError) (cause : String)
  deriving Repr

namespace Failure

def message : Failure → String
  | noWorkDir => "Failed to get current directory"
  | load e => e.message
  | scanner e => e.message
  | config e => e.message
  | write e _ => e.message

/-- What led to the failure, from the outside in. -/
def causes : Failure → List String
  | noWorkDir => [ReadError.notFound.message]
  | load e => e.causes
  | scanner e => e.causes
  | config _ => []
  | write _ cause => [cause]

def fullMessage (f : Failure) : String := String.intercalate ": " (f.message :: f.causes)

end Failure

inductive Ending
  | finished (status : ExitStatus)
  | failed (failure : Failure)
  /-- The process ends at once. -/
  | aborted
  deriving Repr

def failureCode : Nat := 2

def abortCode : Nat := 134

def Ending.code : Ending → Nat
  | finished status => status.code
  | failed _ => failureCode
  | aborted => abortCode

structure Outcome where
  printed : Printed := {}
  ending : Ending
  deriving Repr

namespace Outcome

def clean (printed : Printed) : Outcome := ⟨printed, .finished .clean⟩

def ofExcept : Except Failure Outcome → Outcome
  | .ok o => o
  | .error f => ⟨{}, .failed f⟩

def after (printed : Printed) (o : Outcome) : Outcome := { o with printed := printed ++ o.printed }

end Outcome

/-! ## Commands -/

/-- What a scan needs: the configuration, read and checked, and its targets. -/
structure Prepared where
  scanner : Scanner
  targets : List ScanTarget

structure Context where
  env : Environment
  machine : Machine
  console : Console
  configFile : Option Path
  shows : LogEntry → Bool

namespace Context

variable (x : Context)

def load (overrides : Option Value) : Except Failure Config :=
  (Config.load x.env x.configFile overrides).mapError .load

def banner : String := "🌊 Precision Scan - hardcoded constant approximations"

def joined (names : List String) : String := String.intercalate ", " names

def prepare (overrides : Option Value) (baseDir : Option Path) : Except Failure Prepared := do
  let config ← x.load overrides
  let scanner ← (Scanner.ofConfig config x.env.libraries).mapError .scanner
  let targets ← (config.resolveTargets baseDir x.env.home?).mapError .config
  return { scanner, targets }

/-- A scan asks for the working directory before anything else. -/
def prepareScan (o : ScanOptions) : Except Failure Prepared :=
  match x.env.workDir? with
  | none => .error .noWorkDir
  | some dir => x.prepare (o.overrides dir) o.baseDir

/-- What a request scans or checks, if it comes to that. -/
def prepared? (request : Request) : Option Prepared :=
  match request with
  | .scan o => (x.prepareScan o).toOption
  | .validateConfig => (x.prepare none none).toOption
  | _ => none

/-- What is going to be scanned, for verbose runs. -/
def describe (p : Prepared) : Printed :=
  .join ([
    "Targets to scan: " ++ joined (p.targets.map ScanTarget.label),
    "File types: " ++ joined p.scanner.filter.extensions.names,
    "Excluded directories: " ++ joined p.scanner.filter.prunedDirs.names,
    "Active patterns: " ++ toString p.scanner.rules.size].map x.console.detail)

/-- The log, which only verbose runs keep. -/
def logged (entries : List LogEntry) : Printed :=
  if x.console.verbose then
    .join ((entries.filter x.shows).map fun e => .errorLine (e.level.label ++ e.text))
  else {}

def report (s : Scanner) (format : ReportFormat) (r : Report) : Outcome :=
  match r.render s.rules format x.console.color with
  | .abort => ⟨{}, .aborted⟩
  | .body text =>
    let printed : Printed := match format with
      | .text => { out := text }
      | .json => .line text
    ⟨printed, .finished r.exitStatus⟩

def scan (o : ScanOptions) : Except Failure Outcome := do
  let p ← x.prepareScan o
  let header : Printed := match o.format with
    | .text => x.console.header banner
    | .json => {}
  let (report, log) := p.scanner.run x.env x.machine p.targets
  return (x.report p.scanner o.format report).after (header ++ x.describe p ++ x.logged log)

def ruleLines (r : Rule) : Printed :=
  let about (key text : String) : Printed :=
    if text.isEmpty then {} else x.console.keyValue key text false
  .join [.line "", x.console.step r.name, about "description" r.description,
    x.console.keyValue "regex" r.source true, about "remediation" r.remediation]

def patterns : Except Failure Outcome := do
  let config ← x.load none
  let rules ← (RuleSet.ofSettings config.patterns x.env.libraries.readRegex).mapError
    (.scanner ∘ .rule)
  return .clean (.join (x.console.header ("Active patterns (" ++ toString rules.size ++ ")") ::
    rules.rules.map x.ruleLines))

def showConfig (format : ConfigFormat) : Except Failure Outcome := do
  let config ← x.load none
  let text ← (config.write format).mapError fun e =>
    .write e (x.env.libraries.writeFault format config)
  return .clean (.line (String.ofList (Unicode.trimEnd text.toList)))

def targetLines (t : ScanTarget) : Printed :=
  let place := t.label ++ " (" ++ t.root.toString ++ ")"
  if x.env.files.isDir t.root then x.console.status "found" place true
  else
    x.console.status "missing" place false ++ x.console.warning (t.label ++ " will be skipped")

def checked : Except Failure Outcome := do
  let p ← x.prepare none none
  return .clean (.join ([x.console.success "Configuration is valid",
    x.console.keyValue "patterns" (toString p.scanner.rules.size) false,
    x.console.keyValue "targets" (toString p.targets.length) false] ++
      p.targets.map x.targetLines))

def validateConfig : Outcome :=
  (Outcome.ofExcept x.checked).after (x.console.header "✅ Validating Configuration")

def run (request : Request) : Outcome :=
  match request with
  | .scan o => .ofExcept (x.scan o)
  | .patterns => .ofExcept x.patterns
  | .showConfig format => .ofExcept (x.showConfig format)
  | .validateConfig => x.validateConfig

end Context

namespace Invocation

/-- `colors` says whether colors are on at all. -/
def context (i : Invocation) (env : Environment) (machine : Machine) (colors : Bool)
    (shows : LogEntry → Bool) : Context :=
  { env, machine, console := .make i.verbose i.noColor colors, configFile := i.configFile, shows }

def run (i : Invocation) (env : Environment) (machine : Machine) (colors : Bool)
    (shows : LogEntry → Bool) : Outcome :=
  (i.context env machine colors shows).run i.request

end Invocation

end ConstantScan.Cli
