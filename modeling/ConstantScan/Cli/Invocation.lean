import ConstantScan.Cli.Parse
import ConstantScan.Path

/-! # What a command line asks for -/

namespace ConstantScan.Cli

structure ScanOptions where
  paths : List Path := []
  baseDir : Option Path := none
  format : ReportFormat := .text
  mode : Option ScanMode := none
  extensions : List String := []
  excludeDirs : List String := []
  ignorePaths : List String := []
  maxThreads : Option Nat := none
  deriving DecidableEq, Repr

inductive Request
  | scan (options : ScanOptions)
  | patterns
  | showConfig (format : ConfigFormat)
  | validateConfig
  deriving DecidableEq, Repr

structure Invocation where
  configFile : Option Path := none
  verbose : Bool := false
  noColor : Bool := false
  request : Request
  deriving DecidableEq, Repr

namespace Given

def texts (g : Given) (a : Argument) : List String := (g.lookup a).getD []

def text? (g : Given) (a : Argument) : Option String := (texts g a).head?

def isSet (g : Given) (a : Argument) : Bool := (g.lookup a).isSome

def scanOptions (g : Given) : ScanOptions where
  paths := (texts g .paths).map .ofString
  baseDir := (text? g .baseDir).map .ofString
  format := ((text? g .reportFormat).bind ReportFormat.ofName?).getD .text
  mode := (text? g .mode).bind ScanMode.ofName?
  extensions := texts g .extensions
  excludeDirs := texts g .excludeDirs
  ignorePaths := texts g .ignorePaths
  maxThreads := (text? g .maxThreads).bind count?

/-- Without a subcommand the targets are scanned. -/
def request (c : Command) (g : Given) : Request :=
  match c with
  | .patterns => .patterns
  | .showConfig => .showConfig (((text? g .configFormat).bind ConfigFormat.ofName?).getD .toml)
  | .validateConfig => .validateConfig
  | _ => .scan (scanOptions g)

end Given

namespace Invocation

def ofWords (words : List String) : Reading Invocation := do
  let (called, given) ← readWords .root {} words
  return {
    configFile := (Given.text? given .config).map .ofString
    verbose := Given.isSet given .verbose
    noColor := Given.isSet given .noColor
    request := Given.request called given }

end Invocation

/-! ## Options over the configuration -/

namespace ScanOptions

def namesEntry (key : String) (names : List String) : List (String × Value) :=
  if names.isEmpty then [] else [(key, .strings names)]

def settingsEntries (o : ScanOptions) : List (String × Value) :=
  (o.mode.map fun m => ("mode", Value.string m.name)).toList ++
    namesEntry "extensions" o.extensions ++ namesEntry "exclude_dirs" o.excludeDirs ++
    namesEntry "ignore_paths" o.ignorePaths ++
    (o.maxThreads.map fun n => ("max_threads", Value.natural n)).toList

/-- A directory to scan, taken from the working directory and labelled as it was written. -/
def targetValue (workDir path : Path) : Value :=
  .dict [("label", .string path.toString), ("path", .string (workDir.join path).toString)]

/-- What the options set in the configuration; nothing if there are none. -/
def overrides (o : ScanOptions) (workDir : Path) : Option Value :=
  let settings := o.settingsEntries
  let scanner := if settings.isEmpty then [] else [("scanner", Value.dict settings)]
  let targets :=
    if o.paths.isEmpty then [] else [("targets", Value.list (o.paths.map (targetValue workDir)))]
  let entries := scanner ++ targets
  if entries.isEmpty then none else some (.dict entries)

end ScanOptions

end ConstantScan.Cli
