import ConstantScan.Unicode.Blank

/-! # Configurations -/

namespace ConstantScan

inductive ScanMode
  | auto
  | sequential
  | parallel
  deriving DecidableEq, Repr

def ScanMode.name : ScanMode → String
  | auto => "auto"
  | sequential => "sequential"
  | parallel => "parallel"

def ScanMode.all : List ScanMode := [.auto, .sequential, .parallel]

def ScanMode.ofName? (name : String) : Option ScanMode := all.find? (·.name == name)

theorem ScanMode.ofName?_name (m : ScanMode) : ofName? m.name = some m := by
  cases m <;> decide

structure ScanSettings where
  /-- The extensions of the files to scan, with or without a leading dot. -/
  extensions : List String := ["py", "js", "java", "ts", "jsx", "tsx", "c", "cpp", "go", "rs"]
  excludeDirs : List String := [".git", "node_modules", "target", "build", "__pycache__"]
  /-- Globs of the paths below a target that are left out. -/
  ignorePaths : List String := []
  followSymlinks : Bool := false
  respectGitignore : Bool := false
  skipBinaryFiles : Bool := true
  maxFileSizeMb : Nat := 10
  mode : ScanMode := .auto
  /-- The greatest number of workers; zero sets no limit. -/
  maxThreads : Nat := 0
  threadPercentage : Nat := 75
  minFilesForParallel : Nat := 50
  deriving DecidableEq, Repr

structure CustomRule where
  name : String
  regex : String
  description : String := ""
  remediation : String := ""
  enabled : Bool := true
  deriving DecidableEq, Repr

structure RuleSettings where
  disabled : List String := []
  custom : List CustomRule := []
  deriving DecidableEq, Repr

/-- A directory to scan; without a label its path is its label. -/
structure TargetEntry where
  label : Option String := none
  path : String
  deriving DecidableEq, Repr

structure Config where
  baseDir : Option String := none
  targets : List TargetEntry := []
  scanner : ScanSettings := {}
  patterns : RuleSettings := {}
  deriving DecidableEq, Repr

/-! ## Validation -/

inductive ConfigError
  | noTargets
  /-- Targets count from one. -/
  | emptyTargetPath (index : Nat)
  | noExtensions
  | threadPercentage (percentage : Nat)
  | noBaseDir
  deriving DecidableEq, Repr

def ConfigError.message : ConfigError → String
  | noTargets => "no scan targets configured"
  | emptyTargetPath index => "target #" ++ toString index ++ " has an empty path"
  | noExtensions => "extension allow-list is empty"
  | threadPercentage percentage =>
    "thread_percentage must be between 1 and 100, got " ++ toString percentage
  | noBaseDir => "cannot determine a base directory for relative target paths"

def bareExtension (e : String) : String := String.ofList (e.toList.dropWhile (· == '.'))

def isBlankText (s : String) : Bool := s.toList.all Unicode.isBlank

def Config.validate (c : Config) : Except ConfigError Unit :=
  if c.targets.isEmpty then .error .noTargets
  else
    match c.targets.findIdx? fun t => isBlankText t.path with
    | some i => .error (.emptyTargetPath (i + 1))
    | none =>
      if c.scanner.extensions.all fun e => (bareExtension e).isEmpty then .error .noExtensions
      else
        let p := c.scanner.threadPercentage
        if p = 0 || p > 100 then .error (.threadPercentage p) else .ok ()

end ConstantScan
