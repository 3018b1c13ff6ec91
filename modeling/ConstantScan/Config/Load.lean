import ConstantScan.Config.Extract
import ConstantScan.Config.Format
import ConstantScan.Config.Variable
import ConstantScan.Environment
import ConstantScan.Json.Parser
import ConstantScan.Yaml.Parser

/-!
# Loading a configuration

The sources are layers, each over those before it: the standard configuration, the files of the
user, those of the project, variables, and what the caller asks for. A file that the caller names
takes the place of all other files.
-/

namespace ConstantScan

/-! ## The standard configuration -/

def Config.standard : Config where
  targets := [
    { label := some "SpiralSafe-FromGitHub", path := "SpiralSafe-FromGitHub" },
    { label := some "repos/ClaudeNPC-Server-Suite", path := "repos/ClaudeNPC-Server-Suite" },
    { label := some "repos/SpiralSafe", path := "repos/SpiralSafe" },
    { label := some "quantum-redstone", path := "quantum-redstone" },
    { label := some "wave-toolkit", path := "wave-toolkit" }]

/-- The document, in TOML, that the standard configuration is read from. -/
def Config.standardLines : List String := [
  "# precision-scan default configuration",
  "#",
  "# Layered under ~/.config/precision-scan/config.toml, ./precision-scan.toml",
  "# and PRECISION_SCAN_* environment variables (nested keys split on \"__\").",
  "",
  "# Relative target paths are resolved against this directory.",
  "# Unset means the current user's home directory.",
  "# base_dir = \"~/src\"",
  "",
  "[[targets]]",
  "label = \"SpiralSafe-FromGitHub\"",
  "path = \"SpiralSafe-FromGitHub\"",
  "",
  "[[targets]]",
  "label = \"repos/ClaudeNPC-Server-Suite\"",
  "path = \"repos/ClaudeNPC-Server-Suite\"",
  "",
  "[[targets]]",
  "label = \"repos/SpiralSafe\"",
  "path = \"repos/SpiralSafe\"",
  "",
  "[[targets]]",
  "label = \"quantum-redstone\"",
  "path = \"quantum-redstone\"",
  "",
  "[[targets]]",
  "label = \"wave-toolkit\"",
  "path = \"wave-toolkit\"",
  "",
  "[scanner]",
  "extensions = [\"py\", \"js\", \"java\", \"ts\", \"jsx\", \"tsx\", \"c\", \"cpp\", \"go\", \"rs\"]",
  "exclude_dirs = [\".git\", \"node_modules\", \"target\", \"build\", \"__pycache__\"]",
  "ignore_paths = []",
  "follow_symlinks = false",
  "respect_gitignore = false",
  "skip_binary_files = true",
  "max_file_size_mb = 10",
  "mode = \"auto\"",
  "max_threads = 0",
  "thread_percentage = 75",
  "min_files_for_parallel = 50",
  "",
  "[patterns]",
  "disabled = []",
  "",
  "# [[patterns.custom]]",
  "# name = \"pi_literal\"",
  "# regex = '(?:^|[^A-Za-z_0-9])3\\.14[0-9]*'",
  "# description = \"Hardcoded approximation of pi\"",
  "# remediation = \"Replace 3.14 with math.pi / Math.PI\""]

def Config.standardText : String := String.join (standardLines.map (· ++ "\n"))

/-! ## Errors -/

inductive LayerError
  /-- A file is no document of its format; the fault is what the reader of documents says. -/
  | malformed (fault : String)
  | notDict (found : Value)
  deriving Repr

def LayerError.message : LayerError → String
  | malformed fault => fault
  | notDict found => (Mismatch.invalidType found "map").layeredMessage

inductive LoadError
  | fileNotFound (path : Path)
  | layer (error : LayerError)
  /-- The origin tells where the value with the problem comes from. -/
  | mismatch (problem : Problem) (origin : String)
  | invalid (error : ConfigError)
  deriving Repr

namespace LoadError

def message : LoadError → String
  | fileNotFound path => "Config file not found: " ++ path.toString
  | layer _ | mismatch _ _ => "Failed to parse configuration"
  | invalid e => e.message

/-- What led to the error, if it is told. -/
def causes : LoadError → List String
  | layer e => [e.message]
  | mismatch p origin => [p.mismatch.layeredMessage ++ origin]
  | _ => []

end LoadError

/-! ## Layers -/

abbrev Layer := Except LayerError Dict

def ConfigFormat.parse : ConfigFormat → String → Option Dict
  | toml, text => Toml.parse text
  | json, text =>
    match Json.parse text with
    | some (.dict es) => some es
    | _ => none
  | yaml, text => Yaml.parse text

def ConfigFormat.layer (format : ConfigFormat) (fault : String) (content : Bytes) : Layer :=
  match if Utf8.isValid content then format.parse (Utf8.toString content) else none with
  | some d => .ok d
  | none => .error (.malformed fault)

/-- The lowest layer. -/
def Config.standardLayer : Layer :=
  ConfigFormat.toml.layer "no standard configuration" (Utf8.ofString standardText)

namespace Environment

/-- A place and those above it, nearest first. -/
def placesAbove : Location → List Path
  | [] => [Location.path []]
  | n :: l => Location.path (n :: l) :: placesAbove l

/-- A file by its absolute path, or by a path from the working directory or one above it. -/
def findFile? (env : Environment) (p : Path) : Option Path :=
  if p.isAbsolute then if env.files.isFile p then some p else none
  else if env.workDir?.isNone then none
  else ((placesAbove env.files.current).map (·.join p)).find? env.files.isFile

/-- The layer of a file; a missing one sets nothing. -/
def fileLayer (env : Environment) (format : ConfigFormat) (p : Path) : Layer :=
  match env.findFile? p with
  | none => .ok []
  | some p =>
    match env.files.read p with
    | .ok content => format.layer (env.libraries.documentFault format p content) content
    | .error e => .error (.malformed e.message)

end Environment

def ConfigFormat.ofPath (p : Path) : ConfigFormat :=
  match p.extension? with
  | none => .toml
  | some e =>
    if e = Utf8.ofString "json" then .json
    else if e = Utf8.ofString "yaml" || e = Utf8.ofString "yml" then .yaml
    else .toml

/-- The files of one place, named alike, in each format. -/
def fileLayers (env : Environment) (stem : Path) : List Layer :=
  ConfigFormat.all.map fun f =>
    env.fileLayer f ⟨stem.bytes ++ Utf8.ofString ("." ++ f.name)⟩

def configStem : Path := .ofString "precision-scan"

def standardFiles (env : Environment) : List Layer :=
  let user := match env.home? with
    | some home =>
      let dir := (home.join (.ofString ".config")).join configStem
      fileLayers env (dir.join (.ofString "config"))
    | none => []
  user ++ fileLayers env configStem

def overrideLayer (overrides : Option Value) : List Layer :=
  match overrides with
  | none => []
  | some (.dict es) => [.ok es]
  | some v => [.error (.notDict v)]

/-- Merges layers, the lowest first; of several errors the last one counts. -/
def mergeLayers (layers : List Layer) : Layer :=
  layers.foldl
    (fun merged layer =>
      match merged, layer with
      | .ok lower, .ok upper => .ok (Dict.merge lower upper)
      | .error e, .ok _ => .error e
      | _, .error e => .error e)
    (.ok [])

namespace Config

/-- The layers in their order, with the file that the caller names. -/
def layers (env : Environment) (file : Option Path) (overrides : Option Value) :
    Except LoadError (List Layer) := do
  let files ← match file with
    | none => pure (standardFiles env)
    | some p =>
      if env.files.isFile p then pure [env.fileLayer (.ofPath p) p]
      else throw (.fileNotFound p)
  return standardLayer :: files ++ .ok (Variable.layer env.vars) :: overrideLayer overrides

def extract (merged : Dict) (origin : Problem → String := fun _ => "") :
    Except LoadError Config :=
  (Config.read .layered (.dict merged)).mapError fun p => .mismatch p (origin p)

def load (env : Environment) (file : Option Path) (overrides : Option Value) :
    Except LoadError Config := do
  let merged ← (mergeLayers (← layers env file overrides)).mapError .layer
  let c ← extract merged (env.libraries.origin file overrides)
  c.validate.mapError .invalid
  return c

end Config

end ConstantScan
