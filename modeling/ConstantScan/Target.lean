import ConstantScan.Config.Basic
import ConstantScan.Path

/-! # From configured targets to roots -/

namespace ConstantScan

structure ScanTarget where
  label : String
  root : Path
  deriving DecidableEq, Repr

/-- Replaces a leading `~`, which stands for the home directory. -/
def expandHome (path : String) (home : Option Path) : Option Path :=
  match path.toList with
  | ['~'] => home
  | '~' :: '/' :: rest => home.map (·.join (.ofString (String.ofList rest)))
  | _ => some (.ofString path)

/-- An absolute path stays, `~` starts from the home directory and all else from `base`. -/
def resolveRoot (path : String) (base home : Option Path) : Option Path :=
  (expandHome path home).bind fun p => if p.isAbsolute then some p else base.map (·.join p)

namespace Config

/-- Where relative targets start from: the first of `override`, the configured directory and the
home directory. -/
def base (c : Config) (override home : Option Path) : Except ConfigError (Option Path) :=
  match override, c.baseDir with
  | some dir, _ => .ok (some dir)
  | none, some dir =>
    match expandHome dir home with
    | some p => .ok (some p)
    | none => .error .noBaseDir
  | none, none => .ok home

def resolveTarget (base home : Option Path) (t : TargetEntry) : Except ConfigError ScanTarget :=
  match resolveRoot t.path base home with
  | some root => .ok ⟨t.label.getD t.path, root⟩
  | none => .error .noBaseDir

def resolveTargets (c : Config) (override home : Option Path) :
    Except ConfigError (List ScanTarget) := do
  let base ← c.base override home
  c.targets.mapM (resolveTarget base home)

end Config

end ConstantScan
