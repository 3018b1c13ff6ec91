import ConstantScan.FileTree
import ConstantScan.Libraries

/-! # What a program finds around it -/

namespace ConstantScan

/-- The path in a variable that is set and not empty. -/
def pathIn? (vars : List (String × String)) (name : String) : Option Path :=
  (vars.lookup name).bind fun v => if v.isEmpty then none else some (.ofString v)

structure Environment where
  files : FileTree
  /-- The variables that are texts, each name once. -/
  vars : List (String × String)
  /-- The home directory. A variable names it, which need not be a text, or the user database. -/
  home? : Option Path := pathIn? vars "HOME"
  libraries : Libraries := {}

namespace Environment

/-- The directory that relative paths start from. -/
def workDir (env : Environment) : Path := env.files.current.path

/-- The working directory, unless it is removed. -/
def workDir? (env : Environment) : Option Path :=
  if env.files.standsInDir then some env.workDir else none

theorem eq_workDir {env : Environment} {dir : Path} (h : env.workDir? = some dir) :
    dir = env.workDir := by
  unfold workDir? at h
  split at h
  · exact (Option.some.inj h).symm
  · cases h

/-- The configuration directory of programs that follow the desktop convention. -/
def desktopConfigDir? (env : Environment) : Option Path :=
  (pathIn? env.vars "XDG_CONFIG_HOME").or (env.home?.map (·.join (.ofString ".config")))

end Environment

end ConstantScan
