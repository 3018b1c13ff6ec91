import ConstantScan.Cli.Run

/-! # The program: what a command line prints, and its exit code -/

namespace ConstantScan.Cli

@[ext]
structure Result where
  printed : Printed
  code : Nat
  deriving DecidableEq, Repr

def Stop.result : Stop → Result
  | .help c long => ⟨{ out := c.helpText long }, 0⟩
  | .version c => ⟨{ out := c.versionText }, 0⟩
  | .bare c => ⟨{ err := c.helpText false }, failureCode⟩
  | .usage e =>
    ⟨.errorLine ("error: " ++ e.message ++ "\n\nFor more information, try '--help'."), failureCode⟩

def logVariable : String := "RUST_LOG"

/-- The filter of the variable, if it can be read; otherwise verbose runs show all entries and
other runs the warnings. -/
def logFilter (env : Environment) (verbose : Bool) : LogFilter :=
  match (env.vars.lookup logVariable).bind LogFilter.ofString? with
  | some f => f
  | none => if verbose then .upTo .info else .upTo .warning

/-- Whether colors are on for an output that is a terminal or not. -/
def colorsOn (env : Environment) (terminal : Bool) : Bool :=
  let get (name : String) : Option String := env.vars.lookup name
  let able := terminal && (get "NO_COLOR").isNone && (get "TERM").any (· != "dumb")
  (able && (get "CLICOLOR").getD "1" != "0") || (get "CLICOLOR_FORCE").getD "0" != "0"

def runProgram (env : Environment) (machine : Machine) (colors : Bool) (words : List String) :
    Result :=
  match Invocation.ofWords words with
  | .error stop => stop.result
  | .ok i =>
    let o := i.run env machine colors (logFilter env i.verbose).shows
    let told := match o.ending with
      | .failed f => (Console.make i.verbose i.noColor colors).error f.fullMessage
      | _ => {}
    ⟨o.printed ++ told, o.ending.code⟩

end ConstantScan.Cli
