import ConstantScan.Rule.Basic
import ConstantScan.Config.Basic

/-! # The built-in rules and the rules of a configuration -/

namespace ConstantScan

structure RuleSource where
  name : String
  regex : String
  description : String
  remediation : String
  deriving DecidableEq, Repr

/-- The rules for approximations of Euler's number. `(?:^|[^A-Za-z_])` takes the character before
the constant, so that the end of a longer name is not reported unless a digit stands before it. -/
def builtinSources : List RuleSource := [
  { name := "python_pow"
    regex := "pow\\s*\\(\\s*2\\.71[0-9]*\\s*,"
    description := "Power function called with a literal approximation of e as the base"
    remediation := "Replace 'pow(2.718, x)' with 'math.exp(x)' (Python)" },
  { name := "python_exp"
    regex := "(?:^|[^A-Za-z_])2\\.71[0-9]*\\s*\\*\\*"
    description := "Exponent operator applied to a literal approximation of e"
    remediation := "Replace '2.718 ** x' with 'math.exp(x)' (Python)" },
  { name := "js_java_pow"
    regex := "Math\\.pow\\s*\\(\\s*2\\.71[0-9]*"
    description := "Math.pow called with a literal approximation of e as the base"
    remediation := "Replace 'Math.pow(2.718, x)' with 'Math.exp(x)' (JS/Java)" },
  { name := "direct_const"
    regex := "(?:^|[^A-Za-z_])e\\s*=\\s*2\\.71[0-9]*"
    description := "Variable named like the constant assigned a literal approximation"
    remediation := "Replace hardcoded constants with math.e / Math.E / std::f64::consts::E" }]

def RuleSource.read (s : RuleSource) (read : RegexReader := Regex.read) : Except RuleError Rule :=
  Rule.make s.name s.regex s.description s.remediation read

def builtinRules (read : RegexReader := Regex.read) : Except RuleError (List Rule) :=
  builtinSources.mapM (·.read read)

def defaultDescription : String := "User-defined pattern"

def CustomRule.source (c : CustomRule) : RuleSource :=
  { name := c.name
    regex := c.regex
    description := if c.description.isEmpty then defaultDescription else c.description
    remediation := c.remediation }

namespace RuleSet

def builtin (read : RegexReader := Regex.read) : Except RuleError RuleSet :=
  builtinRules read >>= ofList

/-- The built-in rules that are not disabled, then the custom rules that are enabled. -/
def ofSettings (settings : RuleSettings) (read : RegexReader := Regex.read) :
    Except RuleError RuleSet := do
  let builtin ← builtin read
  match settings.disabled.find? fun name => (builtin.find? name).isNone with
  | some name => throw (.unknownDisabled name)
  | none => pure ()
  let kept := builtin.rules.filter fun r => !settings.disabled.contains r.name
  let custom ← (settings.custom.filter (·.enabled)).mapM (·.source.read read)
  ofList (kept ++ custom)

end RuleSet

end ConstantScan
