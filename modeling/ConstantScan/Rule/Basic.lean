import ConstantScan.Regex.Parser
import ConstantScan.Regex.Matcher

/-! # Detection rules -/

namespace ConstantScan

/-- A named expression; a line that it matches is reported. -/
structure Rule where
  name : String
  source : String
  regex : Regex
  description : String
  remediation : String
  deriving DecidableEq, Repr

/-- How expressions are read: what a text writes, or what is wrong with it. -/
abbrev RegexReader := String → Except String Regex

inductive RuleError
  /-- The cause is what the reader of expressions says. -/
  | invalidRegex (name cause : String)
  | duplicateName (name : String)
  | unknownDisabled (name : String)
  | empty
  deriving DecidableEq, Repr

def RuleError.message : RuleError → String
  | invalidRegex name _ => "invalid regex for pattern '" ++ name ++ "'"
  | duplicateName name => "duplicate pattern name '" ++ name ++ "'"
  | unknownDisabled name => "cannot disable unknown pattern '" ++ name ++ "'"
  | empty => "pattern set is empty"

/-- What led to the error, if it is told. -/
def RuleError.causes : RuleError → List String
  | invalidRegex _ cause => [cause]
  | _ => []

def Rule.make (name source description remediation : String) (read : RegexReader := Regex.read) :
    Except RuleError Rule :=
  match read source with
  | .ok regex => .ok { name, source, regex, description, remediation }
  | .error cause => .error (.invalidRegex name cause)

def Rule.matchesLine (r : Rule) (line : List Char) : Bool := r.regex.isFoundIn line

/-! ## Rule sets -/

/-- The first name that is in `seen` or stands earlier in the list. -/
def firstRepeated (seen : List String) : List String → Option String
  | [] => none
  | n :: ns => if n ∈ seen then some n else firstRepeated (n :: seen) ns

theorem firstRepeated_eq_none_iff (seen names : List String) :
    firstRepeated seen names = none ↔ names.Nodup ∧ ∀ n ∈ names, n ∉ seen := by
  induction names generalizing seen with
  | nil => simp [firstRepeated]
  | cons n ns ih =>
    by_cases h : n ∈ seen
    · simp [firstRepeated, h]
    · simp only [firstRepeated, h, if_false, ih, List.nodup_cons, List.mem_cons, not_or,
        forall_eq_or_imp, not_false_iff, true_and]
      constructor
      · rintro ⟨hnd, hns⟩
        exact ⟨⟨fun hm => (hns n hm).1 rfl, hnd⟩, fun m hm => (hns m hm).2⟩
      · rintro ⟨⟨hn, hnd⟩, hns⟩
        exact ⟨hnd, fun m hm => ⟨fun e => hn (e ▸ hm), hns m hm⟩⟩

/-- Rules in the order in which they are tried, at least one, each with a name of its own. -/
structure RuleSet where
  rules : List Rule
  ne_nil : rules ≠ []
  nodup : (rules.map Rule.name).Nodup

namespace RuleSet

def ofList (rules : List Rule) : Except RuleError RuleSet :=
  if hne : rules = [] then .error .empty
  else
    match h : firstRepeated [] (rules.map Rule.name) with
    | some name => .error (.duplicateName name)
    | none => .ok ⟨rules, hne, ((firstRepeated_eq_none_iff _ _).1 h).1⟩

def size (s : RuleSet) : Nat := s.rules.length

def isEmpty (s : RuleSet) : Bool := s.rules.isEmpty

def find? (s : RuleSet) (name : String) : Option Rule := s.rules.find? (·.name == name)

def matching (s : RuleSet) (line : List Char) : List Rule := s.rules.filter (·.matchesLine line)

end RuleSet

end ConstantScan
