import ConstantScan.Cli.Help
import ConstantScan.Number.Decimal

/-!
# Reading command lines

Words are read one by one. An option waits for its value until the next word; a value is checked
when the option after it starts, or at the end. Each command has a level of its own.
-/

namespace ConstantScan.Cli

/-! ## Why reading stops -/

inductive UsageError
  | unknownArgument (text : String)
  | unknownCommand (text : String)
  | missingCommand (command : Command)
  | missingValue (argument : Argument)
  | invalidChoice (argument : Argument) (text : String)
  | invalidCount (argument : Argument) (text : String)
  | repeated (argument : Argument)
  | unexpectedValue (argument : Argument) (text : String)
  deriving DecidableEq, Repr

def quoted (text : String) : String := "'" ++ text ++ "'"

def UsageError.message : UsageError → String
  | unknownArgument text => "unexpected argument " ++ quoted text ++ " found"
  | unknownCommand text => "unrecognized subcommand " ++ quoted text
  | missingCommand c =>
    quoted (String.intercalate " " c.words) ++ " requires a subcommand but one was not provided"
  | missingValue a => "a value is required for " ++ quoted a.form ++ " but none was supplied"
  | invalidChoice a text | invalidCount a text =>
    "invalid value " ++ quoted text ++ " for " ++ quoted a.form
  | repeated a => "the argument " ++ quoted a.form ++ " cannot be used multiple times"
  | unexpectedValue a text =>
    "unexpected value " ++ quoted text ++ " for " ++ quoted a.form ++
      " found; no more were expected"

inductive Stop
  | help (command : Command) (long : Bool)
  | version (command : Command)
  /-- A command that needs a subcommand was given nothing at all. -/
  | bare (command : Command)
  | usage (error : UsageError)
  deriving DecidableEq, Repr

abbrev Reading (α : Type) := Except Stop α

def misuse {α : Type} (e : UsageError) : Reading α := .error (.usage e)

/-! ## Values -/

/-- A count, with a plus sign in front or not. -/
def count? (text : String) : Option Nat :=
  let digits := match text.toList with
    | '+' :: cs => cs
    | cs => cs
  (Decimal.natural? digits).filter (· < UInt64.size)

def checkValue (a : Argument) (text : String) : Reading Unit :=
  match a.taken with
  | .nothing | .names => .ok ()
  | .path => if text.isEmpty then misuse (.missingValue a) else .ok ()
  | .choice cs => if cs.any (·.name == text) then .ok () else misuse (.invalidChoice a text)
  | .count => if (count? text).isSome then .ok () else misuse (.invalidCount a text)

/-- The parts of a text between commas; `current` is the part being read, last character first. -/
def splitCommas (current : List Char) : List Char → List String
  | [] => [String.ofList current.reverse]
  | c :: cs =>
    if c = ',' then String.ofList current.reverse :: splitCommas [] cs
    else splitCommas (c :: current) cs

def splitValues (a : Argument) (texts : List String) : List String :=
  match a.taken with
  | .names => texts.flatMap fun t => splitCommas [] t.toList
  | _ => texts

/-! ## One level -/

abbrev Given := List (Argument × List String)

structure Level where
  /-- What is read, checked and settled. -/
  given : Given := []
  pending : Option (Argument × List String) := none
  /-- Whether two dashes were read: what follows are operands. -/
  literal : Bool := false
  deriving DecidableEq, Repr

namespace Level

def record (a : Argument) (texts : List String) : Given → Given
  | [] => [(a, texts)]
  | (b, old) :: rest => if a = b then (b, old ++ texts) :: rest else (b, old) :: record a texts rest

def has (l : Level) (a : Argument) : Bool := (l.given.lookup a).isSome

def store (l : Level) (a : Argument) (texts : List String) : Reading Level := do
  if a.taken ≠ .nothing && texts.isEmpty then misuse (.missingValue a)
  if l.has a && !a.repeats then misuse (.repeated a)
  let values := splitValues a texts
  values.forM (checkValue a)
  return { l with given := record a values l.given }

def settle (l : Level) : Reading Level :=
  match l.pending with
  | none => .ok l
  | some (a, texts) => { l with pending := none }.store a texts

def isWaiting (l : Level) : Bool :=
  match l.pending with
  | some (_, []) => true
  | _ => false

/-- An argument with the values that stand in the same word. -/
def give (l : Level) (a : Argument) (texts : List String) : Reading Level := do
  (← l.settle).store a texts

/-- An option whose value is the next word. -/
def await (l : Level) (a : Argument) : Reading Level := do
  return { (← l.settle) with pending := some (a, []) }

def switch (c : Command) (l : Level) (a : Argument) (long : Bool) : Reading Level :=
  match a with
  | .help => do let _ ← l.settle; throw (.help c long)
  | .version => do let _ ← l.settle; throw (.version c)
  | a => l.give a []

def readLong (c : Command) (l : Level) (word : List Char) : Reading Level :=
  let name := String.ofList (word.takeWhile (· != '='))
  let value := match word.dropWhile (· != '=') with
    | _ :: v => some (String.ofList v)
    | [] => none
  match c.long? name with
  | none => misuse (.unknownArgument ("--" ++ name))
  | some a =>
    match decide (a.taken = .nothing), value with
    | true, none => l.switch c a true
    | true, some v => misuse (.unexpectedValue a v)
    | false, none => l.await a
    | false, some v => l.give a [v]

/-- The letters after one dash; a value may follow its letter at once or after an equals sign. -/
def readShorts (c : Command) (l : Level) : List Char → Reading Level
  | [] => .ok l
  | sign :: rest =>
    match c.short? sign with
    | none => misuse (.unknownArgument ("-" ++ String.singleton sign))
    | some a =>
      if a.taken = .nothing then do readShorts c (← l.switch c a false) rest
      else
        match rest with
        | [] => l.await a
        | '=' :: v => l.give a [String.ofList v]
        | v => l.give a [String.ofList v]

def readOperand (c : Command) (l : Level) (word : String) : Reading Level :=
  match c.operand? with
  | some a =>
    match l.pending with
    | some (b, texts) =>
      if a = b then .ok { l with pending := some (a, texts ++ [word]) }
      else do return { (← l.settle) with pending := some (a, [word]) }
    | none => .ok { l with pending := some (a, [word]) }
  | none =>
    if c.subcommands.isEmpty || (l.literal && (c.subcommand? word).isSome) then
      misuse (.unknownArgument word)
    else misuse (.unknownCommand word)

/-- A word that is neither an option nor a subcommand. -/
def readValue (c : Command) (l : Level) (word : String) : Reading Level :=
  match l.pending with
  | some (a, []) => .ok { l with pending := some (a, [word]) }
  | _ => l.readOperand c word

def readWord (c : Command) (l : Level) (word : String) : Reading Level :=
  if l.literal then l.readOperand c word
  else
    match word.toList with
    | ['-', '-'] => .ok { l with literal := true }
    | '-' :: '-' :: name => l.readLong c name
    | ['-'] => l.readValue c word
    | '-' :: signs => l.readShorts c signs
    | _ => l.readValue c word

def entered? (c : Command) (l : Level) (word : String) : Option Command :=
  if l.literal || l.isWaiting then none else c.subcommand? word

def finish (c : Command) (l : Level) : Reading Given := do
  let l ← l.settle
  if c.needsSubcommand then
    if l.given.isEmpty then throw (.bare c) else misuse (.missingCommand c)
  return l.given

end Level

/-! ## Whole command lines -/

/-- Follows the names of commands to the help that is asked for. -/
def helpTopic (c : Command) : List String → Stop
  | [] => .help c true
  | word :: words =>
    match c.subcommand? word with
    | some sub => helpTopic sub words
    | none => .usage (.unknownCommand word)

/-- The command that is called and what it is given; what stands nearer to it comes first. -/
def readWords (c : Command) (l : Level) : List String → Reading (Command × Given)
  | [] => do return (c, ← l.finish c)
  | word :: words =>
    match l.entered? c word with
    | some sub =>
      if sub.isHelp then .error (helpTopic c words)
      else do
        let (called, below) ← readWords sub {} words
        return (called, below ++ (← l.settle).given)
    | none => do readWords c (← l.readWord c word) words

end ConstantScan.Cli
