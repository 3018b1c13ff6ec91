import ConstantScan.Cli.Command

/-! # Help texts -/

namespace ConstantScan.Cli

def versionNumber : String := "0.1.0"

def spaces (count : Nat) : String := String.ofList (List.replicate count ' ')

/-- A text with blanks after it up to a width. -/
def fill (width : Nat) (text : String) : String := text ++ spaces (width - text.length)

def widest (texts : List String) : Nat := (texts.map String.length).foldl max 0

namespace Argument

def form (a : Argument) : String :=
  match a.long? with
  | none => "[" ++ a.valueName ++ "]..."
  | some name => "--" ++ name ++ if a.taken = .nothing then "" else " <" ++ a.valueName ++ ">"

/-- How help lists it: options have room for a short form. -/
def entry (a : Argument) : String :=
  match a.short? with
  | some c => "-" ++ String.singleton c ++ ", " ++ a.form
  | none => if a.isOperand then a.form else spaces 4 ++ a.form

/-- Whether its choices are explained one by one in a long help text. -/
def hasLongHelp (a : Argument) : Bool := a.choices.any (·.help.isSome)

def defaultNote (a : Argument) : List String :=
  (a.default?.map fun d => "[default: " ++ d ++ "]").toList

def choicesNote (a : Argument) : List String :=
  if a.choices.isEmpty then []
  else ["[possible values: " ++ String.intercalate ", " (a.choices.map Choice.name) ++ "]"]

end Argument

def Choice.line (width : Nat) (c : Choice) : String :=
  match c.help with
  | some help => "- " ++ fill (width + 2) (c.name ++ ": ") ++ help
  | none => "- " ++ c.name

namespace Command

def usage (c : Command) : String :=
  let options := if c.options.isEmpty then "" else " [OPTIONS]"
  let operand := match c.operand? with
    | some a => " " ++ a.form
    | none => ""
  let subcommand :=
    if c.subcommands.isEmpty then "" else if c.needsSubcommand then " <COMMAND>" else " [COMMAND]"
  "Usage: " ++ String.intercalate " " c.words ++ options ++ operand ++ subcommand

def hasLongHelp (c : Command) : Bool := c.arguments.any (·.hasLongHelp)

/-- What the help says about an argument; that of help itself points to the other text. -/
def aboutArgument (c : Command) (long : Bool) (a : Argument) : String :=
  if a = .help && c.hasLongHelp then
    if long then "Print help (see a summary with '-h')" else "Print help (see more with '--help')"
  else a.about

def subcommandSection (c : Command) : List String :=
  if c.subcommands.isEmpty then []
  else
    let width := widest (c.subcommands.map name)
    ["Commands:" :: c.subcommands.map fun s => "  " ++ fill width s.name ++ "  " ++ s.about].map
      (String.intercalate "\n")

def indent : String := spaces 10

/-- What a line has room for, and from where on a text starts too far to the right. -/
def lineWidth : Nat := 100

def farRight : Nat := 40

/-- Whether texts go below their arguments, the widest of which is `width`: beside them all would
start far to the right and one would not fit on its line. -/
def goBelow (width : Nat) (texts : List (String × String)) : Bool :=
  let taken := width + 12
  farRight < taken && taken ≤ lineWidth &&
    texts.any fun (about, notes) => lineWidth - taken < about.length + notes.length

/-- The arguments with their texts beside them, or below them if there is too little room. -/
def shortSection (c : Command) (title : String) (arguments : List Argument) : List String :=
  if arguments.isEmpty then []
  else
    let width := widest (arguments.map Argument.entry)
    let texts (a : Argument) : String × String :=
      (c.aboutArgument false a, String.intercalate " " (a.defaultNote ++ a.choicesNote))
    let below := goBelow width (arguments.map texts)
    let line (a : Argument) :=
      let (about, notes) := texts a
      let start := if below then a.entry ++ "\n" ++ indent else fill width a.entry ++ "  "
      "  " ++ start ++ about ++ if notes.isEmpty then "" else " " ++ notes
    [String.intercalate "\n" ((title ++ ":") :: arguments.map line)]

/-- An argument with its notes below it. A blank line before a note is moved in as well. -/
def longEntry (c : Command) (a : Argument) : String :=
  let notes := a.defaultNote ++ if a.hasLongHelp then [] else a.choicesNote
  let note := if notes.isEmpty then "" else
    "\n" ++ indent ++ "\n" ++ indent ++ String.intercalate ("\n" ++ indent) notes
  let values := if a.hasLongHelp then
      let width := widest (a.choices.map Choice.name)
      "\n\n" ++ indent ++ "Possible values:" ++
        String.join (a.choices.map fun x => "\n" ++ indent ++ x.line width)
    else ""
  "  " ++ a.entry ++ "\n" ++ indent ++ c.aboutArgument true a ++ note ++ values

def longSection (c : Command) (title : String) (arguments : List Argument) : List String :=
  if arguments.isEmpty then []
  else [title ++ ":\n" ++ String.intercalate "\n\n" (arguments.map c.longEntry)]

def helpText (c : Command) (long : Bool) : String :=
  let list := if long && c.hasLongHelp then c.longSection else c.shortSection
  String.intercalate "\n\n" ([c.about, c.usage] ++ c.subcommandSection ++
    list "Arguments" c.operand?.toList ++ list "Options" c.options) ++ "\n"

def versionText (c : Command) : String :=
  String.intercalate "-" c.words ++ " " ++ versionNumber ++ "\n"

end Command

end ConstantScan.Cli
