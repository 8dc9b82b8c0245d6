import Attest.Text.Quoted

/-!
# Options, usage lines and help texts

A command declares its options: a long name, perhaps a one-letter short
name, what the option does with its occurrences, whether it is required, a
default, a help line and a display position.  From these come

* the *usage line*: the command name, `[OPTIONS]` when some option may be
  left out, the required options, and `<COMMAND>` when a subcommand must
  follow; in an error about particular options, those options are listed
  after the required ones instead of `[OPTIONS]`;
* the *help text*: the description, the usage line, the subcommands and the
  options in display order, in two aligned columns;
* the texts of usage errors, each ending with a pointer to `--help`.
-/

namespace Attest

/-- Why a value was refused. -/
inductive ValueFault where
  /-- The option needs a non-empty value. -/
  | empty
  /-- The value does not parse; the reason says why. -/
  | invalid (reason : String)
  deriving DecidableEq, Repr

/-- What an option does with its occurrences. -/
inductive OptionAction where
  /-- Takes one value, shown as the placeholder in angle brackets. -/
  | value (placeholder : String)
  /-- A switch that may be given once. -/
  | flag
  /-- Counts its occurrences. -/
  | count
  /-- Shows the help text. -/
  | help
  /-- Shows the version. -/
  | version
  deriving DecidableEq, Repr

/-- An option of a command. -/
structure OptionSpec where
  long : String
  short : Option Char := none
  action : OptionAction
  required : Bool := false
  default : Option String := none
  help : String
  /-- The position in the help text; options of one position are ordered by
  name. -/
  order : Nat
  /-- The check of a value. -/
  check : String → Option ValueFault := fun _ => none

namespace OptionSpec

/-- Whether the option takes a value. -/
def takesValue (o : OptionSpec) : Bool :=
  match o.action with
  | .value _ => true
  | _ => false

/-- What follows the name: the placeholder of a value, `...` for a counter. -/
def suffix (o : OptionSpec) : String :=
  match o.action with
  | .value p => " <" ++ p ++ ">"
  | .count => "..."
  | _ => ""

/-- The option as errors and usage lines name it: `--long` and its suffix. -/
def display (o : OptionSpec) : String := "--" ++ o.long ++ o.suffix

/-- The left column of the option's help row: the short name or blanks, then
the long name and its suffix. -/
def column (o : OptionSpec) : String :=
  (match o.short with
    | some c => "-" ++ c.toString ++ ", "
    | none => "    ") ++ o.display

/-- The help line with the default value appended; a default with a blank is
quoted. -/
def helpLine (o : OptionSpec) : String :=
  match o.default, o.action with
  | some d, .value _ =>
    let shown := if d.any Char.isWhitespace then Text.quoted d else d
    o.help ++ " [default: " ++ shown ++ "]"
  | _, _ => o.help

/-- The order of help rows: the display position, then the short name in
lower case (upper case after it), else the long name. -/
def sortKey (o : OptionSpec) : Nat × String :=
  let key := match o.short with
    | some c => c.toLower.toString ++ (if c.isLower then "0" else "1")
    | none => o.long
  (o.order, key)

/-- Whether an option row goes before another. -/
def before (a b : OptionSpec) : Bool :=
  let (x, s) := a.sortKey
  let (y, t) := b.sortKey
  x < y || (x == y && decide (s ≤ t))

/-- Whether the option is one that any command has (help or version). -/
def isBuiltin (o : OptionSpec) : Bool :=
  match o.action with
  | .help | .version => true
  | _ => false

end OptionSpec

/-- A command: the name shown in usage lines, its description, its options,
and its subcommands with their descriptions. -/
structure CommandSpec where
  name : String
  about : Option String
  options : List OptionSpec
  subcommands : List (String × String)

/-- The program's version. -/
def programVersion : String := "0.1.0"

namespace CommandSpec

/-- The option of a long name. -/
def findLong? (c : CommandSpec) (name : String) : Option OptionSpec :=
  c.options.find? (·.long == name)

/-- The option of a short name. -/
def findShort? (c : CommandSpec) (ch : Char) : Option OptionSpec :=
  c.options.find? (·.short == some ch)

/-- The required options, in declaration order. -/
def requiredOptions (c : CommandSpec) : List OptionSpec := c.options.filter (·.required)

/-- The usage line: name, `[OPTIONS]` if an option may be left out, the
required options, and `<COMMAND>` if a subcommand must follow. -/
def usage (c : CommandSpec) : String :=
  let optional := c.options.any fun o => !o.isBuiltin && !o.required
  let parts := [c.name] ++ (if optional then ["[OPTIONS]"] else []) ++
    c.requiredOptions.map (·.display) ++ (if c.subcommands.isEmpty then [] else ["<COMMAND>"])
  " ".intercalate parts

/-- The usage line in an error about some options (by long name): the
required options, then the named ones not among them. -/
def usageWith (c : CommandSpec) (used : List String) : String :=
  if used.isEmpty then c.usage
  else
    let named := used.filterMap c.findLong?
    let shown := (c.requiredOptions ++ named).map (·.display)
    let distinct := shown.foldl (fun acc s => if acc.contains s then acc else acc ++ [s]) []
    " ".intercalate ([c.name] ++ distinct ++ (if c.subcommands.isEmpty then [] else ["<COMMAND>"]))

/-- `n` blanks. -/
def blanks (n : Nat) : String := String.ofList (List.replicate n ' ')

/-- The rows of the options section. -/
def optionRows (c : CommandSpec) : List String :=
  let rows := c.options.mergeSort OptionSpec.before
  let width := rows.foldl (fun w o => max w (o.display.length + 4)) 2
  rows.map fun o => "  " ++ o.column ++ blanks (width + 2 - o.column.length) ++ o.helpLine

/-- The rows of the subcommands section. -/
def subcommandRows (c : CommandSpec) : List String :=
  let width := c.subcommands.foldl (fun w s => max w s.1.length) 2
  c.subcommands.map fun (name, about) => "  " ++ name ++ blanks (width + 2 - name.length) ++ about

/-- The help text. -/
def helpText (c : CommandSpec) : String :=
  let about := match c.about with
    | some a => a ++ "\n\n"
    | none => ""
  let commands := if c.subcommands.isEmpty then ""
    else "Commands:\n" ++ "\n".intercalate c.subcommandRows ++ "\n\n"
  about ++ "Usage: " ++ c.usage ++ "\n\n" ++ commands ++ "Options:\n" ++
    "\n".intercalate c.optionRows ++ "\n"

end CommandSpec

/-- A command line that breaks the rules of its command. -/
inductive UsageError where
  /-- An argument no option takes; perhaps a similar option, in this command
  or in a named subcommand. -/
  | unexpected (arg : String) (similar : Option String) (inSubcommand : Option String)
      (usage : String)
  /-- A word where a subcommand was expected, with similar subcommand names. -/
  | unknownSubcommand (word : String) (similar : List String) (usage : String)
  /-- A subcommand that was written after `--`. -/
  | escapedSubcommand (name : String) (usage : String)
  /-- No subcommand was given. -/
  | noSubcommand (program : String) (names : List String) (usage : String)
  /-- Required options are missing. -/
  | missing (options : List String) (usage : String)
  /-- An option that takes a value got none. -/
  | noValue (option : String)
  /-- An option's value does not parse. -/
  | invalidValue (option value reason : String)
  /-- An option was given twice. -/
  | repeated (option : String) (usage : String)
  /-- A switch was given a value. -/
  | extraValue (value option : String) (usage : String)
  deriving DecidableEq, Repr

namespace UsageError

/-- The closing lines of every usage error. -/
def moreInformation : String := "\n\nFor more information, try '--help'.\n"

/-- A usage paragraph. -/
def usageParagraph (usage : String) : String := "\n\nUsage: " ++ usage

/-- A quoted list of names. -/
def quotedNames (names : List String) : String :=
  ", ".intercalate (names.map fun n => "'" ++ n ++ "'")

/-- The text of a usage error. -/
def text : UsageError → String
  | .unexpected arg similar sub usage =>
    let tip := match similar, sub with
      | some s, none => "\n\n  tip: a similar argument exists: '" ++ s ++ "'"
      | some s, some c => "\n\n  tip: '" ++ c ++ " " ++ s ++ "' exists"
      | none, _ => ""
    "error: unexpected argument '" ++ arg ++ "' found" ++ tip ++ usageParagraph usage ++
      moreInformation
  | .unknownSubcommand word similar usage =>
    let tip := match similar with
      | [] => ""
      | [s] => "\n\n  tip: a similar subcommand exists: '" ++ s ++ "'"
      | ss => "\n\n  tip: some similar subcommands exist: " ++ quotedNames ss
    "error: unrecognized subcommand '" ++ word ++ "'" ++ tip ++ usageParagraph usage ++
      moreInformation
  | .escapedSubcommand name usage =>
    "error: unrecognized subcommand\n\n  tip: subcommand '" ++ name ++
      "' exists; to use it, remove the '--' before it" ++ usageParagraph usage ++ moreInformation
  | .noSubcommand program names usage =>
    "error: '" ++ program ++ "' requires a subcommand but one was not provided\n  [subcommands: " ++
      ", ".intercalate names ++ "]" ++ usageParagraph usage ++ moreInformation
  | .missing options usage =>
    "error: the following required arguments were not provided:" ++
      String.join (options.map ("\n  " ++ ·)) ++ usageParagraph usage ++ moreInformation
  | .noValue option =>
    "error: a value is required for '" ++ option ++ "' but none was supplied" ++ moreInformation
  | .invalidValue option value reason =>
    "error: invalid value '" ++ value ++ "' for '" ++ option ++ "': " ++ reason ++ moreInformation
  | .repeated option usage =>
    "error: the argument '" ++ option ++ "' cannot be used multiple times" ++
      usageParagraph usage ++ moreInformation
  | .extraValue value option usage =>
    "error: unexpected value '" ++ value ++ "' for '" ++ option ++
      "' found; no more were expected" ++ usageParagraph usage ++ moreInformation

end UsageError

end Attest
