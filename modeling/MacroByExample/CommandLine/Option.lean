/-!
# Options and operands

What may stand on a command line: options, which start with hyphens and may take a value, operands,
which do not, and subcommands, each with options and operands of its own. The settings options may
stand before the subcommand as well as after it.

They are those of the specification (`SPEC_FULL.md` §19), as `SynRulesArgs`, `SettingsArgs` and
`OutputArgs` declare them.

Main definitions:
* `OptionName`, `OptionSpec`: the options and how they are written.
* `Subcommand`, `Level`: what may stand before a subcommand, and after each.
* `Argument`, `ValueKind.accept`: the values of options and operands, and their check.
* `UsageError`: what can be wrong with a command line, or end it early.
-/

namespace MacroByExample.CommandLine

/-! ## Errors -/

/-- Why a command line is no invocation. -/
inductive UsageError where
  /-- There is nothing on the command line. -/
  | nothingGiven
  /-- Help is asked for. -/
  | helpRequested
  /-- The version is asked for. -/
  | versionRequested
  /-- A word in the place of the subcommand is none. -/
  | unknownSubcommand
  /-- There are options and no subcommand. -/
  | noSubcommand
  /-- An option that does not exist, or an operand too many. -/
  | unknownArgument
  /-- An option or operand that has to be there is not. -/
  | missingArgument
  /-- An option without its value, or a path without a character. -/
  | missingValue
  /-- A value that is not of its kind. -/
  | badValue
  /-- A value for an option that takes none. -/
  | surplusValue
  /-- Options that exclude each other, or one given twice. -/
  | conflict
deriving DecidableEq, Repr

/-! ## Values -/

/-- What a value has to be. -/
inductive ValueKind where
  /-- Any text. -/
  | text
  /-- The path of a file, which has a character at least. -/
  | path
  /-- A natural number of 64 bits. -/
  | number
deriving DecidableEq, Repr

/-- What an option or operand was given. -/
inductive Argument where
  /-- It is there, and takes no value. -/
  | present
  | text (value : String)
  | number (value : Nat)
deriving DecidableEq, Repr

/-- The value of decimal digits. -/
def decimalValue (ds : List Char) : Nat :=
  ds.foldl (fun n d => n * 10 + (d.toNat - '0'.toNat)) 0

/-- The natural number of 64 bits that a text is; a plus sign may stand in front. -/
def number? (s : String) : Option Nat :=
  let ds := match s.toList with
    | '+' :: ds => ds
    | ds => ds
  if !ds.isEmpty && ds.all Char.isDigit && decimalValue ds < Nat.pow 2 64 then some (decimalValue ds)
  else none

/-- The value, if it is of the kind. -/
def ValueKind.accept (kind : ValueKind) (value : String) : Except UsageError Argument :=
  match kind with
  | .text => .ok (.text value)
  | .path => if value.isEmpty then .error .missingValue else .ok (.text value)
  | .number =>
    match number? value with
    | some n => .ok (.number n)
    | none => .error .badValue

/-! ## Options -/

/-- The options. -/
inductive OptionName where
  | config
  | ellipsis
  | explain
  | help
  | ignoreKeyword
  | json
  | lenient
  | literals
  | pattern
  | pretty
  | rules
  | verbose
  | version
  | width
deriving DecidableEq, Repr

/-- What an option does. -/
inductive Effect where
  /-- It is given once, without a value. -/
  | flag
  /-- It is given any number of times, without a value. -/
  | tally
  /-- It is given once, with a value. -/
  | value (kind : ValueKind)
  /-- It ends the command line at once. -/
  | stop (error : UsageError)
deriving DecidableEq, Repr

/-- An option and how it is written. -/
structure OptionSpec where
  name : OptionName
  long : String
  short? : Option Char
  effect : Effect
deriving DecidableEq, Repr

/-- The settings, which every level takes. -/
def settingsOptions : List OptionSpec :=
  [⟨.verbose, "verbose", some 'v', .tally⟩,
   ⟨.config, "config", none, .value .path⟩,
   ⟨.ellipsis, "ellipsis", none, .value .text⟩,
   ⟨.lenient, "lenient", none, .flag⟩,
   ⟨.ignoreKeyword, "ignore-keyword", none, .flag⟩,
   ⟨.width, "width", none, .value .number⟩,
   ⟨.help, "help", some 'h', .stop .helpRequested⟩]

/-- The forms of output to choose from. -/
def outputOptions : List OptionSpec :=
  [⟨.explain, "explain", none, .flag⟩,
   ⟨.json, "json", none, .flag⟩,
   ⟨.pretty, "pretty", none, .flag⟩]

/-! ## Levels -/

/-- The subcommands. -/
inductive Subcommand where
  /-- Expands one form by the rules of a file. -/
  | expand
  /-- Expands the form of a bundle. -/
  | run
  /-- Matches one form against one pattern. -/
  | matching
  /-- Writes the forms of a file anew. -/
  | fmt
deriving DecidableEq, Repr

/-- The subcommand of a name. -/
def subcommand? (name : String) : Option Subcommand :=
  if name = "expand" then some .expand
  else if name = "run" then some .run
  else if name = "match" then some .matching
  else if name = "fmt" then some .fmt
  else none

/-- The name under which help on subcommands is found. -/
def helpName : String := "help"

/-- What may stand before the subcommand, or after one. -/
structure Level where
  options : List OptionSpec
  operands : List ValueKind
  /-- Whether a subcommand is expected. -/
  hasSubcommands : Bool

/-- What may stand before the subcommand. -/
def topLevel : Level :=
  ⟨settingsOptions ++ [⟨.version, "version", some 'V', .stop .versionRequested⟩], [], true⟩

/-- What may stand after a subcommand. -/
def Subcommand.level : Subcommand → Level
  | .expand =>
    ⟨settingsOptions ++ outputOptions ++ [⟨.rules, "rules", some 'r', .value .path⟩], [.text], false⟩
  | .run => ⟨settingsOptions ++ outputOptions, [.path], false⟩
  | .matching =>
    ⟨settingsOptions ++ [⟨.pattern, "pattern", some 'p', .value .text⟩,
      ⟨.literals, "literals", some 'l', .value .text⟩, ⟨.json, "json", none, .flag⟩],
      [.text], false⟩
  | .fmt => ⟨settingsOptions ++ [⟨.pretty, "pretty", none, .flag⟩], [.path], false⟩

/-- The option of a long name. -/
def Level.long? (level : Level) (name : String) : Option OptionSpec :=
  level.options.find? fun o => o.long == name

/-- The option of a letter. -/
def Level.short? (level : Level) (letter : Char) : Option OptionSpec :=
  level.options.find? fun o => o.short? == some letter

end MacroByExample.CommandLine
