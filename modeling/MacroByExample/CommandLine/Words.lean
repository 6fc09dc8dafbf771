import MacroByExample.CommandLine.Option

/-!
# The words of a command line

The words are read one after the other. A value that stands in a word of its own is checked only
when the next option or operand, or the end of the level, shows that it is complete; an unknown
option is reported before that. After two hyphens every word is an operand. The package `clap` reads
command lines so.

Main definitions:
* `Given`: what a level was given so far.
* `Level.readWords`: reads the words of a level, up to a subcommand.
* `Given.value?`, `Given.has`, `Given.tally`: what was given in the end.
-/

namespace MacroByExample.CommandLine

/-- A value that is not checked yet. -/
inductive Pending where
  | nothing
  /-- An option that takes a value, which may still be missing. -/
  | option (spec : OptionSpec) (value : Option String)
  | operand (kind : ValueKind) (value : String)
deriving DecidableEq, Repr

/-- What a level was given so far. -/
structure Given where
  /-- The options in order. -/
  options : List (OptionName × Argument) := []
  /-- The operands in order. -/
  operands : List String := []
  pending : Pending := .nothing
deriving DecidableEq, Repr

namespace Given

/-- The value of an option. -/
def value? (g : Given) (name : OptionName) : Option Argument :=
  g.options.lookup name

/-- Whether an option is given. -/
def has (g : Given) (name : OptionName) : Bool :=
  (g.value? name).isSome

/-- How often an option is given. -/
def tally (g : Given) (name : OptionName) : Nat :=
  (g.options.filter fun o => o.1 == name).length

/-- One more option. -/
def add (g : Given) (name : OptionName) (value : Argument) : Given :=
  { g with options := g.options ++ [(name, value)] }

/-- One more option that may be given once. -/
def addOnce (g : Given) (name : OptionName) (value : Argument) : Except UsageError Given :=
  if g.has name then .error .conflict else .ok (g.add name value)

/-- Adds an option with its value: an option may be given once, and its value must be of its kind. -/
def addValue (g : Given) (name : OptionName) (kind : ValueKind) (value : String) :
    Except UsageError Given :=
  if g.has name then .error .conflict
  else do return g.add name (← kind.accept value)

/-- Checks the value that is pending. -/
def settle (g : Given) : Except UsageError Given :=
  let g' := { g with pending := .nothing }
  match g.pending with
  | .nothing => .ok g
  | .operand kind value => do
    let _ ← kind.accept value
    return g'
  | .option _ none => .error .missingValue
  | .option spec (some value) =>
    match spec.effect with
    | .value kind => g'.addValue spec.name kind value
    | _ => .ok g'

/-- Whether the next plain word is the value of an option. -/
def isAwaiting (g : Given) : Bool :=
  match g.pending with
  | .option _ none => true
  | _ => false

/-- Gives the option that waits for its value a word. -/
def supply (g : Given) (word : String) : Given :=
  match g.pending with
  | .option spec none => { g with pending := .option spec (some word) }
  | _ => g

/-- Adds an option; a value may be attached to it. -/
def useOption (g : Given) (spec : OptionSpec) (attached : Option String) :
    Except UsageError Given :=
  match spec.effect, attached with
  | .value kind, some value => do
    let g ← g.settle
    g.addValue spec.name kind value
  | .value _, none => do
    let g ← g.settle
    return { g with pending := .option spec none }
  | _, some _ => .error .surplusValue
  | .flag, none => do
    let g ← g.settle
    g.addOnce spec.name .present
  | .tally, none => do
    let g ← g.settle
    return g.add spec.name .present
  | .stop error, none => do
    let _ ← g.settle
    .error error

end Given

/-! ## Reading -/

/-- The parts of a word: before the first equals sign, and after it if there is one. -/
def splitValue (cs : List Char) : String × Option String :=
  let name := cs.takeWhile (· != '=')
  match cs.dropWhile (· != '=') with
  | [] => (String.ofList name, none)
  | _ :: value => (String.ofList name, some (String.ofList value))

/-- What is attached to the letter of an option that takes a value. -/
def attachedTo : List Char → Option String
  | [] => none
  | '=' :: value => some (String.ofList value)
  | value => some (String.ofList value)

/-- Reads the letters behind one hyphen. -/
def Level.readLetters (level : Level) : List Char → Given → Except UsageError Given
  | [], g => .ok g
  | letter :: rest, g =>
    match level.short? letter with
    | none => .error .unknownArgument
    | some spec =>
      match spec.effect with
      | .value _ => g.useOption spec (attachedTo rest)
      | _ => do level.readLetters rest (← g.useOption spec none)

/-- The error of a word that has no place as an operand. -/
def Level.misplaced (level : Level) (literally : Bool) (word : String) : UsageError :=
  if !level.hasSubcommands then .unknownArgument
  else if literally && ((subcommand? word).isSome || word == helpName) then .unknownArgument
  else .unknownSubcommand

/-- Adds an operand. -/
def Level.readOperand (level : Level) (literally : Bool) (word : String) (g : Given) :
    Except UsageError Given :=
  match level.operands[g.operands.length]? with
  | none => .error (level.misplaced literally word)
  | some kind => do
    let g ← g.settle
    return { g with operands := g.operands ++ [word], pending := .operand kind word }

/-- Reads the words after two hyphens. -/
def Level.readOperands (level : Level) : List String → Given → Except UsageError Given
  | [], g => .ok g
  | word :: rest, g => do level.readOperands rest (← level.readOperand true word g)

/-- What asking for help on subcommands amounts to. -/
def helpOn : List String → UsageError
  | [] => .helpRequested
  | [name] =>
    if (subcommand? name).isSome || name == helpName then .helpRequested else .unknownSubcommand
  | _ => .unknownSubcommand

/-- Reads the words of a level. The result has the subcommand that ends it and the words after
    that. -/
def Level.readWords (level : Level) :
    List String → Given → Except UsageError (Given × Option (Subcommand × List String))
  | [], g => .ok (g, none)
  | word :: rest, g =>
    if level.hasSubcommands && !g.isAwaiting && word == helpName then .error (helpOn rest)
    else
      match if level.hasSubcommands && !g.isAwaiting then subcommand? word else none with
      | some sub => .ok (g, some (sub, rest))
      | none =>
        match word.toList with
        | ['-', '-'] => do return (← level.readOperands rest g, none)
        | '-' :: '-' :: name =>
          match splitValue name with
          | (long, attached) =>
            match level.long? long with
            | none => .error .unknownArgument
            | some spec => do level.readWords rest (← g.useOption spec attached)
        | '-' :: letter :: letters => do
          level.readWords rest (← level.readLetters (letter :: letters) g)
        | _ =>
          if g.isAwaiting then level.readWords rest (g.supply word)
          else do level.readWords rest (← level.readOperand false word g)

end MacroByExample.CommandLine
