import MacroByExample.CommandLine.Words

/-!
# Invocations

An invocation is a command line whose options and operands are complete and do not exclude each
other. Settings that stand before and after the subcommand count as they stand after it. See
`SPEC_FULL.md` §19.

Main definitions:
* `Invocation`, `Command`, `Overrides`: what a command line asks for.
* `Invocation.ofArguments`: the invocation that a command line is.
-/

namespace MacroByExample.CommandLine

/-- Settings on the command line, which override those of the configuration file
    (`SettingsArgs`). -/
structure Overrides where
  /-- The path of the configuration file. -/
  config : Option String := none
  ellipsis : Option String := none
  lenient : Bool := false
  ignoreKeyword : Bool := false
  width : Option Nat := none
deriving DecidableEq, Repr

/-- How the result of an expansion is shown (`OutputArgs`). -/
structure OutputOptions where
  /-- Whether the rule that fired is explained. -/
  explain : Bool := false
  json : Bool := false
  /-- Whether long forms are broken into lines. -/
  pretty : Bool := false
deriving DecidableEq, Repr

/-- A subcommand with what it needs. -/
inductive Command where
  /-- Expands a form, or the one on standard input, by the rules of a file. -/
  | expand (rules : String) (form : Option String) (output : OutputOptions)
  /-- Expands the form of the bundle in a file. -/
  | run (file : String) (output : OutputOptions)
  /-- Matches a form against a pattern. -/
  | matching (pattern literals form : String) (json : Bool)
  /-- Writes the forms of a file anew. -/
  | fmt (file : String) (pretty : Bool)
deriving DecidableEq, Repr

/-- What a command line asks for (`SynRulesArgs`). -/
structure Invocation where
  /-- How much of what happens is to be logged. -/
  verbosity : Nat
  overrides : Overrides
  command : Command
deriving DecidableEq, Repr

/-- The text that an option was given, after the subcommand or else before it. -/
def textOption (outer inner : Given) (name : OptionName) : Option String :=
  match (inner.value? name).or (outer.value? name) with
  | some (.text s) => some s
  | _ => none

/-- The number that an option was given, after the subcommand or else before it. -/
def numberOption (outer inner : Given) (name : OptionName) : Option Nat :=
  match (inner.value? name).or (outer.value? name) with
  | some (.number n) => some n
  | _ => none

/-- The settings on both sides of the subcommand. -/
def overridesOf (outer inner : Given) : Overrides :=
  { config := textOption outer inner .config
    ellipsis := textOption outer inner .ellipsis
    lenient := inner.has .lenient || outer.has .lenient
    ignoreKeyword := inner.has .ignoreKeyword || outer.has .ignoreKeyword
    width := numberOption outer inner .width }

/-- The form of output that was chosen. -/
def outputOf (inner : Given) : OutputOptions :=
  ⟨inner.has .explain, inner.has .json, inner.has .pretty⟩

/-- What has to be given. -/
def required (value : Option String) : Except UsageError String :=
  match value with
  | some s => .ok s
  | none => .error .missingArgument

/-- The command that a subcommand is with what it was given. -/
def commandOf (sub : Subcommand) (inner : Given) : Except UsageError Command :=
  if inner.has .json && inner.has .pretty then .error .conflict
  else
    match sub with
    | .expand => do
      let rules ← required (textOption {} inner .rules)
      return .expand rules inner.operands.head? (outputOf inner)
    | .run => do
      let file ← required inner.operands.head?
      return .run file (outputOf inner)
    | .matching => do
      let pattern ← required (textOption {} inner .pattern)
      let form ← required inner.operands.head?
      return .matching pattern ((textOption {} inner .literals).getD "()") form (inner.has .json)
    | .fmt => do
      let file ← required inner.operands.head?
      return .fmt file (inner.has .pretty)

/-- The invocation that a command line is. -/
def Invocation.ofArguments (args : List String) : Except UsageError Invocation := do
  let (outer, sub) ← topLevel.readWords args {}
  match sub with
  | none => do
    let outer ← outer.settle
    .error (if outer.options.isEmpty then .nothingGiven else .noSubcommand)
  | some (sub, rest) => do
    let (inner, _) ← sub.level.readWords rest {}
    let inner ← inner.settle
    let command ← commandOf sub inner
    let outer ← outer.settle
    return {
      verbosity := if inner.has .verbose then inner.tally .verbose else outer.tally .verbose
      overrides := overridesOf outer inner
      command := command }

end MacroByExample.CommandLine
