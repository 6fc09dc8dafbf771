import MacroByExample.CommandLine.Invocation
import MacroByExample.Failure
import MacroByExample.Report
import MacroByExample.Rules.Definitions

/-!
# Execution

An invocation is executed against an environment of readable files. What it writes accumulates on
standard output until it ends or fails. The commands are those of the specification (`SPEC_FULL.md`
§19), and so is what overrides the configuration file (§18).

Main definitions:
* `Environment`: the files, standard input, and whether colours are shown.
* `Run`: a computation that writes and may fail.
* `resolveConfiguration`: the configuration file with the overrides of the command line.
* `execute`: the execution of an invocation; `outcome` is what it wrote and how it ended.
-/

namespace MacroByExample.CommandLine

/-- What an invocation can read. -/
structure Environment where
  /-- The text of a file; none if there is no such file, or if it is no text. -/
  file? : String → Option String
  /-- The text of standard input; none if it is no text. -/
  stdin? : Option String
  /-- Whether colours are shown. -/
  color : Bool

/-- A computation that writes on standard output and may fail. -/
abbrev Run (α : Type) := ExceptT Failure (StateM (List Char)) α

/-- Writes text. -/
def write (cs : List Char) : Run Unit :=
  modify (· ++ cs)

/-- The value of a step, or the end of the computation. -/
def orFail {ε α : Type} (failure : ε → Failure) : Except ε α → Run α
  | .ok a => pure a
  | .error e => throw (failure e)

/-! ## Reading -/

/-- The text of a file. -/
def readFile (env : Environment) (operation path : String) : Except Failure String :=
  match env.file? path with
  | some text => .ok text
  | none => .error (.file operation path)

/-- The name under which standard input is reported. -/
def stdinName : String := "<stdin>"

/-- The name of a text that came from no file. -/
def inlineName : String := "<input>"

/-- The text of standard input. -/
def readStdin (env : Environment) : Except Failure String :=
  match env.stdin? with
  | some text => .ok text
  | none => .error (.file "read" stdinName)

/-- The form of a text that holds exactly one; `source` is the name of the text. -/
def formOfText (source text : String) : Except Failure Form :=
  (Reader.readOne text).mapError (.reading source)

/-- The definitions of a text (`parse_definitions`); `source` is the name of the text. -/
def definitionsOfText (s : MatchSettings) (source text : String) : Except Failure Definitions := do
  let forms ← (Reader.read text).mapError (.reading source)
  (Definitions.ofForms s forms).mapError .definition

/-! ## Configuration -/

/-- The configuration with the overrides. -/
def Overrides.apply (o : Overrides) (c : Configuration) : Configuration :=
  { ellipsis := o.ellipsis.getD c.ellipsis
    trailing := if o.lenient then .lenient else c.trailing
    ignoreKeyword := c.ignoreKeyword || o.ignoreKeyword
    width := o.width.getD c.width }

/-- The configuration that is given in a file (`load`), which must be valid by itself, or the
    default one. -/
def baseConfiguration (env : Environment) : Option String → Except Failure Configuration
  | none => .ok {}
  | some path => do
    let text ← readFile env "read config" path
    (Configuration.ofJson text).mapError .configuration

/-- The configuration of an invocation (`resolve_config`): the one of its file with its overrides,
    which must be valid once more. -/
def resolveConfiguration (env : Environment) (o : Overrides) : Except Failure Configuration := do
  let base ← baseConfiguration env o.config
  (o.apply base).validate.mapError .configuration
  return o.apply base

/-! ## Commands -/

/-- Shows an expansion as the output options ask (`emit`). -/
def showExpansion (env : Environment) (c : Configuration) (output : OutputOptions) (input : Form)
    (rule? : Option Rule) (e : Expansion) : Run Unit := do
  if output.explain then
    match rule? with
    | some rule => write (Report.explanation env.color c.width input rule e)
    | none => pure ()
  if output.json then write (Report.json e.output.toJson)
  else write (Report.form (if output.pretty then some c.width else none) e.output)

/-- Expands a form by the rules of a file (`handle_expand`). -/
def runExpand (env : Environment) (c : Configuration) (rules : String) (form : Option String)
    (output : OutputOptions) : Run Unit := do
  let text ← orFail id (readFile env "read" rules)
  let definitions ← orFail id (definitionsOfText c.toMatchSettings rules text)
  let source ← match form with
    | some text => pure text
    | none => orFail id (readStdin env)
  let input ← orFail id (formOfText inlineName source)
  let e ← orFail .dispatch (definitions.tryRules input)
  let rule? := (definitions.rulesFor? input).bind fun r => r.rules[e.index]?
  showExpansion env c output input rule? e

/-- Expands the form of a bundle (`handle_run`). -/
def runBundle (env : Environment) (c : Configuration) (file : String) (output : OutputOptions) :
    Run Unit := do
  let text ← orFail id (readFile env "read" file)
  let bundle ← orFail id (formOfText file text)
  let (input, rules) ← orFail .definition (bundleOfForm c.toMatchSettings bundle)
  let e ← orFail .dispatch (rules.tryRules input)
  showExpansion env c output input rules.rules[e.index]? e

/-- Matches a form against a pattern and shows the bindings (`handle_match`). -/
def runMatch (c : Configuration) (pattern literals form : String) (json : Bool) : Run Unit := do
  let pattern ← orFail id (formOfText "<pattern>" pattern)
  let literals ← orFail id (formOfText "<literals>" literals)
  let form ← orFail id (formOfText "<form>" form)
  let literals ← orFail .definition (literalSet c.toMatchSettings literals)
  orFail .definition (checkPattern c.toMatchSettings pattern)
  let b ← orFail .mismatch (matchRule literals c.toMatchSettings pattern form)
  write (if json then Report.json b.toJson else Report.bindings b)

/-- Writes the forms of a file anew (`handle_fmt`). -/
def runFormat (env : Environment) (c : Configuration) (file : String) (pretty : Bool) :
    Run Unit := do
  let text ← orFail id (readFile env "read" file)
  let forms ← orFail (.reading file) (Reader.read text)
  forms.forM fun f => write (Report.form (if pretty then some c.width else none) f)

/-- Executes an invocation. -/
def execute (env : Environment) (i : Invocation) : Run Unit := do
  let c ← orFail id (resolveConfiguration env i.overrides)
  match i.command with
  | .expand rules form output => runExpand env c rules form output
  | .run file output => runBundle env c file output
  | .matching pattern literals form json => runMatch c pattern literals form json
  | .fmt file pretty => runFormat env c file pretty

/-- What an invocation wrote, and how it ended. -/
structure Outcome where
  stdout : List Char
  result : Except Failure Unit

/-- The outcome of executing an invocation. -/
def outcome (env : Environment) (i : Invocation) : Outcome :=
  match (execute env i).run [] with
  | (result, stdout) => ⟨stdout, result⟩

end MacroByExample.CommandLine
