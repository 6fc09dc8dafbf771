import MacroByExample.Configuration
import MacroByExample.Reader.Basic
import MacroByExample.Rules.Definition

/-!
# Failures

Everything that can go wrong between the user's input and the result, as the user is told of it: a
message, a code, help where there is any, and for a text that cannot be read its name and the place
in it. The kinds and their codes are those of the specification (`SPEC_FULL.md` §16). What the
system says about a file that it cannot read is left out.

Main definitions:
* `Failure`: the causes.
* `Failure.message`, `Failure.code`, `Failure.help?`, `Failure.label?`, `Failure.source?`: what the
  user is told.
-/

namespace MacroByExample

/-- What went wrong (`SynRulesError`). -/
inductive Failure where
  /-- The text of the given name cannot be read. -/
  | reading (source : String) (error : Reader.ReadError)
  /-- The rules produced no form. -/
  | dispatch (error : DispatchError)
  /-- The form does not match the pattern (`PatternMismatch`). -/
  | mismatch (error : MatchError)
  /-- The definition is none (`InvalidDefinition`). -/
  | definition (error : DefinitionError)
  /-- The file cannot be read or written (`Io`). -/
  | file (operation path : String)
  /-- The configuration is refused (`Config`). -/
  | configuration (error : ConfigurationError)

namespace Failure

/-- What went wrong, in words. -/
def message : Failure → String
  | .reading _ error => error.message
  | .dispatch (.noRuleMatched form tried) => s!"No rule matched {form.text} ({tried} rules tried)"
  | .dispatch (.template rule error) => s!"Rule {rule} expansion failed: {error.message}"
  | .dispatch (.unknownMacro name _) => s!"No macro named '{name}'"
  | .dispatch (.notACall form) => s!"Form {form.text} is not a macro call"
  | .mismatch error => s!"Form does not match pattern: {error.message}"
  | .definition error => s!"Invalid macro definition: {error.reason}"
  | .file operation path => s!"Failed to {operation} '{path}'"
  | .configuration error => s!"Invalid configuration: {error.reason}"

/-- The code of the kind of failure. -/
def code : Failure → String
  | .reading _ (.unbalanced _) => "synrules::parse::unbalanced"
  | .reading _ .malformed => "synrules::parse::malformed"
  | .reading _ (.count _ _ _) => "synrules::parse::count"
  | .dispatch (.noRuleMatched _ _) => "synrules::rules::no_match"
  | .dispatch (.template _ _) => "synrules::rules::template"
  | .dispatch (.unknownMacro _ _) => "synrules::rules::unknown_macro"
  | .dispatch (.notACall _) => "synrules::rules::not_a_call"
  | .mismatch _ => "synrules::rules::mismatch"
  | .definition _ => "synrules::rules::definition"
  | .file _ _ => "synrules::io"
  | .configuration _ => "synrules::config"

/-- How to mend it. -/
def help? : Failure → Option String
  | .reading _ error => error.help?
  | .dispatch (.noRuleMatched _ _) =>
    some "check the form against each rule's pattern; literals must match exactly"
  | .dispatch (.unknownMacro _ known) =>
    if known.isEmpty then none else some ("defined macros: " ++ ", ".intercalate known)
  | .dispatch (.notACall _) =>
    some "definitions files with define-syntax expand forms shaped (name arg ...)"
  | .definition error => error.help?
  | .configuration error => error.help?
  | _ => none

/-- The place in the text that cannot be read. -/
def label? : Failure → Option Reader.Label
  | .reading _ error => error.label?
  | _ => none

/-- The name of the text that cannot be read. -/
def source? : Failure → Option String
  | .reading source _ => some source
  | _ => none

end Failure

end MacroByExample
