import MacroByExample.Rules.Definition
import MacroByExample.Rules.MacroTable

/-!
# Texts of definitions

A text of definitions is a single rule set, which expands forms of any name, or a number of named
definitions, whose names must differ. See `SPEC_FULL.md` §15.

Main definitions:
* `Definitions`: a single rule set or a table.
* `Definitions.ofForms`: what the forms of a text define.
* `Definitions.tryRules`, `Definitions.rulesFor?`: what they make of a form, and by which rules.
-/

namespace MacroByExample

/-- A rule set without a name, or rule sets by name. -/
inductive Definitions where
  | single (rules : RuleSet)
  | table (macros : MacroTable)
deriving DecidableEq

namespace Definitions

/-- What the definitions make of a form. -/
def tryRules (d : Definitions) (form : Form) : Except DispatchError Expansion :=
  match d with
  | .single rules => rules.tryRules form
  | .table macros => macros.tryRules form

/-- The form that the definitions put in place of another. -/
def expand (d : Definitions) (form : Form) : Except DispatchError Form :=
  (d.tryRules form).map Expansion.output

/-- The rule set that is responsible for a form (`rules_for`). -/
def rulesFor? (d : Definitions) (form : Form) : Option RuleSet :=
  match d with
  | .single rules => some rules
  | .table macros => form.headToken?.bind macros.get?

/-- Adds named definitions to a table; no name may occur twice. -/
def addDefinitions (s : MatchSettings) (macros : MacroTable) :
    List Form → Except DefinitionError MacroTable
  | [] => .ok macros
  | form :: rest => do
    let (name, rules) ← definitionOfForm s form
    if macros.contains name then .error (.repeatedName name)
    else addDefinitions s (macros.register name rules) rest

/-- What the forms of a text define (`definitions_from_forms`). A form that starts like a rule set
    and stands alone is one. -/
def ofForms (s : MatchSettings) (forms : List Form) : Except DefinitionError Definitions :=
  match forms with
  | [] => .error .noDefinitions
  | [form] =>
    if form.headToken? = some rulesKeyword then (RuleSet.ofForm s form).map .single
    else (addDefinitions s .empty [form]).map .table
  | _ => (addDefinitions s .empty forms).map .table

end Definitions

end MacroByExample
