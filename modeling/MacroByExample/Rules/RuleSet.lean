import MacroByExample.Rules.Dispatch

/-!
# Rule sets

The value of a macro definition in the specification (`SPEC_FULL.md` §14).

Main definitions:
* `RuleSet`: the literals, rules and settings of one definition.
* `RuleSet.tryRules`, `RuleSet.expand`: what the rules make of a form.
-/

namespace MacroByExample

/-- The literals, the rules in order and the settings of one definition (`SyntaxRules`). -/
structure RuleSet where
  literals : TokenSet
  rules : List Rule
  settings : MatchSettings
deriving DecidableEq

namespace RuleSet

/-- What the first rule that matches the form produces. -/
def tryRules (r : RuleSet) (form : Form) : Except DispatchError Expansion :=
  (dispatch r.literals r.settings r.rules form).result

/-- The form that the rules put in place of another. -/
def expand (r : RuleSet) (form : Form) : Except DispatchError Form :=
  (r.tryRules form).map Expansion.output

end RuleSet

end MacroByExample
