import MacroByExample.Rules.Expand
import MacroByExample.Rules.Match

/-!
# Dispatch

A form is tried against the patterns of a list of rules in order. The first rule that matches is
the only one whose template is expanded, and the result is final: neither is it expanded again, nor
does a failing template let a later rule have its turn.

This is the Rule Dispatcher of the specification (`SPEC_FULL.md` §4.3; the log is that of §17).
According to §7 a template that fails ends the attempt of its rule only; here, as in §4.3, the first
rule that matches is the last that is tried.

Main definitions:
* `Rule`, `Expansion`: a pattern with a template, and what a rule that fired produced.
* `dispatch`: the result of trying the rules, with a log of what happened.
* `DispatchError`: why no form was produced.
* `Event`: an entry of the log.
-/

namespace MacroByExample

/-! ## Rules and results -/

/-- A pattern, and the template that replaces a form matching it. -/
structure Rule where
  pattern : Form
  template : Form
deriving DecidableEq

/-- What a rule that fired produced. -/
structure Expansion where
  /-- The position of the rule, from zero (`rule_index`). -/
  index : Nat
  bindings : Bindings
  output : Form
deriving DecidableEq

/-- Why no form was produced. -/
inductive DispatchError where
  /-- None of the rules matches the form. -/
  | noRuleMatched (form : Form) (tried : Nat)
  /-- The template of the rule that matches cannot be expanded (`Expand`). -/
  | template (rule : Nat) (error : ExpandError)
  /-- The form calls a name that has no rules. -/
  | unknownMacro (name : String) (known : List String)
  /-- The form does not start with a name (`NotAMacroCall`). -/
  | notACall (form : Form)
deriving DecidableEq

/-- The error in words. -/
def DispatchError.message : DispatchError → String
  | .noRuleMatched form tried => s!"no rule matched {form.text} ({tried} rules tried)"
  | .template rule error => s!"rule {rule} matched but its template failed: {error.message}"
  | .unknownMacro name _ => s!"no macro named '{name}'"
  | .notACall form => s!"{form.text} is not a macro call"

/-! ## The log -/

/-- What happened to one rule, or to all of them. -/
inductive Event where
  /-- The rule's pattern does not match. -/
  | rejected (rule : Nat) (reason : MatchError)
  /-- The rule's pattern matches the form. -/
  | matched (rule : Nat) (form : Form)
  /-- No rule is left to try. -/
  | exhausted (tried : Nat) (form : Form)
deriving DecidableEq

namespace Event

/-- How closely one has to look to see the event. -/
def level : Event → String
  | .rejected _ _ => "TRACE"
  | .matched _ _ => "DEBUG"
  | .exhausted _ _ => "DEBUG"

/-- The event in words. -/
def message : Event → String
  | .rejected _ _ => "rule rejected"
  | .matched _ _ => "rule matched"
  | .exhausted _ _ => "no rule matched"

/-- The named particulars of the event. -/
def details : Event → List (String × String)
  | .rejected rule reason => [("rule", toString rule), ("reason", reason.message)]
  | .matched rule form => [("rule", toString rule), ("form", form.text)]
  | .exhausted tried form => [("tried", toString tried), ("form", form.text)]

end Event

/-! ## Trying rules -/

/-- The result of trying rules, and what happened on the way. -/
structure Attempt where
  log : List Event
  result : Except DispatchError Expansion

/-- The expansion of a rule's template with the bindings of its match. -/
def fire (s : MatchSettings) (index : Nat) (template : Form) (b : Bindings) :
    Except DispatchError Expansion :=
  match expandForm s template b with
  | .ok output => .ok ⟨index, b, output⟩
  | .error error => .error (.template index error)

/-- Tries rules in order; the first of them has the given position. -/
def dispatchFrom (literals : TokenSet) (s : MatchSettings) (form : Form) (index : Nat) :
    List Rule → Attempt
  | [] => ⟨[.exhausted index form], .error (.noRuleMatched form index)⟩
  | rule :: rules =>
    match matchRule literals s rule.pattern form with
    | .ok b => ⟨[.matched index form], fire s index rule.template b⟩
    | .error reason =>
      let attempt := dispatchFrom literals s form (index + 1) rules
      ⟨.rejected index reason :: attempt.log, attempt.result⟩

/-- Tries the rules in order. -/
def dispatch (literals : TokenSet) (s : MatchSettings) (rules : List Rule) (form : Form) :
    Attempt :=
  dispatchFrom literals s form 0 rules

end MacroByExample
