import MacroByExample.Rules.RuleSet
import MacroByExample.Token.Map

/-!
# Tables of macros

A table gives rule sets names. A form `(name argument ...)` calls the rules of its name; it is
expanded once, by those rules alone. See `SPEC_FULL.md` §15.

Main definitions:
* `MacroTable`: the type; `get?`, `register`, `names`.
* `MacroTable.tryRules`, `MacroTable.expand`: what the table makes of a form.
-/

namespace MacroByExample

/-- Rule sets by name. -/
structure MacroTable where
  macros : TokenMap RuleSet
deriving DecidableEq

namespace MacroTable

/-- The table without names. -/
def empty : MacroTable := ⟨.empty⟩

instance : Inhabited MacroTable := ⟨empty⟩

/-- The rules of a name. -/
def get? (t : MacroTable) (name : String) : Option RuleSet :=
  t.macros.get? name

/-- Whether the name has rules. -/
def contains (t : MacroTable) (name : String) : Bool :=
  t.macros.contains name

/-- The table in which the name has the given rules and no others. -/
def register (t : MacroTable) (name : String) (rules : RuleSet) : MacroTable :=
  ⟨t.macros.insert name rules⟩

/-- The names in increasing order. -/
def names (t : MacroTable) : List String :=
  t.macros.keys

/-- The number of names. -/
def size (t : MacroTable) : Nat :=
  t.macros.size

/-- Whether the table has no name. -/
def isEmpty (t : MacroTable) : Bool :=
  t.macros.isEmpty

/-- What the rules that the form calls produce. -/
def tryRules (t : MacroTable) (form : Form) : Except DispatchError Expansion :=
  match form.headToken? with
  | none => .error (.notACall form)
  | some name =>
    match t.get? name with
    | none => .error (.unknownMacro name t.names)
    | some rules => rules.tryRules form

/-- The form that the rules it calls put in its place. -/
def expand (t : MacroTable) (form : Form) : Except DispatchError Form :=
  (t.tryRules form).map Expansion.output

end MacroTable

end MacroByExample
