import MacroByExample.Rules.RuleSet

/-!
# Definitions as forms

Rules are written as forms: `(syntax-rules (literal ...) (pattern template) ...)` is a rule set,
`(define-syntax name rules)` gives one a name, and a bundle `(form (literal ...) clause ...)` puts
a form together with the rules to expand it. A pattern may repeat on one level only: no repeated
part of it contains the ellipsis marker.

This is the Definition Loader of the specification (`SPEC_FULL.md` §15), which refuses nested
repetitions because the matcher would make one sequence of their captures (§14).

Main definitions:
* `literalSet`, `checkPattern`: the checks on literals and patterns.
* `RuleSet.ofForm`, `definitionOfForm`, `bundleOfForm`: what a form defines.
* `DefinitionError`: why a form is not a definition.
-/

namespace MacroByExample

/-! ## Errors -/

/-- Why a form is not a definition (`InvalidDefinition`). -/
inductive DefinitionError where
  /-- A rule set was expected. -/
  | notRules (found : Form)
  /-- A rule set ends after its keyword. -/
  | noLiterals
  /-- A named definition was expected. -/
  | notDefinition (found : Form)
  /-- A named definition starts with another keyword. -/
  | wrongKeyword (found : Form)
  /-- The name of a definition is a list. -/
  | nameNotAtom (found : Form)
  /-- A bundle was expected. -/
  | notBundle (found : Form)
  /-- A text of definitions holds none. -/
  | noDefinitions
  /-- Two definitions have one name. -/
  | repeatedName (name : String)
  /-- The literals are not in a list. -/
  | literalsNotList (found : Form)
  /-- A literal is a list. -/
  | literalNotAtom (found : Form)
  /-- The ellipsis marker is given as a literal. -/
  | ellipsisLiteral (token : String)
  /-- A repeated part of a pattern contains the ellipsis marker. -/
  | nestedEllipsis (group : Form) (ellipsis : String)
  /-- A rule is no pair of a pattern and a template. -/
  | notRule (found : Form)
deriving DecidableEq

namespace DefinitionError

/-- What is wrong with the definition, in words. -/
def reason : DefinitionError → String
  | .notRules found => s!"expected (syntax-rules ...), found {found.text}"
  | .noLiterals => "syntax-rules has no literal list"
  | .notDefinition found =>
    s!"expected (define-syntax name (syntax-rules ...)), found {found.text}"
  | .wrongKeyword found => s!"expected define-syntax, found {found.text}"
  | .nameNotAtom found => s!"macro name must be an atom, found {found.text}"
  | .notBundle found =>
    s!"expected (form (literal ...) (pattern template) ...), found {found.text}"
  | .noDefinitions => "no macro definitions found"
  | .repeatedName name => s!"macro '{name}' is defined more than once"
  | .literalsNotList found => s!"literals must be a list, found {found.text}"
  | .literalNotAtom found => s!"literal must be an atom, found {found.text}"
  | .ellipsisLiteral token => s!"the ellipsis marker '{token}' cannot be a literal"
  | .nestedEllipsis group ellipsis => s!"nested ellipsis in pattern: {group.text} {ellipsis}"
  | .notRule found => s!"rule must be (pattern template), found {found.text}"

/-- How to mend the definition. -/
def help? : DefinitionError → Option String
  | .noLiterals => some "use () when the macro has no literals"
  | .notBundle _ => some "a bundle needs at least the form and a literal list"
  | .repeatedName _ => some "merge the clauses into one syntax-rules form"
  | .nestedEllipsis _ _ => some "only one level of repetition is supported in patterns"
  | _ => none

end DefinitionError

/-! ## Literals -/

/-- Adds the items of a literal list to the set, first to last. -/
def addLiterals (s : MatchSettings) (literals : TokenSet) :
    List Form → Except DefinitionError TokenSet
  | [] => .ok literals
  | .list items :: _ => .error (.literalNotAtom (.list items))
  | .atom token :: rest =>
    if token = s.ellipsis then .error (.ellipsisLiteral token)
    else addLiterals s (literals.insert token) rest

/-- The set of literals that a form lists (`literal_set`). -/
def literalSet (s : MatchSettings) : Form → Except DefinitionError TokenSet
  | .list items => addLiterals s .empty items
  | .atom token => .error (.literalsNotList (.atom token))

/-! ## Patterns -/

mutual

/-- The first repeated part of a pattern that contains the ellipsis marker (`nested_ellipsis`). -/
def nestedGroup? (s : MatchSettings) : Form → Option Form
  | .atom _ => none
  | .list items => nestedGroupAmong? s items

/-- The first such part among the items of a list pattern, or inside one of them. -/
def nestedGroupAmong? (s : MatchSettings) : List Form → Option Form
  | [] => none
  | item :: rest =>
    if rest.head?.any s.isEllipsis && item.atoms.contains s.ellipsis then some item
    else
      match nestedGroup? s item with
      | some group => some group
      | none => nestedGroupAmong? s rest

end

/-- Refuses a pattern that repeats on more than one level (`check_pattern`). -/
def checkPattern (s : MatchSettings) (pattern : Form) : Except DefinitionError Unit :=
  match nestedGroup? s pattern with
  | some group => .error (.nestedEllipsis group s.ellipsis)
  | none => .ok ()

/-! ## Rules -/

/-- The rule that a clause `(pattern template)` is (`rule_from_clause`). -/
def ruleOfClause (s : MatchSettings) : Form → Except DefinitionError Rule
  | .list [pattern, template] => do
    checkPattern s pattern
    return ⟨pattern, template⟩
  | clause => .error (.notRule clause)

/-- The rule set with the given literals and clauses (`build_rules`). -/
def RuleSet.build (s : MatchSettings) (literals : Form) (clauses : List Form) :
    Except DefinitionError RuleSet := do
  let literals ← literalSet s literals
  let rules ← clauses.mapM (ruleOfClause s)
  return ⟨literals, rules, s⟩

/-- The keyword that a rule set starts with. -/
def rulesKeyword : String := "syntax-rules"

/-- The keyword that a named definition starts with. -/
def definitionKeyword : String := "define-syntax"

/-- The rule set that a form `(syntax-rules (literal ...) clause ...)` is
    (`syntax_rules_from_tree`). -/
def RuleSet.ofForm (s : MatchSettings) (form : Form) : Except DefinitionError RuleSet :=
  match form with
  | .list (.atom keyword :: rest) =>
    if keyword = rulesKeyword then
      match rest with
      | [] => .error .noLiterals
      | literals :: clauses => RuleSet.build s literals clauses
    else .error (.notRules form)
  | _ => .error (.notRules form)

/-- The name and the rule set that a form `(define-syntax name rules)` defines
    (`definition_from_tree`). -/
def definitionOfForm (s : MatchSettings) (form : Form) :
    Except DefinitionError (String × RuleSet) :=
  match form with
  | .list [keyword, name, body] =>
    if keyword = .atom definitionKeyword then
      match name with
      | .atom token => do
        let rules ← RuleSet.ofForm s body
        return (token, rules)
      | .list _ => .error (.nameNotAtom name)
    else .error (.wrongKeyword keyword)
  | _ => .error (.notDefinition form)

/-- The form and the rule set of a bundle `(form (literal ...) clause ...)` (`load_bundle`). -/
def bundleOfForm (s : MatchSettings) (bundle : Form) : Except DefinitionError (Form × RuleSet) :=
  match bundle with
  | .list (form :: literals :: clauses) => do
    let rules ← RuleSet.build s literals clauses
    return (form, rules)
  | _ => .error (.notBundle bundle)

end MacroByExample
