import MacroByExample.Rules.Bindings
import MacroByExample.Rules.Settings

/-!
# Matching

A form is matched against a pattern from left to right. An atom that is a literal matches only
itself, any other atom is a variable and captures the form it meets. A list matches a list item by
item; an item followed by the ellipsis marker takes all that is left of the list. The first step
that fails ends the match.

This is the Pattern Matcher of the specification (`SPEC_FULL.md` §4.1, with the additions of §14).
The open question of §9, whether a pattern that has run out matches what is left of the form, is a
matter of the settings.

Main definitions:
* `matchForm`, `matchItems`: one form against one pattern, and lists item by item.
* `matchWhole`: a form against a pattern, from no bindings.
* `matchRule`: a form against a rule's pattern, without the keyword if the settings leave it out.
* `MatchError`: why a form does not match.
-/

namespace MacroByExample

/-! ## Errors -/

/-- How the shape of a form can differ from the shape of a pattern. -/
inductive ShapeMismatch where
  /-- One of the two is no list with a keyword in front. -/
  | keywordPosition
  /-- A list pattern met an atom. -/
  | atomForList
  /-- The form has more items than the pattern. -/
  | surplusItems
  /-- The form has fewer items than the pattern. -/
  | missingItems
deriving DecidableEq, Repr

/-- The mismatch in words. -/
def ShapeMismatch.reason : ShapeMismatch → String
  | .keywordPosition => "keyword position needs a non-empty list"
  | .atomForList => "list pattern met an atom"
  | .surplusItems => "form has elements past the end of the pattern"
  | .missingItems => "form ran out before the pattern"

/-- Why a form does not match a pattern. -/
inductive MatchError where
  /-- A literal of the pattern met another form (`LiteralMismatch`). -/
  | literal (expected : String) (found : Form)
  /-- The shapes differ, at this part of the pattern and of the form (`StructuralMismatch`). -/
  | shape (mismatch : ShapeMismatch) (pattern form : Form)
deriving DecidableEq

/-- The error in words. -/
def MatchError.message : MatchError → String
  | .literal expected found => s!"expected literal '{expected}', found {found.text}"
  | .shape mismatch pattern form =>
    s!"{mismatch.reason}: pattern {pattern.text}, form {form.text}"

/-! ## Matching -/

/-- A token of a pattern against a form (`match_atom`): a literal matches its own atom, a variable
    captures. -/
def matchToken (literals : TokenSet) (token : String) (form : Form) (b : Bindings) :
    Except MatchError Bindings :=
  if literals.contains token then
    if form = .atom token then .ok b else .error (.literal token form)
  else .ok (b.capture token form)

/-- The bindings in which every variable of a repeated pattern is marked as repeated, so that it
    is bound even if there is nothing to repeat (`declare_repeated`). -/
def declareVariables (literals : TokenSet) (s : MatchSettings) (pattern : Form) (b : Bindings) :
    Bindings :=
  (pattern.atoms.filter fun t => !literals.contains t && t != s.ellipsis).foldl
    Bindings.declareRepeated b

mutual

/-- The pattern against the form, extending the bindings (`match_tree`). -/
def matchForm (literals : TokenSet) (s : MatchSettings) :
    (pattern form : Form) → Bindings → Except MatchError Bindings
  | .atom token, form, b => matchToken literals token form b
  | .list patterns, .list forms, b => matchItems literals s patterns forms b
  | .list patterns, .atom token, b =>
    if patterns.isEmpty && s.trailing == .lenient then .ok b
    else .error (.shape .atomForList (.list patterns) (.atom token))

/-- The items of a list pattern against the items of a list, extending the bindings
    (`match_seq`). -/
def matchItems (literals : TokenSet) (s : MatchSettings) :
    (patterns forms : List Form) → Bindings → Except MatchError Bindings
  | [], forms, b =>
    if forms.isEmpty || s.trailing == .lenient then .ok b
    else .error (.shape .surplusItems (.list []) (.list forms))
  | [pattern], forms, b =>
    match forms with
    | [] => .error (.shape .missingItems (.list [pattern]) (.list []))
    | form :: forms => do
      let b ← matchForm literals s pattern form b
      matchItems literals s [] forms b
  | pattern :: next :: rest, forms, b =>
    if s.isEllipsis next then do
      let b ← forms.foldlM (fun b form => matchForm literals s pattern form b)
        (declareVariables literals s pattern b)
      matchItems literals s rest [] b
    else
      match forms with
      | [] => .error (.shape .missingItems (.list (pattern :: next :: rest)) (.list []))
      | form :: forms => do
        let b ← matchForm literals s pattern form b
        matchItems literals s (next :: rest) forms b

end

/-- The pattern against the form (`match_form`). -/
def matchWhole (literals : TokenSet) (s : MatchSettings) (pattern form : Form) :
    Except MatchError Bindings :=
  matchForm literals s pattern form .empty

/-- A rule's pattern against the form (`match_rule`). If the settings leave the keyword out, the
    first items of both are skipped, whatever they are. -/
def matchRule (literals : TokenSet) (s : MatchSettings) (pattern form : Form) :
    Except MatchError Bindings :=
  if s.ignoreKeyword then
    match pattern, form with
    | .list (_ :: patterns), .list (_ :: forms) => matchItems literals s patterns forms .empty
    | _, _ => .error (.shape .keywordPosition pattern form)
  else matchWhole literals s pattern form

end MacroByExample
