import MacroByExample.Rules.Bindings
import MacroByExample.Rules.Settings

/-!
# Expanding templates

A template is copied with its bound tokens replaced by the first form they captured; other tokens
stay as they are. A template followed by the ellipsis marker is expanded once for each capture of
the variables that drive it: its repeated variables, or all its bound variables if none is
repeated. All drivers must have captured equally many forms.

This is the Template Expander of the specification (`SPEC_FULL.md` §4.2, with the additions of §14).
According to §4.2 it never fails outright; its errors are those of §14 and §16.

Main definitions:
* `expandForm`, `expandItems`: the expansion of a template and of the items of a list template.
* `drivers`, `iterations`: what drives a repetition, and the bindings of each of its rounds.
* `ExpandError`: why a template cannot be expanded.
-/

namespace MacroByExample

/-! ## Errors -/

/-- Why a template cannot be expanded with the bindings it was given. -/
inductive ExpandError where
  /-- A repeated template has no bound variable to repeat over (`UnboundEllipsisVariable`). -/
  | unboundEllipsis (template : Form)
  /-- Two variables that drive one repetition captured different numbers of forms
      (`EllipsisLengthMismatch`). -/
  | lengthMismatch (template : Form) (first : String) (firstCount : Nat) (other : String)
      (otherCount : Nat)
  /-- A variable that captured no form stands outside every repetition. -/
  | emptyCapture (var : String)
deriving DecidableEq

/-- The error in words. -/
def ExpandError.message : ExpandError → String
  | .unboundEllipsis template =>
    s!"ellipsis template {template.text} references no bound pattern variable"
  | .lengthMismatch template first firstCount other otherCount =>
    s!"ellipsis template {template.text} repeats '{first}' {firstCount} times but '{other}' "
      ++ s!"{otherCount} times"
  | .emptyCapture var =>
    s!"pattern variable '{var}' captured no forms and is used outside an ellipsis"

/-! ## Repetition -/

/-- The bound variables of a template in the order of their first occurrences. -/
def boundVariables (b : Bindings) (template : Form) : List String :=
  (template.atoms.filter b.contains).eraseDups

/-- The variables that drive the repetition of a template (`driving_variables`). -/
def drivers (b : Bindings) (template : Form) : List String :=
  let vars := boundVariables b template
  if vars.any b.isRepeated then vars.filter b.isRepeated else vars

/-- The bindings of one round: each driver is narrowed to the form it captured in that round. -/
def narrow (b : Bindings) (vars : List String) (round : Nat) : Bindings :=
  vars.foldl (fun acc var =>
    match (b.captured var)[round]? with
    | some form => acc.withSingle var form
    | none => acc) b

/-- The bindings of every round of the repetition of a template, as `expand_repeated` narrows
    them. -/
def iterations (b : Bindings) (template : Form) : Except ExpandError (List Bindings) :=
  match drivers b template with
  | [] => .error (.unboundEllipsis template)
  | first :: others =>
    let count := (b.captured first).length
    match others.find? fun var => (b.captured var).length != count with
    | some other => .error (.lengthMismatch template first count other (b.captured other).length)
    | none => .ok ((List.range count).map (narrow b (first :: others)))

/-! ## Expansion -/

/-- A token of a template: the first form it captured, or the token itself if it is not bound
    (`substitute_atom`). -/
def expandToken (b : Bindings) (token : String) : Except ExpandError Form :=
  match b.get? token with
  | none => .ok (.atom token)
  | some [] => .error (.emptyCapture token)
  | some (form :: _) => .ok form

mutual

/-- The expansion of a template (`expand`). -/
def expandForm (s : MatchSettings) : (template : Form) → Bindings → Except ExpandError Form
  | .atom token, b => expandToken b token
  | .list templates, b => (expandItems s templates b).map .list

/-- The items that the items of a list template expand to (`expand_seq`). -/
def expandItems (s : MatchSettings) :
    (templates : List Form) → Bindings → Except ExpandError (List Form)
  | [], _ => .ok []
  | [template], b => do
    let form ← expandForm s template b
    return [form]
  | template :: next :: rest, b =>
    if s.isEllipsis next then do
      let rounds ← iterations b template
      let group ← rounds.mapM fun round => expandForm s template round
      let more ← expandItems s rest b
      return group ++ more
    else do
      let form ← expandForm s template b
      let more ← expandItems s (next :: rest) b
      return form :: more

end

end MacroByExample
