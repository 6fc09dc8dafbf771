import MacroByExample.Form.Basic

/-!
# Settings of matching and expansion

The ellipsis marker, how strict a list pattern is and whether the keyword takes part in matching can
be chosen (`SPEC_FULL.md` §14).

Main definitions:
* `TrailingPolicy`: what a list pattern does with items it has no pattern for.
* `MatchSettings`: the settings that matching and expansion share.
-/

namespace MacroByExample

/-- What happens when a list pattern runs out while the form still has items. -/
inductive TrailingPolicy where
  /-- Items past the end of the pattern are a mismatch. -/
  | strict
  /-- A pattern that has run out matches whatever is left. -/
  | lenient
deriving DecidableEq, Repr, Inhabited

/-- The settings that matching and expansion share (`MatchConfig`). -/
structure MatchSettings where
  /-- The token that marks the pattern or template before it as repeated. -/
  ellipsis : String := "..."
  trailing : TrailingPolicy := .strict
  /-- Whether the first item of a form and of every rule's pattern is left out of matching. -/
  ignoreKeyword : Bool := false
deriving DecidableEq, Repr, Inhabited

/-- Whether the form is the ellipsis marker. -/
def MatchSettings.isEllipsis (s : MatchSettings) : Form → Bool
  | .atom t => t == s.ellipsis
  | .list _ => false

@[simp]
theorem MatchSettings.isEllipsis_atom (s : MatchSettings) (t : String) :
    s.isEllipsis (.atom t) = (t == s.ellipsis) := rfl

@[simp]
theorem MatchSettings.isEllipsis_list (s : MatchSettings) (items : List Form) :
    s.isEllipsis (.list items) = false := rfl

theorem MatchSettings.isEllipsis_iff {s : MatchSettings} {f : Form} :
    s.isEllipsis f = true ↔ f = .atom s.ellipsis := by
  cases f <;> simp

end MacroByExample
