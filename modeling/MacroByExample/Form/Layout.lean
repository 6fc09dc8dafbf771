import MacroByExample.Form.Text
import MacroByExample.Text.Columns

/-!
# The layout of a form

A layout keeps to a number of columns where it can. A form whose flat text fits behind its
indentation stays flat; a list that does not fit puts every item after the first on a line of its
own, one column further in, and atoms are never split.

This is the width-limited text of the specification (`SPEC_FULL.md` §13). Whether a list fits is
decided by its own flat text. The closing brackets that end on the same line are not counted, so a
line may be too long even where one more break would shorten it.

Main definitions:
* `Form.layoutChars`, `Form.layout`: the text of a form within a number of columns.
-/

namespace MacroByExample.Form

/-- Whether the flat text ends past the last column when it starts after `indent` columns. -/
def overflows (width indent : Nat) (f : Form) : Bool :=
  indent + Text.columns f.chars > width

/-- A line feed and the indentation of the next item. -/
def lineBreak (indent : Nat) : List Char :=
  '\n' :: List.replicate indent ' '

mutual

/-- The characters of the layout of a form that starts after `indent` columns (`write_block`). -/
def layoutChars (width indent : Nat) : Form → List Char
  | .atom t => t.toList
  | .list items =>
    if overflows width indent (.list items) && !items.isEmpty then
      '(' :: (layoutItems width (indent + 1) items ++ [')'])
    else chars (.list items)

/-- The items of a broken list, each after the first on a new line. -/
def layoutItems (width indent : Nat) : List Form → List Char
  | [] => []
  | [f] => layoutChars width indent f
  | f :: g :: rest =>
    layoutChars width indent f ++ (lineBreak indent ++ layoutItems width indent (g :: rest))

end

/-- The text of the form within `width` columns. -/
def layout (width : Nat) (f : Form) : String :=
  String.ofList (f.layoutChars width 0)

theorem layoutItems_eq_intercalate (width indent : Nat) (items : List Form) :
    layoutItems width indent items =
      (lineBreak indent).intercalate (items.map (layoutChars width indent)) := by
  match items with
  | [] => rfl
  | [f] => rw [layoutItems, List.map_singleton, List.intercalate_singleton]
  | f :: g :: rest =>
    rw [layoutItems, layoutItems_eq_intercalate width indent (g :: rest)]
    simp

@[simp]
theorem toList_layout (width : Nat) (f : Form) :
    (f.layout width).toList = f.layoutChars width 0 := by
  simp [layout]

end MacroByExample.Form
