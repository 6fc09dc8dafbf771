import MacroByExample.Form.Basic

/-!
# The text of a form

The canonical text of a form is flat: an atom is its token, a list stands in round brackets, and
one space separates its items.

This is the Form Writer of the specification (`SPEC_FULL.md` §6 and §13). According to §8 the text
of a form is read as that form if no token holds white space or parentheses; as the reader knows
square and curly brackets too, the tokens must be free of these as well.

Main definitions:
* `Form.chars`, `Form.text`: the flat text, as characters and as a string.
-/

namespace MacroByExample.Form

mutual

/-- The characters of the flat text. -/
def chars : Form → List Char
  | .atom t => t.toList
  | .list items => '(' :: (charsOfItems items ++ [')'])

/-- The flat texts of several forms with one space between any two. -/
def charsOfItems : List Form → List Char
  | [] => []
  | [f] => chars f
  | f :: g :: rest => chars f ++ ' ' :: charsOfItems (g :: rest)

end

/-- The flat text (`pretty`). -/
def text (f : Form) : String :=
  String.ofList f.chars

@[simp]
theorem chars_atom (t : String) : (Form.atom t).chars = t.toList := rfl

theorem chars_list (items : List Form) :
    (Form.list items).chars = '(' :: (charsOfItems items ++ [')']) := rfl

theorem charsOfItems_eq_intercalate (items : List Form) :
    charsOfItems items = [' '].intercalate (items.map chars) := by
  match items with
  | [] => rfl
  | [f] => rw [charsOfItems, List.map_singleton, List.intercalate_singleton]
  | f :: g :: rest =>
    rw [charsOfItems, charsOfItems_eq_intercalate (g :: rest)]
    simp

@[simp]
theorem toList_text (f : Form) : f.text.toList = f.chars := by
  simp [text]

end MacroByExample.Form
