/-!
# Bytes of a text

Places in a text are counted in the bytes that it takes in UTF-8, as in the spans that errors of the
reader carry (`SPEC_FULL.md` §12).

Main definitions:
* `Text.byteLength`: the bytes of a text.
-/

namespace MacroByExample.Text

/-- The bytes that the text takes in UTF-8. -/
def byteLength : List Char → Nat
  | [] => 0
  | c :: cs => c.utf8Size + byteLength cs

@[simp]
theorem byteLength_nil : byteLength [] = 0 := rfl

@[simp]
theorem byteLength_cons (c : Char) (cs : List Char) :
    byteLength (c :: cs) = c.utf8Size + byteLength cs := rfl

@[simp]
theorem byteLength_append (cs ds : List Char) :
    byteLength (cs ++ ds) = byteLength cs + byteLength ds := by
  induction cs with
  | nil => simp
  | cons c cs ih => simp [ih, Nat.add_assoc]

end MacroByExample.Text
