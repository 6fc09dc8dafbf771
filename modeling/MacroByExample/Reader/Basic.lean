import MacroByExample.Reader.Grammar
import MacroByExample.Text.Blank
import MacroByExample.Text.Bytes

/-!
# Reading forms

The forms of a text are built from the pieces that its grammar finds. A text of blank characters
has no forms. A text that the grammar refuses is reported by the delimiter that is out of balance.

This is the Form Reader of the specification (`SPEC_FULL.md` §12, errors in §16). The blank
characters are those of Unicode, while only four characters separate tokens in the grammar: a text
that is nothing but a no-break space has no forms, although the grammar finds a token in it.

Main definitions:
* `Piece.form`: the form that a piece stands for.
* `read`: the forms of a text.
* `readOne`: the form of a text that holds exactly one.
* `ReadError`, `Label`: why a text cannot be read, and the place that shows it.
-/

namespace MacroByExample.Reader

/-! ## Errors -/

/-- Why a text cannot be read. -/
inductive ReadError where
  /-- A delimiter is out of balance (`ParseUnbalanced`). -/
  | unbalanced (fault : Fault)
  /-- The grammar refuses a text whose delimiters are in balance, or finds a piece that stands for
      no form (`ParseMalformed`). -/
  | malformed
  /-- One form was asked for and the text holds another number of them (`ParseCount`); the surplus
      one, or the whole text when there is none, starts at `offset` and has `length` bytes. -/
  | count (found offset length : Nat)
deriving DecidableEq, Repr

/-- A range of bytes of a text with a note on it. -/
structure Label where
  offset : Nat
  length : Nat
  text : String
deriving DecidableEq, Repr

namespace ReadError

/-- What is wrong with the text, in words. -/
def message : ReadError → String
  | .unbalanced fault => s!"Parse error: {fault.imbalance.message}"
  | .malformed => "Parse error: malformed form"
  | .count found _ _ => s!"Parse error: expected exactly one form, found {found}"

/-- The place in the text that the error is about. -/
def label? : ReadError → Option Label
  | .unbalanced fault => some ⟨fault.offset, 1, fault.imbalance.label⟩
  | .malformed => none
  | .count _ offset length => some ⟨offset, length, "unexpected form"⟩

/-- How to mend the text. -/
def help? : ReadError → Option String
  | .unbalanced fault => fault.imbalance.help?
  | _ => none

end ReadError

/-! ## Building -/

mutual

/-- The form that a piece stands for (`build_tree`). -/
def Piece.form : Piece → Except ReadError Form
  | .mk .atom start stop _ => .ok (.atom (String.ofList (charsBetween start stop)))
  | .mk .list _ _ inner => (Piece.formsOf inner).map .list
  | .mk _ _ _ _ => .error .malformed

/-- The forms that several pieces stand for, up to the first that stands for none. -/
def Piece.formsOf : List Piece → Except ReadError (List Form)
  | [] => .ok []
  | p :: rest => do
    let f ← Piece.form p
    let fs ← Piece.formsOf rest
    return f :: fs

end

/-- A form and its place in a text (`Spanned`): the text from its first character on and the text
    after its last. -/
structure Placed where
  form : Form
  start : List Char
  stop : List Char
deriving DecidableEq

/-- The form that a piece stands for, in its place. -/
def Piece.placed (p : Piece) : Except ReadError Placed :=
  p.form.map fun f => ⟨f, p.start, p.stop⟩

/-! ## Reading -/

/-- Why the grammar refuses a text (`convert_parse_error`). -/
def refusal (cs : List Char) : ReadError :=
  match findFault cs with
  | some fault => .unbalanced fault
  | none => .malformed

/-- The forms of a text in their places (`parse_spanned`). -/
def readPlaced (cs : List Char) : Except ReadError (List Placed) :=
  if Text.isBlankText cs then .ok []
  else
    match program? cs with
    | some program => (program.inner.filter (·.kind != .endOfText)).mapM Piece.placed
    | none => .error (refusal cs)

/-- The forms of a text (`parse`). -/
def read (text : String) : Except ReadError (List Form) :=
  (readPlaced text.toList).map (·.map Placed.form)

/-- The only one of the forms of the text; a second one is reported by its place. -/
def onlyForm (cs : List Char) : List Placed → Except ReadError Form
  | [] => .error (.count 0 0 (Text.byteLength cs))
  | [one] => .ok one.form
  | one :: second :: rest =>
    .error (.count (one :: second :: rest).length
      (Text.byteLength cs - Text.byteLength second.start)
      (Text.byteLength second.start - Text.byteLength second.stop))

/-- The form of a text that holds exactly one (`parse_one`). -/
def readOne (text : String) : Except ReadError Form :=
  (readPlaced text.toList).bind (onlyForm text.toList)

end MacroByExample.Reader
