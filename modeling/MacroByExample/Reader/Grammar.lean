import MacroByExample.Form.Basic
import MacroByExample.Reader.Delimiter

/-!
# The grammar of forms

A form is a bracket pair around forms or a longest run of token characters; separators may stand
before any form and any closing bracket. The grammar never looks for a second reading: where a form
cannot be completed, the enclosing list ends before it. What it finds are pieces of the text, each
with its place and the pieces inside it.

These are the rules `program`, `form`, `list` and `atom` in the grammar of the Form Reader
(`SPEC_FULL.md` §12), with the white space that may stand between any two parts of the first three.

Main definitions:
* `Nonterminal`, `Piece`: what a piece of a text is, and where it is.
* `form?`, `forms`: the form, or as many forms as there are, at the front of a text.
* `program?`: the forms of a whole text, if nothing is left over.
-/

namespace MacroByExample.Reader

/-! ## Pieces -/

/-- What a piece of a text can be (`Rule`). -/
inductive Nonterminal where
  | program
  | form
  | list
  | delimiter
  | atom
  | separator
  | endOfText
deriving DecidableEq, Repr

/-- A piece of a text (`Pair`): what it is, the text from its first character on, the text after its
    last, and the pieces inside it from left to right. -/
inductive Piece where
  | mk (kind : Nonterminal) (start stop : List Char) (inner : List Piece)

namespace Piece

/-- What the piece is. -/
def kind : Piece → Nonterminal
  | mk kind _ _ _ => kind

/-- The text from the first character of the piece on. -/
def start : Piece → List Char
  | mk _ start _ _ => start

/-- The text after the last character of the piece. -/
def stop : Piece → List Char
  | mk _ _ stop _ => stop

/-- The pieces inside the piece. -/
def inner : Piece → List Piece
  | mk _ _ _ inner => inner

@[simp]
theorem kind_mk (kind : Nonterminal) (start stop : List Char) (inner : List Piece) :
    (mk kind start stop inner).kind = kind := rfl

@[simp]
theorem start_mk (kind : Nonterminal) (start stop : List Char) (inner : List Piece) :
    (mk kind start stop inner).start = start := rfl

@[simp]
theorem stop_mk (kind : Nonterminal) (start stop : List Char) (inner : List Piece) :
    (mk kind start stop inner).stop = stop := rfl

@[simp]
theorem inner_mk (kind : Nonterminal) (start stop : List Char) (inner : List Piece) :
    (mk kind start stop inner).inner = inner := rfl

end Piece

/-- The characters of the text `start` that stand before its rest `stop`. -/
def charsBetween (start stop : List Char) : List Char :=
  start.take (start.length - stop.length)

@[simp]
theorem charsBetween_append (cs stop : List Char) : charsBetween (cs ++ stop) stop = cs := by
  simp [charsBetween]

/-! ## Finding forms -/

/-- The text after its leading separators. -/
def skipSeparators (cs : List Char) : List Char :=
  cs.dropWhile isSeparator

mutual

/-- The form that the text starts with, searched for to the given depth. -/
def formWithin? : Nat → List Char → Option Piece
  | 0, _ => none
  | _ + 1, [] => none
  | depth + 1, c :: cs =>
    match openedBy? c with
    | some b =>
      match formsWithin depth cs with
      | (items, rest) =>
        match skipSeparators rest with
        | [] => none
        | d :: after => if d = b.closer then some (.mk .list (c :: cs) after items) else none
    | none =>
      if isTokenChar c then some (.mk .atom (c :: cs) (cs.dropWhile isTokenChar) []) else none

/-- The forms that the text starts with, searched for to the given depth, and the text after the
    last of them. -/
def formsWithin : Nat → List Char → List Piece × List Char
  | 0, cs => ([], cs)
  | depth + 1, cs =>
    match formWithin? depth (skipSeparators cs) with
    | none => ([], cs)
    | some p =>
      match formsWithin depth p.stop with
      | (more, left) => (p :: more, left)

end

/-- A depth of search that suffices for the text. -/
def sufficientDepth (cs : List Char) : Nat :=
  2 * cs.length

/-- The form that the text starts with. -/
def form? (cs : List Char) : Option Piece :=
  formWithin? (sufficientDepth cs) cs

/-- The forms that the text starts with, and the text after the last of them. -/
def forms (cs : List Char) : List Piece × List Char :=
  formsWithin (sufficientDepth cs) cs

/-- The whole text as a piece: its forms and the end of the text. Nothing but separators may follow
    the last form. -/
def program? (cs : List Char) : Option Piece :=
  match forms cs with
  | (found, rest) =>
    if skipSeparators rest = [] then
      some (.mk .program cs [] (found ++ [.mk .endOfText [] [] []]))
    else none

end MacroByExample.Reader
