/-!
# Delimiters

Three kinds of bracket pairs build lists, and four characters separate tokens. All other
characters belong to tokens. A text is balanced when every closer meets an opener of its kind; the
scanner here walks over the text once and reports the first closer that does not, or an opener
that is never closed.

The brackets and tokens are those of the Form Reader (`SPEC_FULL.md` §12), and the characters have
the names `WHITESPACE`, `delimiter` and `atom` in its grammar.

Main definitions:
* `Bracket`: the kinds of bracket pairs.
* `isSeparator`, `isTokenChar`: what separates tokens and what they are made of.
* `Fault`, `findFault`: where a text is out of balance, and how.
-/

namespace MacroByExample.Reader

/-! ## Characters -/

/-- A kind of bracket pair. -/
inductive Bracket where
  | round
  | square
  | curly
deriving DecidableEq, Repr

namespace Bracket

/-- The character that opens the pair. -/
def opener : Bracket → Char
  | .round => '('
  | .square => '['
  | .curly => '\x7b'

/-- The character that closes the pair (`closer_for`). -/
def closer : Bracket → Char
  | .round => ')'
  | .square => ']'
  | .curly => '\x7d'

end Bracket

/-- The pair that the character opens. -/
def openedBy? (c : Char) : Option Bracket :=
  if c = '(' then some .round
  else if c = '[' then some .square
  else if c = '\x7b' then some .curly
  else none

/-- The pair that the character closes. -/
def closedBy? (c : Char) : Option Bracket :=
  if c = ')' then some .round
  else if c = ']' then some .square
  else if c = '\x7d' then some .curly
  else none

/-- Whether the character opens or closes a pair. -/
def isDelimiter (c : Char) : Bool :=
  (openedBy? c).isSome || (closedBy? c).isSome

/-- Whether the character only separates tokens: a space, a tab or the end of a line. -/
def isSeparator (c : Char) : Bool :=
  c == ' ' || c == '\t' || c == '\r' || c == '\n'

/-- Whether the character can be part of a token. -/
def isTokenChar (c : Char) : Bool :=
  !isSeparator c && !isDelimiter c

@[simp]
theorem openedBy?_opener (b : Bracket) : openedBy? b.opener = some b := by
  cases b <;> rfl

@[simp]
theorem closedBy?_closer (b : Bracket) : closedBy? b.closer = some b := by
  cases b <;> rfl

/-! ## Balance -/

/-- How a text is out of balance. -/
inductive Imbalance where
  /-- A closer where no list is open. -/
  | unexpectedCloser (found : Bracket)
  /-- A closer of another kind than the innermost open list. -/
  | wrongCloser (opened found : Bracket)
  /-- A list that the end of the text leaves open. -/
  | missingCloser (opened : Bracket)
deriving DecidableEq, Repr

/-- An imbalance and the delimiter, by its byte offset, that it is about (`Unbalanced`). -/
structure Fault where
  imbalance : Imbalance
  offset : Nat
deriving DecidableEq, Repr

/-- The first fault of the rest of a text that starts at `offset`, given the lists that are open
    there, innermost first. -/
def findFaultFrom (opened : List (Nat × Bracket)) (offset : Nat) : List Char → Option Fault
  | [] =>
    match opened with
    | [] => none
    | (position, b) :: _ => some ⟨.missingCloser b, position⟩
  | c :: cs =>
    match openedBy? c with
    | some b => findFaultFrom ((offset, b) :: opened) (offset + c.utf8Size) cs
    | none =>
      match closedBy? c with
      | none => findFaultFrom opened (offset + c.utf8Size) cs
      | some found =>
        match opened with
        | [] => some ⟨.unexpectedCloser found, offset⟩
        | (_, b) :: rest =>
          if b = found then findFaultFrom rest (offset + c.utf8Size) cs
          else some ⟨.wrongCloser b found, offset⟩

/-- The first fault of a text, and none if the text is balanced (`find_unbalanced`). -/
def findFault (cs : List Char) : Option Fault :=
  findFaultFrom [] 0 cs

namespace Imbalance

/-- What is wrong, in words. -/
def message : Imbalance → String
  | .unexpectedCloser found => s!"unexpected closing '{found.closer}'"
  | .wrongCloser opened found => s!"'{opened.opener}' closed by '{found.closer}'"
  | .missingCloser opened => s!"missing closing '{opened.closer}'"

/-- The note at the delimiter. -/
def label : Imbalance → String
  | .unexpectedCloser _ => "nothing to close here"
  | .wrongCloser opened _ => s!"expected '{opened.closer}'"
  | .missingCloser _ => "opened here"

/-- How to mend the text. -/
def help? : Imbalance → Option String
  | .unexpectedCloser _ => some "remove the extra delimiter"
  | .wrongCloser _ _ => none
  | .missingCloser opened => some s!"add '{opened.closer}' to close this list"

end Imbalance

end MacroByExample.Reader
