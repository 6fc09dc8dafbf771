import MacroByExample.Text.Lines

/-!
# Differences between two texts, line by line

A difference shows how one text becomes another: lines that both share, lines that are removed and
lines that are added. First a sequence of lines common to both texts is chosen by way of a table of
scores; then the two texts are merged along it. The scores decide how much the texts are found to
share; that the merge shows both texts in full rests only on the chosen lines being common to both.

This is the line diff of an explanation (`SPEC_FULL.md` §19), the `Changeset` of the package
`difference`.

Main definitions:
* `scores`, `commonLines`: the table, and the common lines that it leads to.
* `mergeAlong?`: the merge of two lists of lines along common ones, or nothing if a number of rounds
  does not finish it.
* `lineDiff?`: the difference between two texts.
-/

namespace MacroByExample.Text

/-- The characters of a line. -/
abbrev Line := List Char

/-! ## Common lines -/

/-- The cell of a table that stands at a position of its rows read one after the other. -/
def cellAt (table : Array Nat) (position : Nat) : Nat :=
  table.getD position 0

/-- The score of row `i` and column `j`: one more than the cell up and left of it where the lines
    agree, and otherwise the larger of the cells left of it and above it. -/
def score (table : Array Nat) (columns i j : Nat) (agree : Bool) : Nat :=
  if agree then
    if i = 0 ∨ j = 0 then 1 else cellAt table ((i - 1) * columns + (j - 1)) + 1
  else if i = 0 then if j = 0 then 0 else cellAt table (j - 1)
  else if j = 0 then cellAt table ((i - 1) * columns)
  else max (cellAt table (i * columns + (j - 1))) (cellAt table ((i - 1) * columns + j))

/-- The scores of all pairs of lines, row after row. -/
def scores (before after : List Line) : Array Nat :=
  before.zipIdx.foldl (fun table (x, i) =>
    after.zipIdx.foldl (fun table (y, j) =>
      table.push (score table after.length i j (x == y))) table) #[]

/-- The common lines, last first, of two lists given last line first. Where the lines differ, the
    step to the line before goes where the score is larger, and in doubt in the first list. The
    first number bounds the steps. The cell left of the first column is the last one of the row
    above. -/
def commonFrom (table : Array Nat) (columns : Nat) : Nat → List Line → List Line → List Line
  | 0, _, _ => []
  | _ + 1, [], _ => []
  | _ + 1, _, [] => []
  | fuel + 1, x :: xs, y :: ys =>
    let i := xs.length
    let j := ys.length
    if x = y then x :: commonFrom table columns fuel xs ys
    else if i = 0 ∧ j = 0 then []
    else if i = 0 ∨
        cellAt table ((i - 1) * columns + j) < cellAt table (i * columns + j - 1) then
      commonFrom table columns fuel (x :: xs) ys
    else commonFrom table columns fuel xs (y :: ys)

/-- Lines common to both lists, in the order of both. -/
def commonLines (before after : List Line) : List Line :=
  (commonFrom (scores before after) after.length (before.length + after.length)
    before.reverse after.reverse).reverse

/-! ## Merging -/

/-- What happens to a run of lines (`Difference`). -/
inductive Change where
  | same
  | removed
  | added
deriving DecidableEq, Repr

/-- A run of lines with what happens to it. -/
structure Edit where
  change : Change
  lines : List Line
deriving DecidableEq

/-- The edit of a run that is not empty. -/
def edit (change : Change) (lines : List Line) : List Edit :=
  if lines.isEmpty then [] else [⟨change, lines⟩]

/-- How many lines both lists share with the common ones from the start. -/
def sharedLength : List Line → List Line → List Line → Nat
  | l :: ls, r :: rs, c :: cs => if l = c ∧ r = c then sharedLength ls rs cs + 1 else 0
  | _, _, _ => 0

/-- The lines up to the next common one. -/
def untilCommon (common lines : List Line) : List Line :=
  lines.takeWhile fun line => common.head? != some line

/-- The lines from the next common one on. -/
def fromCommon (common lines : List Line) : List Line :=
  lines.dropWhile fun line => common.head? != some line

/-- The merge of two lists along common lines in at most the given number of rounds. In one round
    come the shared lines, then those of the first list up to the next common line, then those of
    the second. -/
def mergeAlong? : Nat → (left right common : List Line) → Option (List Edit)
  | 0, left, right, _ => if left.isEmpty && right.isEmpty then some [] else none
  | rounds + 1, left, right, common =>
    if left.isEmpty && right.isEmpty then some []
    else
      let n := sharedLength left right common
      let common' := common.drop n
      let left' := left.drop n
      let right' := right.drop n
      (mergeAlong? rounds (fromCommon common' left') (fromCommon common' right') common').map
        fun edits =>
          edit .same (left.take n) ++ (edit .removed (untilCommon common' left')
            ++ (edit .added (untilCommon common' right') ++ edits))

/-- The lines of a text, none if it is empty. -/
def linesOf (cs : List Char) : List Line :=
  if cs.isEmpty then [] else splitLines cs

/-- The difference between two texts (`Changeset`), if as many rounds as the texts have lines finish
    it. -/
def lineDiff? (before after : List Char) : Option (List Edit) :=
  let common := joinLines (commonLines (splitLines before) (splitLines after))
  mergeAlong? ((linesOf before).length + (linesOf after).length)
    (linesOf before) (linesOf after) (linesOf common)

end MacroByExample.Text
