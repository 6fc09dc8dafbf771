import MacroByExample.Form.Layout
import MacroByExample.Json.Codec
import MacroByExample.Text.LineDiff

/-!
# Reports

What is shown of forms, bindings and expansions. Every report ends its last line. An explanation
names the rule that fired, lists its bindings and shows the difference between the layouts of the
form before and after; it is inked, and the ink is visible only where colours are asked for. This is
the output of the commands in the specification (`SPEC_FULL.md` §19).

Main definitions:
* `Report.form`, `Report.json`, `Report.bindings`: plain reports.
* `Report.explanation`: the explanation of an expansion.
* `Report.Piece`, `Report.render`: inked text, and its characters with or without colours.
-/

namespace MacroByExample.Report

/-! ## Plain reports -/

/-- A form, flat or within a number of columns (`print_tree`). -/
def form (width : Option Nat) (f : Form) : List Char :=
  (match width with
    | none => f.chars
    | some width => f.layoutChars width 0) ++ ['\n']

/-- A JSON value with one item or member on a line (`print_json`). -/
def json (v : Json.Value) : List Char :=
  v.prettyChars 0 ++ ['\n']

/-- Bindings, one variable on a line (`print_bindings`). -/
def bindings (b : Bindings) : List Char :=
  (if b.isEmpty then "(no bindings)".toList else b.text.toList) ++ ['\n']

/-! ## Inked text -/

/-- The ink that text is written with. -/
inductive Ink where
  | plain
  | heading
  | added
  | removed
deriving DecidableEq, Repr

/-- The control sequence that ends the ink before. -/
def endInk : String := "\x1b[0m"

/-- The control sequence that changes to an ink. -/
def Ink.sequence : Ink → String
  | .plain => endInk
  | .heading => endInk ++ "\x1b[1m\x1b[33m"
  | .added => endInk ++ "\x1b[32m"
  | .removed => endInk ++ "\x1b[31m"

/-- A change of ink, or text. -/
inductive Piece where
  | switch (ink : Ink)
  | text (chars : List Char)

/-- The characters of a piece. -/
def Piece.chars (color : Bool) : Piece → List Char
  | .switch ink => if color then ink.sequence.toList else []
  | .text cs => cs

/-- The characters of inked text. -/
def render (color : Bool) (pieces : List Piece) : List Char :=
  pieces.flatMap (Piece.chars color)

/-! ## Explanations -/

/-- The ink of lines that are the same, removed or added. -/
def inkOf : Text.Change → Ink
  | .same => .plain
  | .removed => .removed
  | .added => .added

/-- The mark in front of lines that are the same, removed or added. -/
def markOf : Text.Change → Char
  | .same => ' '
  | .removed => '-'
  | .added => '+'

/-- The lines of an edit, each behind its mark (`print_diff`). -/
def editChars (e : Text.Edit) : List Char :=
  (Text.printedLines (Text.joinLines e.lines)).flatMap fun line =>
    markOf e.change :: (line ++ ['\n'])

/-- The inked text of an edit. -/
def editPieces (e : Text.Edit) : List Piece :=
  [.switch (inkOf e.change), .text (editChars e)]

/-- The difference between the layouts of two forms. -/
def differences (width : Nat) (before after : Form) : List Text.Edit :=
  (Text.lineDiff? (before.layoutChars width 0) (after.layoutChars width 0)).getD []

/-- The inked explanation of how a rule made one form of another (`print_explanation`). -/
def explanationPieces (width : Nat) (input : Form) (rule : Rule) (e : Expansion) : List Piece :=
  [.switch .heading, .text s!"--- rule {e.index}: {rule.pattern.text} ---\n".toList,
    .switch .plain, .text (bindings e.bindings), .text ['\n']]
  ++ ((differences width input e.output).flatMap editPieces ++ [.switch .plain])

/-- The explanation of how a rule made one form of another. -/
def explanation (color : Bool) (width : Nat) (input : Form) (rule : Rule) (e : Expansion) :
    List Char :=
  render color (explanationPieces width input rule e)

end MacroByExample.Report
