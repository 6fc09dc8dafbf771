import MacroByExample.Proofs.Form.LayoutLines
import MacroByExample.Proofs.Text.LineDiff
import MacroByExample.Report

/-!
# What an explanation shows

Under its heading and the bindings, an explanation without colours shows how the layout of one form
becomes the layout of another, each line behind a mark. The lines of a layout are printed as they
are: none is empty, so none is lost at the end of a run of lines, and none ends in a carriage return.
So both layouts can be read off the marks.

* `Report.linesBehind`: the lines behind given marks.
* `linesBehind_editChars_append`, `linesBehind_edits`: the printed edits.
* `printable_of_mem_splitLines`: the lines of a layout.
* `explanation_plain`: the parts of an explanation.
* `explanation_shows_layouts`: what stands behind the marks.
-/

namespace MacroByExample

open Text (Line Change Edit splitLines joinLines printedLines linesWith lineDiffWithin?)

namespace Report

/-! ## Lines behind marks -/

/-- The lines of a text that begin with one of the marks, without it. -/
def linesBehind (marks : List Char) (cs : List Char) : List Line :=
  (splitLines cs).filterMap fun
    | [] => none
    | mark :: line => if mark ∈ marks then some line else none

theorem linesBehind_line (marks : List Char) {mark : Char} {line : Line}
    (h : '\n' ∉ mark :: line) (cs : List Char) :
    linesBehind marks (mark :: (line ++ '\n' :: cs)) =
      (if mark ∈ marks then [line] else []) ++ linesBehind marks cs := by
  unfold linesBehind
  rw [← List.cons_append, Text.splitLines_append_newline _ _ h, List.filterMap_cons]
  split <;> simp_all

/-- Lines that are printed behind one mark. -/
theorem linesBehind_lines (marks : List Char) {mark : Char} (hmark : mark ≠ '\n')
    {lines : List Line} (h : ∀ line ∈ lines, '\n' ∉ line) (cs : List Char) :
    linesBehind marks ((lines.flatMap fun line => mark :: (line ++ ['\n'])) ++ cs) =
      (if mark ∈ marks then lines else []) ++ linesBehind marks cs := by
  induction lines with
  | nil => simp
  | cons line lines ih =>
    obtain ⟨hline, hlines⟩ := List.forall_mem_cons.mp h
    have hmarked : '\n' ∉ mark :: line := by simp [Ne.symm hmark, hline]
    rw [List.flatMap_cons, List.append_assoc, List.cons_append, List.append_assoc,
      List.singleton_append, linesBehind_line marks hmarked, ih hlines]
    split <;> simp

/-! ## Printed edits -/

/-- The line is printed as it is. -/
structure Printable (line : Line) : Prop where
  ne_nil : line ≠ []
  lineFeed_notMem : '\n' ∉ line
  return_notMem : '\r' ∉ line

theorem markOf_ne_lineFeed (change : Change) : markOf change ≠ '\n' := by
  cases change <;> decide

theorem markOf_mem_iff (change change' : Change) :
    markOf change' ∈ [' ', markOf change] ↔ change' = .same ∨ change' = change := by
  cases change <;> cases change' <;> decide

/-- The lines of an edit stand behind its mark. -/
theorem linesBehind_editChars_append (marks : List Char) {e : Edit}
    (h : ∀ line ∈ e.lines, Printable line) (cs : List Char) :
    linesBehind marks (editChars e ++ cs) =
      (if markOf e.change ∈ marks then e.lines else []) ++ linesBehind marks cs := by
  have hprinted : printedLines (joinLines e.lines) = e.lines :=
    Text.printedLines_joinLines fun line hline =>
      ⟨(h line hline).ne_nil, (h line hline).lineFeed_notMem, (h line hline).return_notMem⟩
  rw [editChars, hprinted]
  exact linesBehind_lines marks (markOf_ne_lineFeed e.change)
    (fun line hline => (h line hline).lineFeed_notMem) cs

/-- The lines that stay or change in one way stand behind the marks of the two. -/
theorem linesBehind_edits (change : Change) {edits : List Edit}
    (h : ∀ e ∈ edits, ∀ line ∈ e.lines, Printable line) :
    linesBehind [' ', markOf change] (edits.flatMap editChars) = linesWith change edits := by
  induction edits with
  | nil => rfl
  | cons e edits ih =>
    obtain ⟨he, hedits⟩ := List.forall_mem_cons.mp h
    rw [List.flatMap_cons, linesBehind_editChars_append _ he, ih hedits, Text.linesWith_cons]
    simp only [markOf_mem_iff]

/-! ## Lines of a layout -/

/-- No token of the form is empty or holds a character of a line end. -/
def StaysOnLines (f : Form) : Prop :=
  ∀ t ∈ f.atoms, t ≠ "" ∧ '\n' ∉ t.toList ∧ '\r' ∉ t.toList

instance (f : Form) : Decidable (StaysOnLines f) :=
  inferInstanceAs (Decidable (∀ t ∈ f.atoms, _))

theorem chars_ne_nil {f : Form} (h : ∀ t ∈ f.atoms, t ≠ "") : f.chars ≠ [] := by
  cases f with
  | atom t => simpa using h t (by simp)
  | list items => simp [Form.chars_list]

theorem exists_layoutLine {f : Form} (h : StaysOnLines f) {width : Nat} {line : Line}
    (hline : line ∈ splitLines (f.layoutChars width 0)) :
    ∃ l ∈ f.layoutLines width, l.chars = line := by
  rw [splitLines_layoutChars_of_notMem fun t ht => (h t ht).2.1] at hline
  exact List.mem_map.mp hline

/-- The lines of a layout are printed as they are. -/
theorem printable_of_mem_splitLines {f : Form} (h : StaysOnLines f) {width : Nat} {line : Line}
    (hline : line ∈ splitLines (f.layoutChars width 0)) : Printable line where
  lineFeed_notMem := Text.notMem_of_mem_splitLines hline
  ne_nil := by
    obtain ⟨l, hl, rfl⟩ := exists_layoutLine h hline
    have hsettled := settled_of_mem_layoutLinesFrom 0 0 0 l hl
    have hitem := chars_ne_nil fun t ht => (h t (hsettled.atoms_subset t ht)).1
    simp [LayoutLine.chars, framed, hitem]
  return_notMem := by
    obtain ⟨l, hl, rfl⟩ := exists_layoutLine h hline
    intro hreturn
    rcases mem_chars_of_mem_layoutLines hl hreturn with hplain | ⟨t, ht, hreturn⟩
    · exact absurd hplain (by decide)
    · exact (h t ht).2.2 hreturn

theorem linesOf_layoutChars {f : Form} (h : StaysOnLines f) (width : Nat) :
    Text.linesOf (f.layoutChars width 0) = splitLines (f.layoutChars width 0) := by
  cases hchars : f.layoutChars width 0 with
  | nil =>
    have hline : [] ∈ splitLines (f.layoutChars width 0) := by rw [hchars]; exact List.mem_cons_self
    exact absurd rfl (printable_of_mem_splitLines h hline).ne_nil
  | cons c cs => rfl

/-! ## The whole explanation -/

/-- What an explanation shows above the differences: the rule and the bindings. -/
def heading (rule : Rule) (e : Expansion) : List Char :=
  s!"--- rule {e.index}: {rule.pattern.text} ---\n".toList ++ (bindings e.bindings ++ ['\n'])

/-- Without colours, the differences are printed right under the heading. -/
theorem explanation_plain (width : Nat) (input : Form) (rule : Rule) (e : Expansion) :
    explanation false width input rule e =
      heading rule e ++ (differences width input e.output).flatMap editChars := by
  simp [explanation, render, explanationPieces, heading, editPieces, Piece.chars,
    List.flatMap_assoc]

/-- **An explanation shows both layouts.** For forms whose tokens are not empty and hold no line end,
as tokens without separators do, and for every number of columns, the difference between the layouts
is found in as many steps and rounds as the layouts have lines, and more of them find the same. The
explanation without colours is its heading with the printed difference under it. There, the lines
behind the marks of what stays and what is removed are the lines of the layout of the form before,
in order, and those behind the marks of what stays and what is added are the lines of the layout of
the form after. -/
theorem explanation_shows_layouts (width : Nat) {input : Form} (rule : Rule) {e : Expansion}
    (hinput : StaysOnLines input) (houtput : StaysOnLines e.output) :
    let before := input.layoutChars width 0
    let after := e.output.layoutChars width 0
    ∃ edits : List Edit,
      (∀ steps rounds, (splitLines before).length + (splitLines after).length ≤ steps →
        (splitLines before).length + (splitLines after).length ≤ rounds →
          lineDiffWithin? steps rounds before after = some edits) ∧
      explanation false width input rule e = heading rule e ++ edits.flatMap editChars ∧
      linesBehind [' ', '-'] (edits.flatMap editChars) = splitLines before ∧
      linesBehind [' ', '+'] (edits.flatMap editChars) = splitLines after := by
  intro before after
  obtain ⟨edits, hshows, hdiff⟩ := Text.exists_lineDiffWithin? before after
  rw [linesOf_layoutChars hinput, linesOf_layoutChars houtput] at hshows hdiff
  have hprintable : ∀ e ∈ edits, ∀ line ∈ e.lines, Printable line := fun e he line hline =>
    (hshows.mem_or_mem he hline).elim (printable_of_mem_splitLines hinput)
      (printable_of_mem_splitLines houtput)
  have hedits : differences width input e.output = edits := by
    rw [differences, Text.lineDiff?_eq_lineDiffWithin?, linesOf_layoutChars hinput,
      linesOf_layoutChars houtput, hdiff _ _ (Nat.le_refl _) (Nat.le_refl _)]
    rfl
  refine ⟨edits, hdiff, ?_, ?_, ?_⟩
  · rw [explanation_plain, hedits]
  · exact (linesBehind_edits .removed hprintable).trans hshows.left_eq
  · exact (linesBehind_edits .added hprintable).trans hshows.right_eq

/-- Two items change places, between lines that stay. -/
theorem explanation_shows_layouts_swap :
    let input : Form := .list [.atom "swap", .atom "a", .list [.atom "b", .atom "c"], .atom "d"]
    let output : Form := .list [.atom "swap", .list [.atom "b", .atom "c"], .atom "a", .atom "d"]
    let rule : Rule := ⟨.list [.atom "_", .atom "x", .atom "y", .atom "z"],
      .list [.atom "swap", .atom "y", .atom "x", .atom "z"]⟩
    let e : Expansion := ⟨0, Bindings.empty.capture "x" (.atom "a"), output⟩
    StaysOnLines input ∧ StaysOnLines e.output ∧
    ∃ edits : List Edit,
      edits.flatMap editChars = " (swap\n+ (b c)\n  a\n- (b c)\n  d)\n".toList ∧
      (∀ steps rounds, 8 ≤ steps → 8 ≤ rounds →
        lineDiffWithin? steps rounds (input.layoutChars 7 0) (output.layoutChars 7 0) =
          some edits) ∧
      explanation false 7 input rule e = heading rule e ++ edits.flatMap editChars ∧
      linesBehind [' ', '-'] (edits.flatMap editChars) = splitLines (input.layoutChars 7 0) ∧
      linesBehind [' ', '+'] (edits.flatMap editChars) = splitLines (output.layoutChars 7 0) := by
  intro input output rule e
  have hinput : StaysOnLines input := by decide +kernel
  have houtput : StaysOnLines e.output := by decide +kernel
  have hprinted : explanation false 7 input rule e =
      heading rule e ++ " (swap\n+ (b c)\n  a\n- (b c)\n  d)\n".toList := by decide +kernel
  obtain ⟨edits, hdiff, hshown, hbefore, hafter⟩ :=
    explanation_shows_layouts 7 rule hinput houtput
  have hlines : (splitLines (input.layoutChars 7 0)).length +
      (splitLines (e.output.layoutChars 7 0)).length = 8 := by decide +kernel
  rw [hlines] at hdiff
  rw [hprinted, List.append_cancel_left_eq] at hshown
  rw [hshown] at hprinted
  exact ⟨hinput, houtput, edits, hshown.symm, hdiff, hprinted, hbefore, hafter⟩

end Report

end MacroByExample
