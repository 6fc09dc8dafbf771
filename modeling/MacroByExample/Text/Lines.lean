/-!
# Lines of a text

A text splits into lines at every line feed, and the lines joined by line feeds are the text again.
Printing a text line by line is a little different: a line feed at the end closes the last line and
opens none, and a carriage return before a line feed belongs to the line's end. Explanations compare
lines of the first kind and are printed in lines of the second (`print_explanation`, `print_diff`).

Main definitions:
* `Text.splitLines`, `Text.joinLines`: the lines between line feeds, and the text they make.
* `Text.printedLines`: the lines that printing a text writes.

Main results:
* `joinLines_splitLines`: joining the lines of a text gives the text.
* `splitLines_joinLines`: splitting joined lines gives the lines, if there are any and none holds a
  line feed.
* `printedLines_joinLines`: printing joined lines prints them, if none is empty or holds a line end.
-/

namespace MacroByExample.Text

/-- The pieces of a text between its line feeds (`split`); a text without one is one line. -/
def splitLines : List Char → List (List Char)
  | [] => [[]]
  | c :: cs =>
    if c = '\n' then [] :: splitLines cs
    else match splitLines cs with
      | [] => [[c]]
      | line :: rest => (c :: line) :: rest

/-- The lines with a line feed between any two. -/
def joinLines : List (List Char) → List Char
  | [] => []
  | [line] => line
  | line :: next :: rest => line ++ '\n' :: joinLines (next :: rest)

/-- A line without the carriage return that ends it. -/
def dropReturn (line : List Char) : List Char :=
  if line.getLast? = some '\r' then line.dropLast else line

/-- The lines that printing a text writes (`lines`): a carriage return before a line feed is
    dropped, and nothing after the last line feed is no line. -/
def printedLines (cs : List Char) : List (List Char) :=
  go (splitLines cs)
where
  /-- All lines but the last were ended by a line feed. -/
  go : List (List Char) → List (List Char)
    | [] => []
    | [last] => if last.isEmpty then [] else [last]
    | line :: next :: rest => dropReturn line :: go (next :: rest)

/-! ## Splitting and joining -/

theorem splitLines_ne_nil (cs : List Char) : splitLines cs ≠ [] := by
  cases cs with
  | nil => simp [splitLines]
  | cons c cs =>
    rw [splitLines]
    split
    · simp
    · split <;> simp

@[simp]
theorem joinLines_splitLines (cs : List Char) : joinLines (splitLines cs) = cs := by
  induction cs with
  | nil => rfl
  | cons c cs ih =>
    rw [splitLines]
    split
    · next h =>
      subst h
      cases hs : splitLines cs with
      | nil => exact absurd hs (splitLines_ne_nil cs)
      | cons line rest => rw [hs] at ih; simp [joinLines, ih]
    · cases hs : splitLines cs with
      | nil => exact absurd hs (splitLines_ne_nil cs)
      | cons line rest =>
        rw [hs] at ih
        cases rest with
        | nil => simpa [joinLines] using ih
        | cons next rest => simpa [joinLines] using ih

theorem joinLines_append {ls ms : List (List Char)} (hl : ls ≠ []) (hm : ms ≠ []) :
    joinLines (ls ++ ms) = joinLines ls ++ '\n' :: joinLines ms := by
  match ls with
  | [line] =>
    obtain ⟨next, rest, rfl⟩ := List.exists_cons_of_ne_nil hm
    rfl
  | line :: next :: rest =>
    have ih := joinLines_append (List.cons_ne_nil next rest) hm
    rw [List.cons_append] at ih
    rw [List.cons_append, List.cons_append, joinLines, ih, joinLines, List.append_assoc,
      List.cons_append]

theorem splitLines_append_newline (line cs : List Char) (h : '\n' ∉ line) :
    splitLines (line ++ '\n' :: cs) = line :: splitLines cs := by
  induction line with
  | nil => simp [splitLines]
  | cons c line ih =>
    have hc : c ≠ '\n' := fun e => h (e ▸ List.mem_cons_self)
    have ih := ih (fun m => h (List.mem_cons_of_mem _ m))
    simp [splitLines, hc, ih]

theorem splitLines_eq_singleton (line : List Char) (h : '\n' ∉ line) : splitLines line = [line] := by
  induction line with
  | nil => rfl
  | cons c line ih =>
    have hc : c ≠ '\n' := fun e => h (e ▸ List.mem_cons_self)
    have ih := ih (fun m => h (List.mem_cons_of_mem _ m))
    simp [splitLines, hc, ih]

theorem splitLines_joinLines {lines : List (List Char)} (hne : lines ≠ [])
    (h : ∀ line ∈ lines, '\n' ∉ line) : splitLines (joinLines lines) = lines := by
  induction lines with
  | nil => exact absurd rfl hne
  | cons line rest ih =>
    cases rest with
    | nil => exact splitLines_eq_singleton line (h line List.mem_cons_self)
    | cons next rest =>
      rw [joinLines, splitLines_append_newline _ _ (h line List.mem_cons_self)]
      rw [ih (by simp) (fun l hl => h l (List.mem_cons_of_mem _ hl))]

/-- There is one line more than line feeds. -/
theorem length_splitLines (cs : List Char) : (splitLines cs).length = cs.count '\n' + 1 := by
  induction cs with
  | nil => rfl
  | cons c cs ih =>
    rw [splitLines]
    split
    · next h => rw [h, List.length_cons, List.count_cons_self, ih]
    · next h =>
      rw [List.count_cons_of_ne h, ← ih]
      cases hs : splitLines cs with
      | nil => exact absurd hs (splitLines_ne_nil cs)
      | cons line rest => rfl

/-- The lines of a text hold no line feed. -/
theorem notMem_of_mem_splitLines {line cs : List Char} (h : line ∈ splitLines cs) :
    '\n' ∉ line := by
  induction cs generalizing line with
  | nil => simp_all [splitLines]
  | cons c cs ih =>
    rw [splitLines] at h
    split at h
    · rcases List.mem_cons.mp h with rfl | h
      · exact List.not_mem_nil
      · exact ih h
    · next hc =>
      cases hs : splitLines cs with
      | nil => exact absurd hs (splitLines_ne_nil cs)
      | cons first rest =>
        rw [hs] at h ih
        rcases List.mem_cons.mp h with rfl | h
        · simpa [Ne.symm hc] using ih List.mem_cons_self
        · exact ih (List.mem_cons_of_mem _ h)

/-! ## Printing -/

theorem dropReturn_eq_self {line : List Char} (h : '\r' ∉ line) : dropReturn line = line :=
  if_neg fun hlast => h (List.mem_of_getLast? hlast)

theorem printedLines_go {lines : List (List Char)} (h : ∀ line ∈ lines, line ≠ [] ∧ '\r' ∉ line) :
    printedLines.go lines = lines := by
  induction lines with
  | nil => rfl
  | cons line rest ih =>
    obtain ⟨hline, hrest⟩ := List.forall_mem_cons.mp h
    cases rest with
    | nil => simp [printedLines.go, hline.1]
    | cons next rest => rw [printedLines.go, dropReturn_eq_self hline.2, ih hrest]

/-- Lines that are not empty and hold no line end are printed as they are. -/
theorem printedLines_joinLines {lines : List (List Char)}
    (h : ∀ line ∈ lines, line ≠ [] ∧ '\n' ∉ line ∧ '\r' ∉ line) :
    printedLines (joinLines lines) = lines := by
  by_cases hne : lines = []
  · rw [hne]
    rfl
  · rw [printedLines, splitLines_joinLines hne fun line hline => (h line hline).2.1]
    exact printedLines_go fun line hline => ⟨(h line hline).1, (h line hline).2.2⟩

end MacroByExample.Text
