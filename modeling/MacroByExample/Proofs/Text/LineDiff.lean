import Mathlib
import MacroByExample.Text.LineDiff

/-!
# Differences show both texts

The merge of two texts ends because the chosen lines are common to both: what is left of them stays
common to what is left of the texts, so each round reaches the next common line in both or uses up
what is left. How good the choice is plays no role. It is made by a table whose cells are not always
those that belong to the lines compared, and it need not be as long as possible.

* `commonFrom_sublist`, `commonFrom_add`: the chosen lines are common to both lists, and more steps
  choose the same.
* `Shows`: edits that show two lists of lines in full.
* `Shows.round`, `length_round_lt`: one round of the merge.
* `exists_mergeAlong?`: the whole merge.
* `exists_lineDiffWithin?`: the difference between two texts.
-/

namespace MacroByExample.Text

/-! ## Common lines -/

section Common

variable (table : Array Nat) (columns : Nat)

/-- Whatever the table, the chosen lines are common to both lists, in the order of both. -/
theorem commonFrom_sublist (fuel : Nat) (xs ys : List Line) :
    (commonFrom table columns fuel xs ys).Sublist xs ∧
      (commonFrom table columns fuel xs ys).Sublist ys := by
  fun_induction commonFrom table columns fuel xs ys with
  | case1 => exact ⟨List.nil_sublist _, List.nil_sublist _⟩
  | case2 => exact ⟨List.nil_sublist _, List.nil_sublist _⟩
  | case3 => exact ⟨List.nil_sublist _, List.nil_sublist _⟩
  | case4 fuel xs x ys ih => exact ⟨ih.1.cons_cons x, ih.2.cons_cons x⟩
  | case5 => exact ⟨List.nil_sublist _, List.nil_sublist _⟩
  | case6 fuel x xs y ys _ _ _ _ _ ih => exact ⟨ih.1, ih.2.cons y⟩
  | case7 fuel x xs y ys _ _ _ _ _ ih => exact ⟨ih.1.cons x, ih.2⟩

/-- As many steps as there are lines are enough. -/
theorem commonFrom_add {fuel : Nat} {xs ys : List Line} (h : xs.length + ys.length ≤ fuel)
    (extra : Nat) :
    commonFrom table columns (fuel + extra) xs ys = commonFrom table columns fuel xs ys := by
  induction fuel generalizing xs ys with
  | zero =>
    obtain rfl : xs = [] := List.eq_nil_of_length_eq_zero (by omega)
    cases extra <;> rfl
  | succ fuel ih =>
    rw [Nat.add_right_comm]
    cases xs with
    | nil => rfl
    | cons x xs =>
      cases ys with
      | nil => rfl
      | cons y ys =>
        simp only [List.length_cons] at h
        rw [commonFrom, commonFrom, ih (by omega), ih (by simp; omega), ih (by simp; omega)]

end Common

/-! ## What edits show -/

/-- The lines that stay the same and those that change in the given way. -/
def linesWith (change : Change) (edits : List Edit) : List Line :=
  (edits.filter fun e => e.change = .same ∨ e.change = change).flatMap Edit.lines

/-- The edits show the first list in the lines that stay or are removed, and the second in those
    that stay or are added. -/
structure Shows (edits : List Edit) (left right : List Line) : Prop where
  left_eq : linesWith .removed edits = left
  right_eq : linesWith .added edits = right

section Edits

variable {change : Change}

@[simp]
theorem linesWith_nil : linesWith change [] = [] := rfl

@[simp]
theorem linesWith_append (edits others : List Edit) :
    linesWith change (edits ++ others) = linesWith change edits ++ linesWith change others := by
  simp [linesWith]

theorem linesWith_cons (e : Edit) (edits : List Edit) :
    linesWith change (e :: edits) =
      (if e.change = .same ∨ e.change = change then e.lines else []) ++ linesWith change edits := by
  unfold linesWith
  rw [List.filter_cons]
  split <;> simp_all

@[simp]
theorem linesWith_edit (kind : Change) (lines : List Line) :
    linesWith change (edit kind lines) = if kind = .same ∨ kind = change then lines else [] := by
  unfold edit
  cases lines with
  | nil => simp
  | cons line lines => simp [linesWith_cons]

theorem shows_nil : Shows [] [] [] := ⟨rfl, rfl⟩

/-- Every line of the edits is a line of one of the lists. -/
theorem Shows.mem_or_mem {edits : List Edit} {left right : List Line} (h : Shows edits left right)
    {e : Edit} (he : e ∈ edits) {line : Line} (hline : line ∈ e.lines) :
    line ∈ left ∨ line ∈ right := by
  rw [← h.left_eq, ← h.right_eq, linesWith, linesWith, List.mem_flatMap, List.mem_flatMap]
  cases hchange : e.change with
  | same => exact .inl ⟨e, List.mem_filter.mpr ⟨he, by simp [hchange]⟩, hline⟩
  | removed => exact .inl ⟨e, List.mem_filter.mpr ⟨he, by simp [hchange]⟩, hline⟩
  | added => exact .inr ⟨e, List.mem_filter.mpr ⟨he, by simp [hchange]⟩, hline⟩

end Edits

/-! ## Lines that are shared from the start -/

section Merge

variable {left right common : List Line}

theorem take_sharedLength (left right common : List Line) :
    left.take (sharedLength left right common) = right.take (sharedLength left right common) := by
  fun_induction sharedLength left right common with
  | case1 l ls r rs c cs h ih => simp [h, ih]
  | case2 => rfl
  | case3 => rfl

/-- Behind the shared lines, the common lines that are left are common to what is left. -/
theorem drop_sharedLength_sublist (hleft : common.Sublist left) (hright : common.Sublist right) :
    (common.drop (sharedLength left right common)).Sublist
        (left.drop (sharedLength left right common)) ∧
      (common.drop (sharedLength left right common)).Sublist
        (right.drop (sharedLength left right common)) := by
  fun_induction sharedLength left right common with
  | case1 l ls r rs c cs h ih =>
    obtain ⟨rfl, rfl⟩ := h
    exact ih (List.cons_sublist_cons.mp hleft) (List.cons_sublist_cons.mp hright)
  | case2 => exact ⟨hleft, hright⟩
  | case3 => exact ⟨hleft, hright⟩

/-- Behind the shared lines, no line is shared. -/
theorem sharedLength_drop (left right common : List Line) :
    sharedLength (left.drop (sharedLength left right common))
      (right.drop (sharedLength left right common))
      (common.drop (sharedLength left right common)) = 0 := by
  fun_induction sharedLength left right common with
  | case1 l ls r rs c cs h ih => exact ih
  | case2 l ls r rs c cs h => simp [sharedLength, h]
  | case3 => simp [sharedLength]

/-! ## Lines up to the next common one -/

theorem untilCommon_append_fromCommon (lines : List Line) :
    untilCommon common lines ++ fromCommon common lines = lines :=
  List.takeWhile_append_dropWhile

@[simp]
theorem fromCommon_nil (lines : List Line) : fromCommon [] lines = [] := by
  simp [fromCommon]

theorem fromCommon_cons_of_ne {line c : Line} (h : line ≠ c) (lines cs : List Line) :
    fromCommon (c :: cs) (line :: lines) = fromCommon (c :: cs) lines := by
  simp [fromCommon, Ne.symm h]

theorem length_fromCommon_le (common lines : List Line) :
    (fromCommon common lines).length ≤ lines.length :=
  List.length_dropWhile_le ..

/-- Skipping lines up to the next common one loses no common line. -/
theorem sublist_fromCommon {lines : List Line} (h : common.Sublist lines) :
    common.Sublist (fromCommon common lines) := by
  cases common with
  | nil => exact List.nil_sublist _
  | cons c cs =>
    induction lines with
    | nil => exact h
    | cons line lines ih =>
      by_cases hline : line = c
      · have hstop : fromCommon (c :: cs) (line :: lines) = line :: lines := by
          simp [fromCommon, hline]
        rwa [hstop]
      · rw [fromCommon_cons_of_ne hline]
        exact ih (h.of_cons_of_ne (Ne.symm hline))

/-- Where lines are left and none is shared, skipping takes some of them: there is no common line
    any more, or one of the lists starts with another line. -/
theorem length_fromCommon_lt (hleft : common.Sublist left) (hright : common.Sublist right)
    (hshared : sharedLength left right common = 0) (h : ¬ (left = [] ∧ right = [])) :
    (fromCommon common left).length + (fromCommon common right).length <
      left.length + right.length := by
  match common, left, right with
  | [], left, right =>
    have hpos : 0 < (left ++ right).length :=
      List.length_pos_of_ne_nil (mt List.append_eq_nil_iff.mp h)
    simpa using hpos
  | c :: cs, [], _ => cases hleft
  | c :: cs, l :: ls, [] => cases hright
  | c :: cs, l :: ls, r :: rs =>
    have hl := length_fromCommon_le (c :: cs) (l :: ls)
    have hr := length_fromCommon_le (c :: cs) (r :: rs)
    have hls := length_fromCommon_le (c :: cs) ls
    have hrs := length_fromCommon_le (c :: cs) rs
    simp only [List.length_cons] at hl hr ⊢
    by_cases hlc : l = c
    · have hrc : r ≠ c := fun hrc => by simp [sharedLength, hlc, hrc] at hshared
      rw [fromCommon_cons_of_ne hrc]
      omega
    · rw [fromCommon_cons_of_ne hlc]
      omega

/-! ## One round -/

/-- The edits of a round in which `n` lines are shared. -/
def roundEdits (left right common : List Line) (n : Nat) : List Edit :=
  edit .same (left.take n) ++
    (edit .removed (untilCommon (common.drop n) (left.drop n)) ++
      edit .added (untilCommon (common.drop n) (right.drop n)))

/-- A round shows the lines that it takes. -/
theorem Shows.round {edits : List Edit} {n : Nat} (htake : left.take n = right.take n)
    (h : Shows edits (fromCommon (common.drop n) (left.drop n))
      (fromCommon (common.drop n) (right.drop n))) :
    Shows (roundEdits left right common n ++ edits) left right where
  left_eq := by simp [roundEdits, h.left_eq, untilCommon_append_fromCommon]
  right_eq := by simp [roundEdits, h.right_eq, untilCommon_append_fromCommon, htake]

/-- A round takes lines as long as there are any. -/
theorem length_round_lt (hleft : common.Sublist left) (hright : common.Sublist right)
    (h : ¬ (left = [] ∧ right = [])) {n : Nat} (hn : n = sharedLength left right common) :
    (fromCommon (common.drop n) (left.drop n)).length +
        (fromCommon (common.drop n) (right.drop n)).length <
      left.length + right.length := by
  obtain ⟨hleft', hright'⟩ := drop_sharedLength_sublist hleft hright
  have hshared := sharedLength_drop left right common
  rw [← hn] at hleft' hright' hshared
  have hl : (left.drop n).length ≤ left.length := by simp
  have hr : (right.drop n).length ≤ right.length := by simp
  by_cases hdone : left.drop n = [] ∧ right.drop n = []
  · have hpos : 0 < (left ++ right).length :=
      List.length_pos_of_ne_nil (mt List.append_eq_nil_iff.mp h)
    rw [hdone.1, hdone.2]
    simpa [fromCommon] using hpos
  · have hlt := length_fromCommon_lt hleft' hright' hshared hdone
    omega

/-! ## All rounds -/

theorem mergeAlong?_nil (rounds : Nat) (common : List Line) :
    mergeAlong? rounds [] [] common = some [] := by
  cases rounds <;> rfl

theorem mergeAlong?_succ (rounds : Nat) (h : ¬ (left = [] ∧ right = [])) {n : Nat}
    (hn : n = sharedLength left right common) :
    mergeAlong? (rounds + 1) left right common =
      (mergeAlong? rounds (fromCommon (common.drop n) (left.drop n))
        (fromCommon (common.drop n) (right.drop n)) (common.drop n)).map
          (roundEdits left right common n ++ ·) := by
  rw [mergeAlong?, if_neg (by simpa using h), ← hn]
  simp only [roundEdits, List.append_assoc]

/-- The merge along common lines ends after as many rounds as there are lines, and shows both
    lists. -/
theorem exists_mergeAlong? {rounds : Nat} (hleft : common.Sublist left)
    (hright : common.Sublist right) (h : left.length + right.length ≤ rounds) :
    ∃ edits, Shows edits left right ∧
      ∀ extra, mergeAlong? (rounds + extra) left right common = some edits := by
  induction rounds generalizing left right common with
  | zero =>
    obtain rfl : left = [] := List.eq_nil_of_length_eq_zero (by omega)
    obtain rfl : right = [] := List.eq_nil_of_length_eq_zero (by omega)
    exact ⟨[], shows_nil, fun extra => mergeAlong?_nil _ common⟩
  | succ rounds ih =>
    by_cases hempty : left = [] ∧ right = []
    · obtain ⟨rfl, rfl⟩ := hempty
      exact ⟨[], shows_nil, fun extra => mergeAlong?_nil _ common⟩
    · obtain ⟨n, hn⟩ : ∃ n, n = sharedLength left right common := ⟨_, rfl⟩
      obtain ⟨hleft', hright'⟩ := drop_sharedLength_sublist hleft hright
      have hlt := length_round_lt hleft hright hempty hn
      have htake := take_sharedLength left right common
      rw [← hn] at hleft' hright' htake
      obtain ⟨edits, hshows, hmerge⟩ :=
        ih (sublist_fromCommon hleft') (sublist_fromCommon hright') (by omega)
      refine ⟨roundEdits left right common n ++ edits, hshows.round htake, fun extra => ?_⟩
      rw [Nat.add_right_comm, mergeAlong?_succ _ hempty hn, hmerge]
      rfl

end Merge

/-! ## Texts -/

/-- The lines of a text that is made of lines of another one are lines of that one, in order. A
    single empty line makes the empty text, which has none. -/
theorem linesOf_joinLines_sublist {common : List Line} {cs : List Char}
    (h : common.Sublist (splitLines cs)) : (linesOf (joinLines common)).Sublist (linesOf cs) := by
  unfold linesOf
  split
  · exact List.nil_sublist _
  · next hjoined =>
    have hne : common ≠ [] := by rintro rfl; simp [joinLines] at hjoined
    rw [splitLines_joinLines hne fun line hline => notMem_of_mem_splitLines (h.subset hline)]
    split
    · next hempty =>
      -- the other text is empty, so its only line is
      rw [List.isEmpty_iff.mp hempty, splitLines] at h
      rcases List.sublist_singleton.mp h with rfl | rfl
      · exact absurd rfl hne
      · simp [joinLines] at hjoined
    · exact h

/-- The difference between two texts, if the given numbers of steps back through the table and of
    rounds of the merge are enough for it. -/
def lineDiffWithin? (steps rounds : Nat) (before after : List Char) : Option (List Edit) :=
  let xs := splitLines before
  let ys := splitLines after
  let common := joinLines (commonFrom (scores xs ys) ys.length steps xs.reverse ys.reverse).reverse
  mergeAlong? rounds (linesOf before) (linesOf after) (linesOf common)

theorem lineDiff?_eq_lineDiffWithin? (before after : List Char) :
    lineDiff? before after =
      lineDiffWithin? ((splitLines before).length + (splitLines after).length)
        ((linesOf before).length + (linesOf after).length) before after := rfl

/-- Two texts have a difference, which takes no more steps and rounds than they have lines and shows
    both. -/
theorem exists_lineDiffWithin? (before after : List Char) :
    ∃ edits, Shows edits (linesOf before) (linesOf after) ∧
      ∀ steps rounds, (splitLines before).length + (splitLines after).length ≤ steps →
        (linesOf before).length + (linesOf after).length ≤ rounds →
          lineDiffWithin? steps rounds before after = some edits := by
  obtain ⟨hbefore, hafter⟩ := commonFrom_sublist (scores (splitLines before) (splitLines after))
    (splitLines after).length ((splitLines before).length + (splitLines after).length)
    (splitLines before).reverse (splitLines after).reverse
  rw [← List.reverse_sublist, List.reverse_reverse] at hbefore hafter
  obtain ⟨edits, hshows, hmerge⟩ := exists_mergeAlong? (linesOf_joinLines_sublist hbefore)
    (linesOf_joinLines_sublist hafter) (Nat.le_refl _)
  refine ⟨edits, hshows, fun steps rounds hsteps hrounds => ?_⟩
  obtain ⟨moreSteps, rfl⟩ := Nat.exists_eq_add_of_le hsteps
  obtain ⟨moreRounds, rfl⟩ := Nat.exists_eq_add_of_le hrounds
  rw [lineDiffWithin?, commonFrom_add _ _ (by simp), hmerge]

end MacroByExample.Text
