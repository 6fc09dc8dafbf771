import MacroByExample.Text.Columns

/-!
# Columns add up at plain characters

A text is measured from its end, and a character may take columns back from what stands after it, so
the columns of a text are in general not the sum of the columns of its parts. They are where a plain
character stands between the parts: it takes one column whatever stands after it, and nothing before
it can be joined to it.

* `columnsAndFront_nonneg`: no character takes back more columns than were counted after it.
* `StandsAlone`, `standsAlone_of_isPlain`: the characters that join nothing.
* `columns_replicate_append`, `columns_append_replicate`: the columns of a text between such
  characters.
-/

namespace MacroByExample.Text

/-! ## Ranges -/

theorem bounds_of_inRanges {ranges : List (Nat × Nat)} {lo hi n : Nat}
    (hranges : ∀ r ∈ ranges, lo ≤ r.1 ∧ r.2 ≤ hi) (h : inRanges ranges n = true) :
    lo ≤ n ∧ n ≤ hi := by
  obtain ⟨r, hr, hn⟩ := List.any_eq_true.mp h
  have hbounds := hranges r hr
  simp only [Bool.and_eq_true, decide_eq_true_eq] at hn
  omega

theorem inRanges_eq_false {ranges : List (Nat × Nat)} {lo hi n : Nat}
    (hranges : ∀ r ∈ ranges, r.2 < lo ∨ hi < r.1) (hlo : lo ≤ n) (hhi : n ≤ hi) :
    inRanges ranges n = false := by
  refine List.any_eq_false.mpr fun r hr => ?_
  have houtside := hranges r hr
  simp only [Bool.and_eq_true, decide_eq_true_eq]
  omega

/-! ## Columns that can be taken back -/

/-- The columns that the character before may take back when it joins the follower. -/
def Follower.owed : Follower → Int
  | .ligature .khmer _ => 1
  | .ligature .joinedTifinagh _ => 1
  | .joinedRegional => 1
  | .joinedOdd => 1
  | _ => 0

theorem Follower.owed_nonneg (f : Follower) : 0 ≤ f.owed := by
  fun_cases Follower.owed f <;> decide

/-- A joiner changes nothing about what a ligature owes. -/
theorem Follower.owed_ligature (last : LigatureEnd) (j k : Bool) :
    (Follower.ligature last j).owed = (Follower.ligature last k).owed := by
  cases last <;> rfl

theorem After.owed_unselected_le (a : After) : a.unselected.follower.owed ≤ a.follower.owed := by
  unfold After.unselected
  split
  · exact Int.le_refl _
  · split
    · exact Int.le_refl _
    · exact a.follower.owed_nonneg

theorem After.owed_select_le (a : After) (s : Selector) :
    (a.select s).follower.owed ≤ a.follower.owed := by
  unfold After.select
  dsimp only
  split
  · exact a.owed_unselected_le
  · exact a.follower.owed_nonneg

/-- Whoever joins a follower takes back at most what is owed, less what is owed from then on. -/
theorem owed_le_of_mem_join (c : Char) (f : Follower) :
    ∀ p ∈ join? c f, p.2.owed ≤ p.1 + f.owed := by
  fun_cases join? c f with
  | case4 last joiner => simpa using Int.le_of_eq (Follower.owed_ligature last true joiner)
  | _ => simp [Follower.owed]

theorem one_le_charColumns_of_isKhmer {c : Char} (h : isKhmer c = true) : 1 ≤ charColumns c := by
  obtain ⟨hlo, hhi⟩ : 0x1780 ≤ c.toNat ∧ c.toNat ≤ 0x17AF := bounds_of_inRanges (by decide) h
  have hzero : inRanges zeroColumnRanges c.toNat = false :=
    inRanges_eq_false (by decide +kernel) hlo hhi
  unfold charColumns
  rw [hzero, if_neg Bool.false_ne_true]
  repeat' split
  all_goals decide

/-- What a character that joins nothing owes has been counted. -/
theorem owed_followerOf_le (c : Char) : (followerOf c).owed ≤ charColumns c := by
  fun_cases followerOf c with
  | case3 =>
    have hkhmer : 1 ≤ charColumns c := one_le_charColumns_of_isKhmer ‹_›
    exact Int.ofNat_le.mpr hkhmer
  | _ => exact Int.natCast_nonneg _

/-- What one character owes and takes back is covered by the columns it adds and what was owed. -/
theorem owed_columnsBefore_le (c : Char) (a : After) :
    (columnsBefore c a).2.follower.owed ≤ (columnsBefore c a).1 + a.follower.owed := by
  have howed := a.follower.owed_nonneg
  fun_cases columnsBefore c a with
  | case1 => exact Int.add_nonneg (by dsimp only; split <;> decide) howed
  | case2 =>
    fun_cases plainBefore c a.unselected.follower <;> exact Int.add_nonneg (by decide) howed
  | case3 _ _ s => exact Int.le_trans (a.owed_select_le s) (Int.le_of_eq (Int.zero_add _).symm)
  | case4 => exact Int.add_nonneg (by decide) howed
  | case5 => exact Int.add_nonneg (by decide) howed
  | case6 _ _ _ _ _ n f hjoin =>
    have hjoined : f.owed ≤ n + a.unselected.follower.owed := owed_le_of_mem_join _ _ (n, f) hjoin
    exact Int.le_trans hjoined (Int.add_le_add_left a.owed_unselected_le n)
  | case7 =>
    have hcounted : (followerOf c).owed ≤ charColumns c := owed_followerOf_le c
    exact Int.le_trans hcounted (Int.le_add_of_nonneg_right howed)

theorem columnsAndFront_cons (c : Char) (cs : List Char) :
    columnsAndFront (c :: cs) =
      ((columnsBefore c (columnsAndFront cs).2).1 + (columnsAndFront cs).1,
        (columnsBefore c (columnsAndFront cs).2).2) := rfl

theorem owed_front_le (cs : List Char) :
    (columnsAndFront cs).2.follower.owed ≤ (columnsAndFront cs).1 := by
  induction cs with
  | nil => exact Int.le_refl 0
  | cons c cs ih =>
    have hstep := owed_columnsBefore_le c (columnsAndFront cs).2
    rw [columnsAndFront_cons]
    dsimp only
    omega

/-- No text takes less than no column. -/
theorem columnsAndFront_nonneg (cs : List Char) : 0 ≤ (columnsAndFront cs).1 :=
  Int.le_trans (Follower.owed_nonneg _) (owed_front_le cs)

theorem coe_columns (cs : List Char) : (columns cs : Int) = (columnsAndFront cs).1 :=
  Int.toNat_of_nonneg (columnsAndFront_nonneg cs)

/-! ## Characters that stand alone -/

/-- The character takes one column, whatever stands after it, and nothing before it joins it. -/
def StandsAlone (c : Char) : Prop :=
  ∀ a, columnsBefore c a = (1, .nothing)

/-- A plain character that is no part of a line end stands alone, if no selector makes an emoji of
    it. -/
theorem standsAlone_of_isPlain {c : Char} (hplain : isPlain c = true)
    (hemoji : hasEmojiForm c = false) (hlf : c ≠ '\n') (hcr : c ≠ '\r') : StandsAlone c := by
  intro a
  simp [columnsBefore, plainBefore, hplain, hemoji, hlf, hcr]

theorem StandsAlone.columns_cons {c : Char} (h : StandsAlone c) (cs : List Char) :
    columns (c :: cs) = 1 + columns cs := by
  have hcons : (columns (c :: cs) : Int) = 1 + columns cs := by
    rw [coe_columns, coe_columns, columnsAndFront_cons, h]
  omega

/-- Nothing before a character that stands alone joins it, or sees what stands behind it. -/
theorem StandsAlone.columnsAndFront_append {d : Char} (h : StandsAlone d) (cs ds : List Char) :
    columnsAndFront (cs ++ d :: ds) =
      ((columnsAndFront cs).1 + (columnsAndFront (d :: ds)).1, (columnsAndFront cs).2) := by
  induction cs with
  | nil =>
    rw [List.nil_append, columnsAndFront_cons, h]
    simp [columnsAndFront]
  | cons c cs ih =>
    rw [List.cons_append, columnsAndFront_cons, ih, columnsAndFront_cons c cs, Int.add_assoc]

theorem StandsAlone.columns_append {d : Char} (h : StandsAlone d) (cs ds : List Char) :
    columns (cs ++ d :: ds) = columns cs + columns (d :: ds) := by
  have happend : (columns (cs ++ d :: ds) : Int) = columns cs + columns (d :: ds) := by
    rw [coe_columns, coe_columns, coe_columns, h.columnsAndFront_append]
  omega

theorem columns_replicate_append {d : Char} (h : StandsAlone d) (n : Nat) (cs : List Char) :
    columns (List.replicate n d ++ cs) = n + columns cs := by
  induction n with
  | zero => simp
  | succ n ih =>
    rw [List.replicate_succ, List.cons_append, h.columns_cons, ih]
    omega

theorem columns_append_replicate {d : Char} (h : StandsAlone d) (cs : List Char) (n : Nat) :
    columns (cs ++ List.replicate n d) = columns cs + n := by
  cases n with
  | zero => simp
  | succ n =>
    have hrow : columns (List.replicate (n + 1) d) = n + 1 := by
      simpa [columns, columnsAndFront] using columns_replicate_append h (n + 1) []
    rw [List.replicate_succ, h.columns_append, ← List.replicate_succ, hrow]

end MacroByExample.Text
