import Mathlib
import MacroByExample.Reader.Grammar

/-!
# Finding forms

The search for forms is bounded by a depth that suffices for its text, so what it finds is given by
equations without a depth: a bracket pair around the forms inside it, a longest run of token
characters, and one form after the other.

* `openedBy?_eq_some_iff`, `closedBy?_eq_some_iff`, `isTokenChar_iff`: the kinds of characters.
* `form?_opener`, `form?_opener_eq_none`, `form?_token`, `form?_eq_none_of_head`: the form that a
  text starts with.
* `forms_of_none`, `forms_of_some`: the forms that a text starts with.
* `form?_forms_induction`: induction along the search.
-/

namespace MacroByExample.Reader

/-! ## Characters -/

theorem openedBy?_eq_some_iff {c : Char} {b : Bracket} : openedBy? c = some b ↔ c = b.opener := by
  constructor
  · intro h
    unfold openedBy? at h
    split at h
    · cases h; assumption
    · split at h
      · cases h; assumption
      · split at h
        · cases h; assumption
        · cases h
  · rintro rfl
    exact openedBy?_opener b

theorem closedBy?_eq_some_iff {c : Char} {b : Bracket} : closedBy? c = some b ↔ c = b.closer := by
  constructor
  · intro h
    unfold closedBy? at h
    split at h
    · cases h; assumption
    · split at h
      · cases h; assumption
      · split at h
        · cases h; assumption
        · cases h
  · rintro rfl
    exact closedBy?_closer b

@[simp]
theorem openedBy?_closer (b : Bracket) : openedBy? b.closer = none := by
  cases b <;> rfl

theorem Bracket.opener_injective {b b' : Bracket} (h : b.opener = b'.opener) : b = b' := by
  have hopened := openedBy?_opener b
  rw [h, openedBy?_opener] at hopened
  exact (Option.some.inj hopened).symm

theorem Bracket.closer_injective {b b' : Bracket} (h : b.closer = b'.closer) : b = b' := by
  have hclosed := closedBy?_closer b
  rw [h, closedBy?_closer] at hclosed
  exact (Option.some.inj hclosed).symm

theorem Bracket.opener_ne_closer (b b' : Bracket) : b.opener ≠ b'.closer := by
  intro h
  have hopened := openedBy?_opener b
  rw [h, openedBy?_closer] at hopened
  cases hopened

@[simp]
theorem isDelimiter_opener (b : Bracket) : isDelimiter b.opener = true := by
  simp [isDelimiter]

@[simp]
theorem isDelimiter_closer (b : Bracket) : isDelimiter b.closer = true := by
  simp [isDelimiter]

@[simp]
theorem isTokenChar_opener (b : Bracket) : isTokenChar b.opener = false := by
  simp [isTokenChar]

@[simp]
theorem isTokenChar_closer (b : Bracket) : isTokenChar b.closer = false := by
  simp [isTokenChar]

@[simp]
theorem isSeparator_opener (b : Bracket) : isSeparator b.opener = false := by
  cases b <;> rfl

@[simp]
theorem isSeparator_closer (b : Bracket) : isSeparator b.closer = false := by
  cases b <;> rfl

theorem isDelimiter_eq_false_iff {c : Char} :
    isDelimiter c = false ↔ openedBy? c = none ∧ closedBy? c = none := by
  simp [isDelimiter]

/-- A delimiter opens or closes a pair. -/
theorem exists_bracket_of_isDelimiter {c : Char} (h : isDelimiter c = true) :
    (∃ b : Bracket, c = b.opener) ∨ ∃ b : Bracket, c = b.closer := by
  rw [isDelimiter, Bool.or_eq_true, Option.isSome_iff_exists, Option.isSome_iff_exists] at h
  rcases h with ⟨b, hb⟩ | ⟨b, hb⟩
  · exact .inl ⟨b, openedBy?_eq_some_iff.mp hb⟩
  · exact .inr ⟨b, closedBy?_eq_some_iff.mp hb⟩

theorem isSeparator_iff {c : Char} : isSeparator c = true ↔ c ∈ [' ', '\t', '\r', '\n'] := by
  simp [isSeparator, or_assoc]

theorem isDelimiter_iff {c : Char} :
    isDelimiter c = true ↔ c ∈ ['(', ')', '[', ']', '\x7b', '\x7d'] := by
  constructor
  · intro h
    rcases exists_bracket_of_isDelimiter h with ⟨b, rfl⟩ | ⟨b, rfl⟩ <;> cases b <;> decide
  · intro h
    simp only [List.mem_cons, List.not_mem_nil, or_false] at h
    rcases h with rfl | rfl | rfl | rfl | rfl | rfl <;> rfl

/-- Token characters are all but the four separators and the six delimiters. -/
theorem isTokenChar_iff {c : Char} :
    isTokenChar c = true ↔ isSeparator c = false ∧ isDelimiter c = false := by
  simp [isTokenChar]

theorem isDelimiter_of_isSeparator {c : Char} (h : isSeparator c = true) :
    isDelimiter c = false := by
  rw [isSeparator_iff] at h
  simp only [List.mem_cons, List.not_mem_nil, or_false] at h
  rcases h with rfl | rfl | rfl | rfl <;> rfl

theorem isTokenChar_of_isSeparator {c : Char} (h : isSeparator c = true) :
    isTokenChar c = false := by
  simp [isTokenChar, h]

/-! ## Separators -/

theorem skipSeparators_of_separator {c : Char} {cs : List Char} (h : isSeparator c = true) :
    skipSeparators (c :: cs) = skipSeparators cs := by
  rw [skipSeparators, List.dropWhile_cons, if_pos h, skipSeparators]

theorem skipSeparators_of_not_separator {c : Char} {cs : List Char} (h : isSeparator c = false) :
    skipSeparators (c :: cs) = c :: cs := by
  rw [skipSeparators, List.dropWhile_cons, if_neg (by simp [h])]

theorem skipSeparators_append {seps cs : List Char} (h : ∀ c ∈ seps, isSeparator c = true) :
    skipSeparators (seps ++ cs) = skipSeparators cs := by
  induction seps with
  | nil => rfl
  | cons c seps ih =>
    rw [List.cons_append, skipSeparators_of_separator (h c List.mem_cons_self)]
    exact ih fun d hd => h d (List.mem_cons_of_mem _ hd)

theorem head_skipSeparators {c : Char} {cs rest : List Char} (h : skipSeparators cs = c :: rest) :
    isSeparator c = false := by
  induction cs with
  | nil => cases h
  | cons d cs ih =>
    cases hd : isSeparator d with
    | true => exact ih (by rwa [skipSeparators_of_separator hd] at h)
    | false =>
      rw [skipSeparators_of_not_separator hd] at h
      cases h
      exact hd

@[simp]
theorem skipSeparators_skipSeparators (cs : List Char) :
    skipSeparators (skipSeparators cs) = skipSeparators cs := by
  cases h : skipSeparators cs with
  | nil => rfl
  | cons c rest => rw [skipSeparators_of_not_separator (head_skipSeparators h)]

theorem length_skipSeparators_le (cs : List Char) : (skipSeparators cs).length ≤ cs.length :=
  List.length_dropWhile_le _ _

/-! ## Depth -/

/-- What is left after a form is shorter than the text, and after forms it is not longer. -/
theorem length_within (depth : Nat) :
    (∀ cs p, formWithin? depth cs = some p → p.stop.length < cs.length) ∧
      ∀ cs, (formsWithin depth cs).2.length ≤ cs.length := by
  induction depth with
  | zero => exact ⟨fun _ _ h => (nomatch h), fun _ => Nat.le_refl _⟩
  | succ depth ih =>
    obtain ⟨ihForm, ihForms⟩ := ih
    constructor
    · intro cs p h
      cases cs with
      | nil => cases h
      | cons c cs =>
        rw [formWithin?] at h
        split at h
        · dsimp only at h
          split at h
          · cases h
          · next d after hafter =>
            split at h
            · cases h
              have hskip := length_skipSeparators_le (formsWithin depth cs).2
              have hforms := ihForms cs
              rw [hafter, List.length_cons] at hskip
              rw [Piece.stop_mk, List.length_cons]
              omega
            · cases h
        · split at h
          · cases h
            exact Nat.lt_succ_of_le (List.length_dropWhile_le _ _)
          · cases h
    · intro cs
      rw [formsWithin]
      split
      · exact Nat.le_refl _
      · next p hp =>
        have hform := ihForm _ p hp
        have hskip := length_skipSeparators_le cs
        have hmore := ihForms p.stop
        dsimp only
        omega

/-- A text of half the depth or less is searched to the end. -/
theorem within_succ (depth : Nat) :
    (∀ cs, 2 * cs.length ≤ depth + 1 → formWithin? (depth + 1) cs = formWithin? depth cs) ∧
      ∀ cs, 2 * cs.length ≤ depth → formsWithin (depth + 1) cs = formsWithin depth cs := by
  induction depth with
  | zero =>
    constructor
    · intro cs h
      have hnil : cs = [] := List.length_eq_zero_iff.mp (by omega)
      rw [hnil]
      rfl
    · intro cs h
      have hnil : cs = [] := List.length_eq_zero_iff.mp (by omega)
      rw [hnil]
      rfl
  | succ depth ih =>
    obtain ⟨ihForm, ihForms⟩ := ih
    constructor
    · intro cs h
      cases cs with
      | nil => rfl
      | cons c cs =>
        rw [List.length_cons] at h
        rw [formWithin?, formWithin?, ihForms cs (by omega)]
    · intro cs h
      have hskip := length_skipSeparators_le cs
      rw [formsWithin, formsWithin, ihForm (skipSeparators cs) (by omega)]
      cases hp : formWithin? depth (skipSeparators cs) with
      | none => rfl
      | some p =>
        have hlength := (length_within depth).1 _ p hp
        simp only [ihForms p.stop (by omega)]

theorem formWithin?_eq_form? {depth : Nat} {cs : List Char} (h : 2 * cs.length ≤ depth + 1) :
    formWithin? depth cs = form? cs := by
  have hle : ∀ k, formWithin? (2 * cs.length - 1 + k) cs = formWithin? (2 * cs.length - 1) cs := by
    intro k
    induction k with
    | zero => rfl
    | succ k ih => rw [← Nat.add_assoc, (within_succ _).1 cs (by omega), ih]
  have hdepth := hle (depth - (2 * cs.length - 1))
  have hform := hle (2 * cs.length - (2 * cs.length - 1))
  rw [Nat.add_sub_cancel' (by omega)] at hdepth hform
  rw [form?, sufficientDepth, hdepth, hform]

theorem formsWithin_eq_forms {depth : Nat} {cs : List Char} (h : 2 * cs.length ≤ depth) :
    formsWithin depth cs = forms cs := by
  induction depth, h using Nat.le_induction with
  | base => rfl
  | succ depth h ih => rw [(within_succ depth).2 cs h, ih]

/-! ## The search without a depth -/

theorem form?_nil : form? [] = none := rfl

/-- The text behind the forms that a text starts with, and behind the separators that follow. -/
def leftover (cs : List Char) : List Char :=
  skipSeparators (forms cs).2

/-- A list is found where the closer of its kind is left over behind the opener. -/
theorem form?_opener_eq_some_iff {b : Bracket} {cs : List Char} {p : Piece} :
    form? (b.opener :: cs) = some p ↔
      ∃ after, leftover cs = b.closer :: after ∧
        p = .mk .list (b.opener :: cs) after (forms cs).1 := by
  have hdepth : 2 * (b.opener :: cs).length ≤ 2 * cs.length + 1 + 1 := by
    rw [List.length_cons]
    omega
  rw [← formWithin?_eq_form? hdepth, formWithin?, openedBy?_opener]
  dsimp only
  rw [formsWithin_eq_forms (Nat.le_refl _), leftover]
  cases skipSeparators (forms cs).2 with
  | nil => simp
  | cons d after =>
    by_cases hd : d = b.closer
    · simp [hd, eq_comm]
    · simp [hd]

/-- A list: the opener, the forms behind it, and the closer of its kind. -/
theorem form?_opener {b : Bracket} {cs after : List Char} (h : leftover cs = b.closer :: after) :
    form? (b.opener :: cs) = some (.mk .list (b.opener :: cs) after (forms cs).1) :=
  form?_opener_eq_some_iff.mpr ⟨after, h, rfl⟩

/-- No list starts with an opener that is not closed, or is closed by another kind. -/
theorem form?_opener_eq_none {b : Bracket} {cs : List Char}
    (h : ∀ after, leftover cs ≠ b.closer :: after) : form? (b.opener :: cs) = none := by
  rw [Option.eq_none_iff_forall_ne_some]
  intro p hp
  obtain ⟨after, hafter, _⟩ := form?_opener_eq_some_iff.mp hp
  exact h after hafter

/-- An atom: a longest run of token characters. -/
theorem form?_token {c : Char} (h : isTokenChar c = true) (cs : List Char) :
    form? (c :: cs) = some (.mk .atom (c :: cs) (cs.dropWhile isTokenChar) []) := by
  have hopened : openedBy? c = none := (isDelimiter_eq_false_iff.mp (isTokenChar_iff.mp h).2).1
  have hdepth : 2 * (c :: cs).length ≤ 2 * cs.length + 1 + 1 := by
    rw [List.length_cons]
    omega
  rw [← formWithin?_eq_form? hdepth, formWithin?, hopened]
  dsimp only
  rw [if_pos h]

/-- No form starts with a closer or a separator. -/
theorem form?_eq_none_of_head {c : Char} (hopened : openedBy? c = none)
    (htoken : isTokenChar c = false) (cs : List Char) : form? (c :: cs) = none := by
  have hdepth : 2 * (c :: cs).length ≤ 2 * cs.length + 1 + 1 := by
    rw [List.length_cons]
    omega
  rw [← formWithin?_eq_form? hdepth, formWithin?, hopened]
  dsimp only
  rw [if_neg (by simp [htoken])]

theorem form?_closer (b : Bracket) (cs : List Char) : form? (b.closer :: cs) = none :=
  form?_eq_none_of_head (openedBy?_closer b) (isTokenChar_closer b) cs

theorem forms_eq (cs : List Char) :
    forms cs =
      match form? (skipSeparators cs) with
      | none => ([], cs)
      | some p => (p :: (forms p.stop).1, (forms p.stop).2) := by
  have hskip := length_skipSeparators_le cs
  rw [← formsWithin_eq_forms (Nat.le_succ (2 * cs.length)), formsWithin,
    formWithin?_eq_form? (by omega)]
  cases hp : form? (skipSeparators cs) with
  | none => rfl
  | some p =>
    have hlength := (length_within _).1 _ p hp
    simp only [formsWithin_eq_forms (show 2 * p.stop.length ≤ 2 * cs.length by omega)]

theorem forms_of_none {cs : List Char} (h : form? (skipSeparators cs) = none) :
    forms cs = ([], cs) := by
  rw [forms_eq, h]

theorem forms_of_some {cs : List Char} {p : Piece} (h : form? (skipSeparators cs) = some p) :
    forms cs = (p :: (forms p.stop).1, (forms p.stop).2) := by
  rw [forms_eq, h]

theorem length_stop_lt {cs : List Char} {p : Piece} (h : form? cs = some p) :
    p.stop.length < cs.length :=
  (length_within _).1 cs p h

theorem length_stop_lt_of_skip {cs : List Char} {p : Piece}
    (h : form? (skipSeparators cs) = some p) : p.stop.length < cs.length :=
  Nat.lt_of_lt_of_le (length_stop_lt h) (length_skipSeparators_le cs)

/-- Induction along the search: a list is found after the forms of the text behind its opener, and
    forms are found after the first of them and after those of the text behind it. -/
theorem form?_forms_induction {one : List Char → Prop} {many : List Char → Prop}
    (nil : one [])
    (opener : ∀ (b : Bracket) cs, many cs → one (b.opener :: cs))
    (token : ∀ c cs, isTokenChar c = true → one (c :: cs))
    (other : ∀ c cs, openedBy? c = none → isTokenChar c = false → one (c :: cs))
    (none : ∀ cs, form? (skipSeparators cs) = none → one (skipSeparators cs) → many cs)
    (some : ∀ cs p, form? (skipSeparators cs) = some p → one (skipSeparators cs) →
      many p.stop → many cs) :
    (∀ cs, one cs) ∧ ∀ cs, many cs := by
  have hone : ∀ cs, (∀ rest, rest.length < cs.length → many rest) → one cs := by
    intro cs hmany
    cases cs with
    | nil => exact nil
    | cons c cs =>
      cases hopened : openedBy? c with
      | some b =>
        rw [openedBy?_eq_some_iff.mp hopened]
        exact opener b cs (hmany cs (Nat.lt_succ_self _))
      | none =>
        cases htoken : isTokenChar c with
        | true => exact token c cs htoken
        | false => exact other c cs hopened htoken
  have hmany : ∀ cs, many cs := by
    intro cs
    induction h : cs.length using Nat.strong_induction_on generalizing cs with
    | _ n ih =>
      subst h
      have hskip : one (skipSeparators cs) := hone _ fun rest hrest =>
        ih rest.length (Nat.lt_of_lt_of_le hrest (length_skipSeparators_le cs)) rest rfl
      cases hform : form? (skipSeparators cs) with
      | none => exact none cs hform hskip
      | some p =>
        exact some cs p hform hskip (ih p.stop.length (length_stop_lt_of_skip hform) p.stop rfl)
  exact ⟨fun cs => hone cs fun rest _ => hmany rest, hmany⟩

end MacroByExample.Reader
