import MacroByExample.Proofs.Reader.Recursion

/-!
# Balance

A text is in balance when its delimiters are in pairs that nest. The scanner, which keeps the open
pairs on a stack, and the grammar, which descends into each pair, both accept the texts in balance
and no others.

* `findFault_eq_none_iff`: the scanner finds no fault in the texts in balance.
* `leftover_append`, `exists_balanced_append_leftover`: the forms that the grammar finds reach over
  text in balance, and over all of it.
* `isSome_program?_iff`: the grammar accepts the texts in balance.
* `Balanced.insert_iff`: text in balance may be put anywhere into a text, or taken out.
-/

namespace MacroByExample.Reader

/-- The delimiters of a text are in pairs that nest, and the two of a pair are of one kind. -/
inductive Balanced : List Char → Prop where
  | nil : Balanced []
  | plain {c : Char} {cs : List Char} (plain : isDelimiter c = false) (rest : Balanced cs) :
    Balanced (c :: cs)
  | pair (b : Bracket) {inside cs : List Char} (inner : Balanced inside) (rest : Balanced cs) :
    Balanced (b.opener :: (inside ++ b.closer :: cs))

namespace Balanced

theorem of_plain {cs : List Char} (h : ∀ c ∈ cs, isDelimiter c = false) : Balanced cs := by
  induction cs with
  | nil => exact nil
  | cons c cs ih =>
    exact plain (h c List.mem_cons_self) (ih fun d hd => h d (List.mem_cons_of_mem _ hd))

/-- What follows the first character of a text in balance. -/
theorem cases_cons {c : Char} {cs : List Char} (h : Balanced (c :: cs)) :
    (isDelimiter c = false ∧ Balanced cs) ∨
      ∃ b inside rest, c = Bracket.opener b ∧ cs = inside ++ b.closer :: rest ∧
        Balanced inside ∧ Balanced rest := by
  cases h with
  | plain hplain hrest => exact .inl ⟨hplain, hrest⟩
  | pair b hinner hrest => exact .inr ⟨b, _, _, rfl, rfl, hinner, hrest⟩

theorem plain_iff {c : Char} {cs : List Char} (hc : isDelimiter c = false) :
    Balanced (c :: cs) ↔ Balanced cs := by
  constructor
  · intro h
    rcases h.cases_cons with ⟨_, hrest⟩ | ⟨b, _, _, rfl, _⟩
    · exact hrest
    · simp at hc
  · exact plain hc

theorem opener_iff {b : Bracket} {cs : List Char} :
    Balanced (b.opener :: cs) ↔
      ∃ inside rest, cs = inside ++ b.closer :: rest ∧ Balanced inside ∧ Balanced rest := by
  constructor
  · intro h
    rcases h.cases_cons with ⟨hplain, _⟩ | ⟨b', inside, rest, hb, hcs, hinner, hrest⟩
    · simp at hplain
    · rw [Bracket.opener_injective hb]
      exact ⟨inside, rest, hcs, hinner, hrest⟩
  · rintro ⟨inside, rest, rfl, hinner, hrest⟩
    exact pair b hinner hrest

theorem not_closer {b : Bracket} {cs : List Char} : ¬ Balanced (b.closer :: cs) := by
  intro h
  rcases h.cases_cons with ⟨hplain, _⟩ | ⟨b', _, _, hb, _⟩
  · simp at hplain
  · exact Bracket.opener_ne_closer b' b hb.symm

end Balanced

/-! ## The scanner -/

/-- The text closes the open pairs, innermost first, and is in balance up to each closer and after
    the last. -/
def Closes : List Bracket → List Char → Prop
  | [], cs => Balanced cs
  | b :: opened, cs =>
    ∃ inside rest, cs = inside ++ b.closer :: rest ∧ Balanced inside ∧ Closes opened rest

theorem closes_end_iff {opened : List Bracket} : Closes opened [] ↔ opened = [] := by
  cases opened with
  | nil => exact iff_of_true .nil rfl
  | cons b opened => simp [Closes]

theorem closes_plain_iff {opened : List Bracket} {c : Char} {cs : List Char}
    (hc : isDelimiter c = false) : Closes opened (c :: cs) ↔ Closes opened cs := by
  cases opened with
  | nil => exact Balanced.plain_iff hc
  | cons b opened =>
    constructor
    · rintro ⟨inside, rest, hcs, hinside, hrest⟩
      cases inside with
      | nil =>
        cases hcs
        simp at hc
      | cons d inside =>
        cases hcs
        exact ⟨inside, rest, rfl, (Balanced.plain_iff hc).mp hinside, hrest⟩
    · rintro ⟨inside, rest, rfl, hinside, hrest⟩
      exact ⟨c :: inside, rest, rfl, .plain hc hinside, hrest⟩

theorem closes_opener_iff {opened : List Bracket} {b : Bracket} {cs : List Char} :
    Closes opened (b.opener :: cs) ↔ Closes (b :: opened) cs := by
  cases opened with
  | nil => exact Balanced.opener_iff
  | cons outer opened =>
    constructor
    · rintro ⟨inside, rest, hcs, hinside, hrest⟩
      cases inside with
      | nil => exact absurd (List.cons.inj hcs).1 (Bracket.opener_ne_closer b outer)
      | cons d inside =>
        obtain ⟨hd, hcs⟩ := List.cons.inj hcs
        rw [← hd] at hinside
        obtain ⟨first, second, hsplit, hfirst, hsecond⟩ := Balanced.opener_iff.mp hinside
        refine ⟨first, second ++ outer.closer :: rest, ?_, hfirst, second, rest, rfl, hsecond,
          hrest⟩
        rw [show cs = inside ++ outer.closer :: rest from hcs, hsplit, List.append_assoc,
          List.cons_append]
    · rintro ⟨first, after, rfl, hfirst, second, rest, rfl, hsecond, hrest⟩
      refine ⟨b.opener :: (first ++ b.closer :: second), rest, ?_, .pair b hfirst hsecond, hrest⟩
      rw [List.cons_append, List.append_assoc, List.cons_append]

theorem closes_closer_iff {opened : List Bracket} {b : Bracket} {cs : List Char} :
    Closes opened (b.closer :: cs) ↔ ∃ outer, opened = b :: outer ∧ Closes outer cs := by
  constructor
  · intro h
    cases opened with
    | nil => exact absurd h Balanced.not_closer
    | cons inner outer =>
      obtain ⟨inside, rest, hcs, hinside, hrest⟩ := h
      cases inside with
      | nil =>
        obtain ⟨hb, hcs⟩ := List.cons.inj hcs
        rw [Bracket.closer_injective hb, hcs]
        exact ⟨outer, rfl, hrest⟩
      | cons d inside =>
        rw [← (List.cons.inj hcs).1] at hinside
        exact absurd hinside Balanced.not_closer
  · rintro ⟨outer, rfl, hrest⟩
    exact ⟨[], cs, rfl, .nil, hrest⟩

/-- From any stack of open pairs, the scanner finds no fault in the texts that close them. -/
theorem findFaultFrom_eq_none_iff {opened : List (Nat × Bracket)} {offset : Nat} {cs : List Char} :
    findFaultFrom opened offset cs = none ↔ Closes (opened.map Prod.snd) cs := by
  induction cs generalizing opened offset with
  | nil =>
    rw [closes_end_iff, List.map_eq_nil_iff]
    cases opened with
    | nil => exact iff_of_true rfl rfl
    | cons first opened => exact iff_of_false nofun nofun
  | cons c cs ih =>
    cases hopened : openedBy? c with
    | some b =>
      obtain rfl := openedBy?_eq_some_iff.mp hopened
      rw [closes_opener_iff, findFaultFrom, hopened]
      exact ih
    | none =>
      cases hclosed : closedBy? c with
      | none =>
        rw [closes_plain_iff (isDelimiter_eq_false_iff.mpr ⟨hopened, hclosed⟩), findFaultFrom,
          hopened, hclosed]
        exact ih
      | some b =>
        obtain rfl := closedBy?_eq_some_iff.mp hclosed
        rw [closes_closer_iff, findFaultFrom, hopened, hclosed]
        cases opened with
        | nil => exact iff_of_false nofun nofun
        | cons first outer =>
          by_cases hfirst : first.2 = b
          · simp [hfirst, ih]
          · simp [hfirst]

theorem findFault_eq_none_iff {cs : List Char} : findFault cs = none ↔ Balanced cs :=
  findFaultFrom_eq_none_iff

/-! ## Changing a text in one place -/

/-- Text in balance closes none of the open pairs. -/
theorem closes_append_iff {cs : List Char} (h : Balanced cs) {opened : List Bracket}
    {tail : List Char} : Closes opened (cs ++ tail) ↔ Closes opened tail := by
  induction h generalizing opened tail with
  | nil => exact Iff.rfl
  | plain hplain _ ih => rw [List.cons_append, closes_plain_iff hplain, ih]
  | pair b _ _ ihInner ihRest =>
    rw [List.cons_append, List.append_assoc, closes_opener_iff, ihInner, List.cons_append,
      closes_closer_iff]
    simp [ihRest]

/-- Behind the same text, two texts that close the same pairs still do. -/
theorem closes_append_congr {cs ds : List Char}
    (h : ∀ opened, Closes opened cs ↔ Closes opened ds) (front : List Char)
    (opened : List Bracket) : Closes opened (front ++ cs) ↔ Closes opened (front ++ ds) := by
  induction front generalizing opened with
  | nil => exact h opened
  | cons c front ih =>
    rw [List.cons_append, List.cons_append]
    cases hc : isDelimiter c with
    | false => rw [closes_plain_iff hc, closes_plain_iff hc, ih]
    | true =>
      obtain ⟨b, rfl⟩ | ⟨b, rfl⟩ := exists_bracket_of_isDelimiter hc
      · rw [closes_opener_iff, closes_opener_iff, ih]
      · simp only [closes_closer_iff, ih]

/-- Text in balance may be put anywhere into a text, and taken out. -/
theorem Balanced.insert_iff {middle : List Char} (h : Balanced middle) (front back : List Char) :
    Balanced (front ++ (middle ++ back)) ↔ Balanced (front ++ back) :=
  closes_append_congr (fun _ => closes_append_iff h) front []

/-! ## The grammar -/

theorem leftover_of_some {cs : List Char} {p : Piece} (h : form? (skipSeparators cs) = some p) :
    leftover cs = leftover p.stop := by
  rw [leftover, forms_of_some h, leftover]

theorem leftover_of_none {cs : List Char} (h : form? (skipSeparators cs) = none) :
    leftover cs = skipSeparators cs := by
  rw [leftover, forms_of_none h]

theorem leftover_of_some_head {c : Char} {cs : List Char} {p : Piece} (hc : isSeparator c = false)
    (h : form? (c :: cs) = some p) : leftover (c :: cs) = leftover p.stop := by
  rw [← skipSeparators_of_not_separator hc] at h
  exact leftover_of_some h

theorem leftover_of_none_head {c : Char} {cs : List Char} (hc : isSeparator c = false)
    (h : form? (c :: cs) = none) : leftover (c :: cs) = c :: cs := by
  have hskip : skipSeparators (c :: cs) = c :: cs := skipSeparators_of_not_separator hc
  rw [← hskip] at h
  rw [leftover_of_none h, hskip]

theorem leftover_nil : leftover [] = [] :=
  leftover_of_none form?_nil

/-- Whether or not a text starts inside of an atom, the same is left over. -/
theorem leftover_dropWhile_isTokenChar (cs : List Char) :
    leftover (cs.dropWhile isTokenChar) = leftover cs := by
  cases cs with
  | nil => rfl
  | cons c cs =>
    cases hc : isTokenChar c with
    | false => rw [List.dropWhile_cons, if_neg (by simp [hc])]
    | true =>
      rw [leftover_of_some_head (isTokenChar_iff.mp hc).1 (form?_token hc cs),
        List.dropWhile_cons, if_pos hc, Piece.stop_mk]

theorem leftover_plain {c : Char} {cs : List Char} (hc : isDelimiter c = false) :
    leftover (c :: cs) = leftover cs := by
  cases hsep : isSeparator c with
  | true =>
    have hskip : skipSeparators (c :: cs) = skipSeparators cs := skipSeparators_of_separator hsep
    cases hform : form? (skipSeparators cs) with
    | none => rw [leftover_of_none (by rw [hskip, hform]), leftover_of_none hform, hskip]
    | some p => rw [leftover_of_some (by rw [hskip, hform]), leftover_of_some hform]
  | false =>
    have htoken : isTokenChar c = true := isTokenChar_iff.mpr ⟨hsep, hc⟩
    rw [← leftover_dropWhile_isTokenChar, List.dropWhile_cons, if_pos htoken,
      leftover_dropWhile_isTokenChar]

/-- A pair is read over when the text inside it is. -/
theorem leftover_opener {b : Bracket} {cs after : List Char}
    (h : leftover cs = b.closer :: after) : leftover (b.opener :: cs) = leftover after := by
  rw [leftover_of_some_head (isSeparator_opener b) (form?_opener h), Piece.stop_mk]

theorem leftover_opener_of_ne {b : Bracket} {cs : List Char}
    (h : ∀ after, leftover cs ≠ b.closer :: after) :
    leftover (b.opener :: cs) = b.opener :: cs :=
  leftover_of_none_head (isSeparator_opener b) (form?_opener_eq_none h)

theorem leftover_closer (b : Bracket) (cs : List Char) :
    leftover (b.closer :: cs) = b.closer :: cs :=
  leftover_of_none_head (isSeparator_closer b) (form?_closer b cs)

/-- Text in balance is read over, whatever follows it. -/
theorem leftover_append {cs : List Char} (h : Balanced cs) (tail : List Char) :
    leftover (cs ++ tail) = leftover tail := by
  induction h generalizing tail with
  | nil => rfl
  | plain hplain _ ih => rw [List.cons_append, leftover_plain hplain, ih]
  | @pair b inside cs _ _ ihInner ihRest =>
    -- Inside the pair the closer stops the forms, behind it they go on.
    have hinner : leftover (inside ++ b.closer :: (cs ++ tail)) = b.closer :: (cs ++ tail) := by
      rw [ihInner, leftover_closer]
    rw [List.cons_append, List.append_assoc, List.cons_append, leftover_opener hinner, ihRest]

/-- The text that is read over is in balance. -/
theorem exists_balanced_append_leftover (cs : List Char) :
    ∃ front, cs = front ++ leftover cs ∧ Balanced front := by
  -- The text behind a pair is shorter than the text, but how much is known only from its inside.
  induction h : cs.length using Nat.strong_induction_on generalizing cs with
  | _ n ih =>
    subst h
    cases cs with
    | nil => exact ⟨[], leftover_nil.symm, .nil⟩
    | cons c cs =>
      have hlength : cs.length < (c :: cs).length := Nat.lt_succ_self _
      cases hc : isDelimiter c with
      | false =>
        obtain ⟨front, hfront, hbalanced⟩ := ih cs.length hlength cs rfl
        refine ⟨c :: front, ?_, .plain hc hbalanced⟩
        rw [leftover_plain hc, List.cons_append, ← hfront]
      | true =>
        rcases exists_bracket_of_isDelimiter hc with ⟨b, rfl⟩ | ⟨b, rfl⟩
        · by_cases hclosed : ∃ after, leftover cs = b.closer :: after
          · obtain ⟨after, hafter⟩ := hclosed
            obtain ⟨inside, hinside, hinner⟩ := ih cs.length hlength cs rfl
            rw [hafter] at hinside
            have hshorter : after.length < (b.opener :: cs).length := by
              rw [hinside, List.length_cons, List.length_append, List.length_cons]
              omega
            obtain ⟨front, hfront, hrest⟩ := ih after.length hshorter after rfl
            refine ⟨b.opener :: (inside ++ b.closer :: front), ?_, .pair b hinner hrest⟩
            rw [leftover_opener hafter, List.cons_append, List.append_assoc, List.cons_append,
              ← hfront, ← hinside]
          · have hkept := leftover_opener_of_ne fun after hafter => hclosed ⟨after, hafter⟩
            exact ⟨[], hkept.symm, .nil⟩
        · exact ⟨[], (leftover_closer b cs).symm, .nil⟩

theorem leftover_eq_nil_iff {cs : List Char} : leftover cs = [] ↔ Balanced cs := by
  constructor
  · intro h
    obtain ⟨front, hfront, hbalanced⟩ := exists_balanced_append_leftover cs
    rw [h, List.append_nil] at hfront
    rwa [hfront]
  · intro h
    rw [← List.append_nil cs, leftover_append h, leftover_nil]

theorem program?_of_leftover {cs : List Char} (h : leftover cs = []) :
    program? cs = some (.mk .program cs [] ((forms cs).1 ++ [.mk .endOfText [] [] []])) :=
  if_pos h

theorem program?_eq_none_iff {cs : List Char} : program? cs = none ↔ leftover cs ≠ [] := by
  constructor
  · intro h hleft
    rw [program?_of_leftover hleft] at h
    cases h
  · intro h
    exact if_neg h

/-- The grammar accepts the texts in balance and no others. -/
theorem isSome_program?_iff {cs : List Char} : (program? cs).isSome ↔ Balanced cs := by
  rw [← leftover_eq_nil_iff, ← not_iff_not, Option.not_isSome_iff_eq_none]
  exact program?_eq_none_iff

end MacroByExample.Reader
