import MacroByExample.Proofs.Reader.Balance
import MacroByExample.Text.Bytes

/-!
# Pairs left open

A text without a bad closer is text in balance between openers that nothing closes. What a text
leaves open decides which texts may follow it, and it is what the scanner has on its stack at the
end of the text. The scanner gets to the end of a text, or up to a closer that does not fit what is
open in front of it.

* `Unmatched`: the openers of a text that no closer matches.
* `LeavesOpen`: what a text leaves open, as a cut of the text.
* `LeavesOpen.mem_iff_unmatched`, `LeavesOpen.offsets`: these are the unmatched openers, last first.
* `LeavesOpen.balanced_append_iff`: which texts may follow.
* `exists_leavesOpen_or_misfit`: every text leaves pairs open or has a closer that does not fit.
* `LeavesOpen.findFault_append`: the scanner behind a text that leaves pairs open.
-/

namespace MacroByExample.Reader

variable {cs : List Char} {opened outer : List (Nat × Bracket)} {offset : Nat} {b : Bracket}

/-! ## More on balance -/

/-- Text in balance may be put in front of a text, and taken away. -/
theorem Balanced.append_iff {front : List Char} (h : Balanced front) (back : List Char) :
    Balanced (front ++ back) ↔ Balanced back := by
  have hcloses : Closes [] (front ++ back) ↔ Closes [] back := closes_append_iff h
  exact hcloses

/-- Text in balance does not go on in balance with a closer. -/
theorem Balanced.not_append_closer {inside rest : List Char} (h : Balanced inside) :
    ¬ Balanced (inside ++ b.closer :: rest) := by
  rw [h.append_iff]
  exact Balanced.not_closer

/-- Behind any part of a text, the rest closes what the part leaves open. -/
theorem exists_closes_of_append {stack : List Bracket} {front back : List Char}
    (h : Closes stack (front ++ back)) : ∃ stack', Closes stack' back := by
  induction front generalizing stack with
  | nil => exact ⟨stack, h⟩
  | cons c front ih =>
    rw [List.cons_append] at h
    cases hc : isDelimiter c with
    | false => exact ih ((closes_plain_iff hc).mp h)
    | true =>
      obtain ⟨b, rfl⟩ | ⟨b, rfl⟩ := exists_bracket_of_isDelimiter hc
      · exact ih (closes_opener_iff.mp h)
      · obtain ⟨outer, -, houter⟩ := closes_closer_iff.mp h
        exact ih houter

/-- In a text in balance every opener has its closer. -/
theorem Balanced.exists_closer {front back : List Char}
    (h : Balanced (front ++ b.opener :: back)) :
    ∃ inside rest, back = inside ++ b.closer :: rest ∧ Balanced inside := by
  have hcloses : Closes [] (front ++ b.opener :: back) := h
  obtain ⟨stack, hstack⟩ := exists_closes_of_append hcloses
  obtain ⟨inside, rest, hback, hinside, -⟩ := closes_opener_iff.mp hstack
  exact ⟨inside, rest, hback, hinside⟩

/-- The closers of the open pairs close them. -/
theorem closes_closers (stack : List Bracket) : Closes stack (stack.map Bracket.closer) := by
  induction stack with
  | nil => exact .nil
  | cons b stack ih => exact closes_closer_iff.mpr ⟨stack, rfl, ih⟩

/-! ## What a text leaves open -/

/-- The text has an opener of the kind at the byte offset, and no closer behind it matches the
    opener: none stands behind text in balance. -/
def Unmatched (cs : List Char) (o : Nat × Bracket) : Prop :=
  ∃ before after, cs = before ++ o.2.opener :: after ∧ Text.byteLength before = o.1 ∧
    ∀ inside rest, Balanced inside → after ≠ inside ++ o.2.closer :: rest

/-- The pairs that a text leaves open, innermost first, by the offsets of their openers: all other
    text, in front of the first opener, between any two and behind the last, is in balance. -/
def LeavesOpen : List (Nat × Bracket) → List Char → Prop
  | [], cs => Balanced cs
  | (offset, b) :: outer, cs =>
    ∃ before inside, cs = before ++ b.opener :: inside ∧ Text.byteLength before = offset ∧
      Balanced inside ∧ LeavesOpen outer before

namespace LeavesOpen

/-! ## One character more -/

/-- Text in balance leaves open what was open before. -/
theorem append_balanced {back : List Char} (h : LeavesOpen opened cs) (hback : Balanced back) :
    LeavesOpen opened (cs ++ back) := by
  cases opened with
  | nil => exact (Balanced.append_iff h back).mpr hback
  | cons o outer =>
    obtain ⟨before, inside, rfl, hoffset, hinside, houter⟩ := h
    exact ⟨before, inside ++ back, by simp, hoffset, (hinside.append_iff back).mpr hback, houter⟩

theorem append_plain {c : Char} (h : LeavesOpen opened cs) (hc : isDelimiter c = false) :
    LeavesOpen opened (cs ++ [c]) :=
  h.append_balanced (.plain hc .nil)

theorem append_opener (h : LeavesOpen opened cs) (b : Bracket) :
    LeavesOpen ((Text.byteLength cs, b) :: opened) (cs ++ [b.opener]) :=
  ⟨cs, [], rfl, rfl, .nil, h⟩

theorem append_closer (h : LeavesOpen ((offset, b) :: outer) cs) :
    LeavesOpen outer (cs ++ [b.closer]) := by
  obtain ⟨before, inside, rfl, -, hinside, houter⟩ := h
  rw [List.append_assoc, List.cons_append]
  exact houter.append_balanced (.pair b hinside .nil)

/-! ## The unmatched openers -/

theorem offset_lt (h : LeavesOpen opened cs) : ∀ o ∈ opened, o.1 < Text.byteLength cs := by
  induction opened generalizing cs with
  | nil => nofun
  | cons first outer ih =>
    obtain ⟨before, inside, rfl, hoffset, -, houter⟩ := h
    have hopener : 0 < first.2.opener.utf8Size := Char.utf8Size_pos _
    rw [Text.byteLength_append, Text.byteLength_cons]
    intro o ho
    rcases List.mem_cons.mp ho with rfl | ho
    · omega
    · have hlt := ih houter o ho
      omega

/-- The openers stand one before the other. -/
theorem offsets (h : LeavesOpen opened cs) : opened.Pairwise fun o o' => o'.1 < o.1 := by
  induction opened generalizing cs with
  | nil => exact .nil
  | cons first outer ih =>
    obtain ⟨before, inside, -, hoffset, -, houter⟩ := h
    refine .cons (fun o ho => ?_) (ih houter)
    have hlt := houter.offset_lt o ho
    rwa [hoffset] at hlt

theorem unmatched_of_mem {o : Nat × Bracket} (h : LeavesOpen opened cs) (ho : o ∈ opened) :
    Unmatched cs o := by
  induction opened generalizing cs with
  | nil => cases ho
  | cons first outer ih =>
    obtain ⟨before, inside, rfl, hoffset, hinside, houter⟩ := h
    rcases List.mem_cons.mp ho with rfl | ho
    · refine ⟨before, inside, rfl, hoffset, ?_⟩
      rintro front rest hfront rfl
      exact hfront.not_append_closer hinside
    · obtain ⟨start, after, rfl, hstart, hnone⟩ := ih houter ho
      refine ⟨start, after ++ first.2.opener :: inside, by simp, hstart, ?_⟩
      intro front rest hfront heq
      -- A closer that matches stands in front of the innermost opener, or behind it.
      rcases List.append_eq_append_iff.mp heq with
        ⟨middle, hmiddle, hrest⟩ | ⟨middle, hafter, hrest⟩
      · cases middle with
        | nil => exact Bracket.opener_ne_closer _ _ (List.cons.inj hrest).1
        | cons d middle =>
          obtain ⟨rfl, hsplit⟩ := List.cons.inj hrest
          rw [hmiddle] at hfront
          obtain ⟨inner, more, rfl, hinner⟩ := hfront.exists_closer
          have hinside' : inside = inner ++ first.2.closer :: (more ++ o.2.closer :: rest) := by
            simpa using hsplit
          rw [hinside'] at hinside
          exact hinner.not_append_closer hinside
      · cases middle with
        | nil => exact Bracket.opener_ne_closer _ _ (List.cons.inj hrest).1.symm
        | cons d middle =>
          obtain ⟨rfl, -⟩ := List.cons.inj hrest
          exact hnone front middle hfront hafter

theorem mem_of_unmatched {o : Nat × Bracket} (h : LeavesOpen opened cs) (ho : Unmatched cs o) :
    o ∈ opened := by
  induction opened generalizing cs with
  | nil =>
    obtain ⟨start, after, rfl, -, hnone⟩ := ho
    obtain ⟨inner, rest, hafter, hinner⟩ := Balanced.exists_closer h
    exact absurd hafter (hnone inner rest hinner)
  | cons first outer ih =>
    obtain ⟨before, inside, rfl, hoffset, hinside, houter⟩ := h
    obtain ⟨start, after, heq, hstart, hnone⟩ := ho
    have hsame : before = start → first.2.opener = o.2.opener → o ∈ first :: outer := by
      rintro rfl hopener
      have hfirst : o = first :=
        Prod.ext (hstart.symm.trans hoffset) (Bracket.opener_injective hopener).symm
      rw [hfirst]
      exact List.mem_cons_self
    -- The opener stands behind the innermost one left open, or is that one, or stands before it.
    rcases List.append_eq_append_iff.mp heq with ⟨middle, hmiddle, hrest⟩ | ⟨middle, hmiddle, hrest⟩
    · cases middle with
      | nil => exact hsame (by simpa using hmiddle.symm) (List.cons.inj hrest).1
      | cons d middle =>
        obtain ⟨-, rfl⟩ := List.cons.inj hrest
        obtain ⟨inner, rest, hafter, hinner⟩ := hinside.exists_closer
        exact absurd hafter (hnone inner rest hinner)
    · cases middle with
      | nil => exact hsame (by simpa using hmiddle) (List.cons.inj hrest).1.symm
      | cons d middle =>
        obtain ⟨rfl, rfl⟩ := List.cons.inj hrest
        refine List.mem_cons_of_mem _ (ih houter ⟨start, middle, hmiddle, hstart, ?_⟩)
        rintro inner rest hinner rfl
        exact hnone inner (rest ++ first.2.opener :: inside) hinner (by simp)

/-- What a text leaves open are its unmatched openers. -/
theorem mem_iff_unmatched (h : LeavesOpen opened cs) (o : Nat × Bracket) :
    o ∈ opened ↔ Unmatched cs o :=
  ⟨h.unmatched_of_mem, h.mem_of_unmatched⟩

/-! ## What may follow -/

/-- A text goes on in balance with the texts that close what it leaves open. -/
theorem balanced_append_iff (h : LeavesOpen opened cs) (tail : List Char) :
    Balanced (cs ++ tail) ↔ Closes (opened.map Prod.snd) tail := by
  induction opened generalizing cs tail with
  | nil => exact Balanced.append_iff h tail
  | cons o outer ih =>
    obtain ⟨before, inside, rfl, -, hinside, houter⟩ := h
    rw [List.append_assoc, List.cons_append, ih houter, closes_opener_iff,
      closes_append_iff hinside, List.map_cons]

theorem balanced_append_closers (h : LeavesOpen opened cs) :
    Balanced (cs ++ opened.map fun o => o.2.closer) := by
  have hclosers := closes_closers (opened.map Prod.snd)
  rw [List.map_map] at hclosers
  exact (h.balanced_append_iff _).mpr hclosers

end LeavesOpen

/-! ## The scanner -/

/-- The closer does not fit the pairs that are open in front of it: there are none, or the innermost
    is of another kind. -/
def Misfits (opened : List (Nat × Bracket)) (found : Bracket) : Prop :=
  ∀ o ∈ opened.head?, o.2 ≠ found

theorem LeavesOpen.not_balanced_of_misfits {found : Bracket} {tail : List Char}
    (h : LeavesOpen opened cs) (hmisfit : Misfits opened found) :
    ¬ Balanced (cs ++ found.closer :: tail) := by
  rw [h.balanced_append_iff, closes_closer_iff]
  rintro ⟨outer, hopened, -⟩
  obtain ⟨o, rest, rfl, hfound, -⟩ := List.map_eq_cons_iff.mp hopened
  exact hmisfit o rfl hfound

/-- A text leaves pairs open, or has a closer that does not fit what is open in front of it. -/
theorem exists_leavesOpen_or_misfit (cs : List Char) :
    (∃ opened, LeavesOpen opened cs) ∨
      ∃ before found after opened, cs = before ++ Bracket.closer found :: after ∧
        LeavesOpen opened before ∧ Misfits opened found := by
  induction cs using List.reverseRecOn with
  | nil => exact .inl ⟨[], .nil⟩
  | append_singleton cs c ih =>
    rcases ih with ⟨opened, hopened⟩ | ⟨before, found, after, opened, rfl, hopened, hmisfit⟩
    · cases hc : isDelimiter c with
      | false => exact .inl ⟨opened, hopened.append_plain hc⟩
      | true =>
        obtain ⟨b, rfl⟩ | ⟨b, rfl⟩ := exists_bracket_of_isDelimiter hc
        · exact .inl ⟨_, hopened.append_opener b⟩
        · by_cases hmisfit : Misfits opened b
          · exact .inr ⟨cs, b, [], opened, rfl, hopened, hmisfit⟩
          · obtain ⟨⟨offset, _⟩, rest, rfl, rfl⟩ :
                ∃ o rest, opened = o :: rest ∧ o.2 = b := by
              cases opened with
              | nil => exact absurd nofun hmisfit
              | cons o rest =>
                refine ⟨o, rest, rfl, ?_⟩
                by_contra hne
                exact hmisfit fun o' ho' => Option.some.inj ho' ▸ hne
            exact .inl ⟨rest, hopened.append_closer⟩
    · exact .inr ⟨before, found, after ++ [c], opened, by simp, hopened, hmisfit⟩

theorem findFaultFrom_opener (opened : List (Nat × Bracket)) (offset : Nat) (b : Bracket)
    (cs : List Char) :
    findFaultFrom opened offset (b.opener :: cs) =
      findFaultFrom ((offset, b) :: opened) (offset + b.opener.utf8Size) cs := by
  rw [findFaultFrom, openedBy?_opener]

theorem findFaultFrom_closer (opened : List (Nat × Bracket)) (offset' offset : Nat) (b : Bracket)
    (cs : List Char) :
    findFaultFrom ((offset', b) :: opened) offset (b.closer :: cs) =
      findFaultFrom opened (offset + b.closer.utf8Size) cs := by
  rw [findFaultFrom, openedBy?_closer, closedBy?_closer]
  exact if_pos rfl

/-- The scanner passes over text in balance. -/
theorem findFaultFrom_append {front : List Char} (h : Balanced front)
    (opened : List (Nat × Bracket)) (offset : Nat) (tail : List Char) :
    findFaultFrom opened offset (front ++ tail) =
      findFaultFrom opened (offset + Text.byteLength front) tail := by
  induction h generalizing opened offset tail with
  | nil => rfl
  | @plain c cs hplain _ ih =>
    obtain ⟨hopened, hclosed⟩ := isDelimiter_eq_false_iff.mp hplain
    rw [List.cons_append, findFaultFrom, hopened, hclosed, Text.byteLength_cons, ← Nat.add_assoc]
    exact ih opened _ tail
  | @pair b inside cs _ _ ihInner ihRest =>
    rw [List.cons_append, List.append_assoc, findFaultFrom_opener, ihInner, List.cons_append,
      findFaultFrom_closer, ihRest, Text.byteLength_cons, Text.byteLength_append,
      Text.byteLength_cons]
    congr 1
    omega

/-- Behind a text that leaves pairs open, the scanner has these on its stack. -/
theorem LeavesOpen.findFault_append (h : LeavesOpen opened cs) (tail : List Char) :
    findFault (cs ++ tail) = findFaultFrom opened (Text.byteLength cs) tail := by
  induction opened generalizing cs tail with
  | nil => rw [findFault, findFaultFrom_append h, Nat.zero_add]
  | cons o outer ih =>
    obtain ⟨before, inside, rfl, hoffset, hinside, houter⟩ := h
    rw [List.append_assoc, List.cons_append, ih houter, findFaultFrom_opener,
      findFaultFrom_append hinside, hoffset, Text.byteLength_append, Text.byteLength_cons, hoffset,
      Nat.add_assoc]

end MacroByExample.Reader
