import MacroByExample.Proofs.Reader.OpenPairs
import MacroByExample.Proofs.Reader.Reading

/-!
# Where a text is out of balance

The error of a text that cannot be read points at one delimiter. If that is a closer, the text in
front of it could still have become a text that can be read, and with the closer it no longer can.
If it is an opener, the whole text still can, and the opener is the last one that no closer matches;
the help then names the closer to put behind the text, and following it as often as there are such
openers mends the text.

* `HasFault`, `findFault_eq_some_iff`: the fault that the scanner finds, by what is left open.
* `Extendable`, `PointOfNoReturn`, `LastUnmatched`: what the errors are about.
* `showsFault_of_read`: every error points at its delimiter.
* `ReportsOpen`, `followHelp`: an error about an opener, and what its help asks for.
* `exists_read_iterate_followHelp`: following the help mends the text.
-/

namespace MacroByExample.Reader

variable {text : String} {cs : List Char} {opened outer : List (Nat × Bracket)} {offset : Nat}
  {b : Bracket} {e : ReadError}

/-! ## Faults by what is left open -/

/-- The fault of a text: a closer that does not fit what is open in front of it, or else the
    innermost pair that the text leaves open. -/
inductive HasFault : List Char → Fault → Prop where
  | unexpectedCloser {before : List Char} (found : Bracket) (after : List Char)
    (nothing : LeavesOpen [] before) :
    HasFault (before ++ found.closer :: after)
      ⟨.unexpectedCloser found, Text.byteLength before⟩
  | wrongCloser {before : List Char} {offset : Nat} {opened : Bracket}
    {outer : List (Nat × Bracket)} (found : Bracket) (after : List Char)
    (innermost : LeavesOpen ((offset, opened) :: outer) before) (different : opened ≠ found) :
    HasFault (before ++ found.closer :: after)
      ⟨.wrongCloser opened found, Text.byteLength before⟩
  | missingCloser {cs : List Char} {offset : Nat} {opened : Bracket} {outer : List (Nat × Bracket)}
    (innermost : LeavesOpen ((offset, opened) :: outer) cs) :
    HasFault cs ⟨.missingCloser opened, offset⟩

theorem HasFault.findFault_eq {fault : Fault} (h : HasFault cs fault) :
    findFault cs = some fault := by
  cases h with
  | unexpectedCloser found after nothing =>
    rw [nothing.findFault_append, findFaultFrom, openedBy?_closer, closedBy?_closer]
  | wrongCloser found after innermost different =>
    rw [innermost.findFault_append, findFaultFrom, openedBy?_closer, closedBy?_closer]
    exact if_neg different
  | missingCloser innermost =>
    rw [← List.append_nil cs, innermost.findFault_append, findFaultFrom]

/-- A text is in balance or has a fault. -/
theorem balanced_or_hasFault (cs : List Char) : Balanced cs ∨ ∃ fault, HasFault cs fault := by
  rcases exists_leavesOpen_or_misfit cs with
    ⟨opened, hopened⟩ | ⟨before, found, after, opened, rfl, hopened, hmisfit⟩
  · cases opened with
    | nil => exact .inl hopened
    | cons o outer => exact .inr ⟨_, .missingCloser hopened⟩
  · cases opened with
    | nil => exact .inr ⟨_, .unexpectedCloser found after hopened⟩
    | cons o outer => exact .inr ⟨_, .wrongCloser found after hopened (hmisfit o rfl)⟩

/-- The scanner finds the fault of a text. -/
theorem findFault_eq_some_iff {fault : Fault} : findFault cs = some fault ↔ HasFault cs fault := by
  constructor
  · intro h
    rcases balanced_or_hasFault cs with hbalanced | ⟨fault', hfault'⟩
    · rw [findFault_eq_none_iff.mpr hbalanced] at h
      cases h
    · rw [hfault'.findFault_eq] at h
      cases h
      exact hfault'
  · exact HasFault.findFault_eq

theorem read_eq_error_iff :
    read text = .error e ↔ ∃ fault, HasFault text.toList fault ∧ e = .unbalanced fault := by
  constructor
  · intro h
    obtain ⟨fault, hfault, he⟩ := exists_fault_of_read h
    exact ⟨fault, findFault_eq_some_iff.mp hfault, he⟩
  · rintro ⟨fault, hfault, rfl⟩
    have hbalanced : ¬ Balanced text.toList := by
      rw [← findFault_eq_none_iff, hfault.findFault_eq]
      nofun
    rw [read_of_not_balanced hbalanced, refusal, hfault.findFault_eq]

/-! ## What can still be read -/

/-- The characters begin a text that can be read. -/
def Extendable (cs : List Char) : Prop :=
  ∃ tail fs, read (String.ofList (cs ++ tail)) = .ok fs

theorem extendable_iff : Extendable cs ↔ ∃ tail, Balanced (cs ++ tail) := by
  refine exists_congr fun tail => ?_
  rw [exists_read_iff, String.toList_ofList]

theorem LeavesOpen.extendable (h : LeavesOpen opened cs) : Extendable cs :=
  extendable_iff.mpr ⟨_, h.balanced_append_closers⟩

/-- Up to the character the text can still become one that can be read, and with it no longer. -/
structure PointOfNoReturn (before : List Char) (c : Char) : Prop where
  extendable : Extendable before
  not_extendable : ¬ Extendable (before ++ [c])

theorem LeavesOpen.pointOfNoReturn {found : Bracket} (h : LeavesOpen opened cs)
    (hmisfit : Misfits opened found) : PointOfNoReturn cs found.closer where
  extendable := h.extendable
  not_extendable := by
    rw [extendable_iff]
    rintro ⟨tail, htail⟩
    rw [List.append_assoc] at htail
    exact h.not_balanced_of_misfits hmisfit htail

/-- The opener is the last of a text that no closer matches. -/
structure LastUnmatched (cs : List Char) (o : Nat × Bracket) : Prop where
  unmatched : Unmatched cs o
  last : ∀ o', Unmatched cs o' → o'.1 ≤ o.1

theorem LeavesOpen.lastUnmatched {o : Nat × Bracket} (h : LeavesOpen (o :: outer) cs) :
    LastUnmatched cs o where
  unmatched := h.unmatched_of_mem List.mem_cons_self
  last := by
    intro o' ho'
    rcases List.mem_cons.mp (h.mem_of_unmatched ho') with rfl | hmem
    · exact Nat.le_refl _
    · exact Nat.le_of_lt (List.rel_of_pairwise_cons h.offsets hmem)

/-! ## What the errors show -/

/-- The label of the error is one byte of the text, a delimiter, and the message is about it: a
    closer where nothing is open, a closer of another kind than the innermost opener still open, or
    the last opener that no closer matches. In front of the closer the text could still become one
    that can be read, with it no longer; a text that only lacks closers still can. -/
def ShowsFault (text : String) (e : ReadError) : Prop :=
  ∃ before c after note, text.toList = before ++ c :: after ∧ c.utf8Size = 1 ∧
    e.label? = some ⟨Text.byteLength before, 1, note⟩ ∧
    ((∃ found : Bracket, e.message = "Parse error: " ++ s!"unexpected closing '{found.closer}'" ∧
        c = found.closer ∧ PointOfNoReturn before c ∧ ∀ o, ¬ Unmatched before o) ∨
      (∃ opened found : Bracket,
        e.message = "Parse error: " ++ s!"'{opened.opener}' closed by '{found.closer}'" ∧
        c = found.closer ∧ PointOfNoReturn before c ∧
        ∃ offset, LastUnmatched before (offset, opened)) ∨
      ∃ opened : Bracket, e.message = "Parse error: " ++ s!"missing closing '{opened.closer}'" ∧
        c = opened.opener ∧ Extendable text.toList ∧
        LastUnmatched text.toList (Text.byteLength before, opened))

theorem utf8Size_opener (b : Bracket) : b.opener.utf8Size = 1 := by
  cases b <;> rfl

theorem utf8Size_closer (b : Bracket) : b.closer.utf8Size = 1 := by
  cases b <;> rfl

/-- **Where the errors point.** The error of a text that cannot be read points at the delimiter that
its message is about. A closer is reported where the text can no longer become one that can be read,
and not earlier or later, and the opener that it is said to close is the innermost one open there.
A missing closer is reported where the text still can, at the last opener that no closer matches. -/
theorem showsFault_of_read (h : read text = .error e) : ShowsFault text e := by
  obtain ⟨fault, hfault, rfl⟩ := read_eq_error_iff.mp h
  generalize hcs : text.toList = cs at hfault
  cases hfault with
  | @unexpectedCloser before found after nothing =>
    refine ⟨before, found.closer, after, _, hcs, utf8Size_closer found, rfl, .inl ⟨found, rfl, rfl,
      nothing.pointOfNoReturn nofun, fun o ho => ?_⟩⟩
    cases nothing.mem_of_unmatched ho
  | @wrongCloser before offset opened outer found after innermost different =>
    have hmisfit : Misfits ((offset, opened) :: outer) found := by
      rintro o ho
      rwa [← Option.some.inj ho]
    exact ⟨before, found.closer, after, _, hcs, utf8Size_closer found, rfl, .inr (.inl ⟨opened,
      found, rfl, rfl, innermost.pointOfNoReturn hmisfit, offset, innermost.lastUnmatched⟩)⟩
  | @missingCloser _ offset opened outer innermost =>
    obtain ⟨before, inside, hcut, rfl, -, -⟩ := id innermost
    refine ⟨before, opened.opener, inside, _, hcs.trans hcut, utf8Size_opener opened, rfl,
      .inr (.inr ⟨opened, rfl, rfl, ?_⟩)⟩
    rw [hcs]
    exact ⟨innermost.extendable, innermost.lastUnmatched⟩

/-- A pair closed by a bracket of another kind, inside a list and behind a letter of two bytes. -/
theorem showsFault_of_read_mismatched :
    let text := "\u00E9 [a (b\x7d c]"
    let e : ReadError := .unbalanced ⟨.wrongCloser .round .curly, 8⟩
    read text = .error e ∧ e.label? = some ⟨8, 1, "expected ')'"⟩ ∧ ShowsFault text e := by
  intro text e
  have h : read text = .error e := by decide +kernel
  exact ⟨h, rfl, showsFault_of_read h⟩

/-! ## Following the help -/

/-- Reading the text reports the opener at a byte offset as not closed, and the help asks for its
    closer. -/
def ReportsOpen (text : String) (offset : Nat) (b : Bracket) : Prop :=
  ∃ e, read text = .error e ∧ e.message = "Parse error: " ++ s!"missing closing '{b.closer}'" ∧
    e.label? = some ⟨offset, 1, "opened here"⟩ ∧
    e.help? = some s!"add '{b.closer}' to close this list"

/-- Only a missing closer is reported in these words. -/
theorem Imbalance.eq_of_message {i : Imbalance}
    (h : i.message = s!"missing closing '{b.closer}'") : i = .missingCloser b := by
  cases i with
  | unexpectedCloser found =>
    cases found <;> cases b <;> exact absurd h (by decide +kernel)
  | wrongCloser opened found =>
    cases opened <;> cases found <;> cases b <;> exact absurd h (by decide +kernel)
  | missingCloser opened =>
    have hcloser : String.singleton opened.closer = String.singleton b.closer :=
      (String.append_right_inj _).mp ((String.append_left_inj _).mp h)
    rw [Bracket.closer_injective (String.singleton_inj.mp hcloser)]

/-- A text is reported for a missing closer at the innermost pair that it leaves open. -/
theorem exists_leavesOpen_of_message (h : read text = .error e)
    (hmessage : e.message = "Parse error: " ++ s!"missing closing '{b.closer}'") :
    ∃ offset outer, e = .unbalanced ⟨.missingCloser b, offset⟩ ∧
      LeavesOpen ((offset, b) :: outer) text.toList := by
  obtain ⟨⟨imbalance, offset⟩, hfault, rfl⟩ := read_eq_error_iff.mp h
  obtain rfl := Imbalance.eq_of_message ((String.append_right_inj _).mp hmessage)
  generalize text.toList = cs at hfault ⊢
  cases hfault with
  | missingCloser innermost => exact ⟨offset, _, rfl, innermost⟩

theorem LeavesOpen.reportsOpen (h : LeavesOpen ((offset, b) :: outer) text.toList) :
    ReportsOpen text offset b :=
  ⟨_, read_eq_error_iff.mpr ⟨_, .missingCloser h, rfl⟩, rfl, rfl, rfl⟩

/-- The character that a help text quotes. -/
def quotedChar? (help : String) : Option Char :=
  (help.toList.dropWhile (· ≠ '\x27')).tail.head?

/-- The text with the character that the help asks for put behind it, if it asks for one. -/
def followHelp (text : String) : String :=
  match read text with
  | .ok _ => text
  | .error e =>
    match e.help?.bind quotedChar? with
    | some c => text.push c
    | none => text

theorem followHelp_of_reportsOpen (h : ReportsOpen text offset b) :
    followHelp text = text.push b.closer := by
  obtain ⟨e, hread, -, -, hhelp⟩ := h
  have hquoted : e.help?.bind quotedChar? = some b.closer := by
    rw [hhelp]
    cases b <;> decide +kernel
  rw [followHelp, hread]
  simp only [hquoted]

/-- Following the help closes the innermost pair that the text leaves open. -/
theorem leavesOpen_followHelp (h : LeavesOpen ((offset, b) :: outer) text.toList) :
    LeavesOpen outer (followHelp text).toList := by
  rw [followHelp_of_reportsOpen h.reportsOpen, String.toList_push]
  exact h.append_closer

/-- Following the help several times closes as many pairs. -/
theorem leavesOpen_iterate_followHelp (h : LeavesOpen opened text.toList) {k : Nat}
    (hk : k ≤ opened.length) : LeavesOpen (opened.drop k) (followHelp^[k] text).toList := by
  induction k with
  | zero => exact h
  | succ k ih =>
    have hopen := ih (Nat.le_of_succ_le hk)
    rw [List.drop_eq_getElem_cons hk] at hopen
    rw [Function.iterate_succ_apply']
    exact leavesOpen_followHelp hopen

/-- **Following the help mends the text.** Let a text be reported for a missing closer, and take its
openers that no closer matches, the last first. Reading reports the first of them; each time the
closer that the help asks for is put behind the text, it reports the next one; and when all have had
their turns the text can be read. -/
theorem exists_read_iterate_followHelp (h : read text = .error e)
    (hmessage : e.message = "Parse error: " ++ s!"missing closing '{b.closer}'") :
    ∃ opened : List (Nat × Bracket), opened ≠ [] ∧
      (∀ o, o ∈ opened ↔ Unmatched text.toList o) ∧ (opened.Pairwise fun o o' => o'.1 < o.1) ∧
      (∀ (k : Nat) (hk : k < opened.length),
        ReportsOpen (followHelp^[k] text) opened[k].1 opened[k].2 ∧
          followHelp^[k + 1] text = (followHelp^[k] text).push opened[k].2.closer) ∧
      ∃ fs, read (followHelp^[opened.length] text) = .ok fs := by
  obtain ⟨offset, outer, -, hopen⟩ := exists_leavesOpen_of_message h hmessage
  refine ⟨(offset, b) :: outer, List.cons_ne_nil _ _, hopen.mem_iff_unmatched, hopen.offsets,
    fun k hk => ?_, ?_⟩
  · have hrest := leavesOpen_iterate_followHelp hopen (Nat.le_of_lt hk)
    rw [List.drop_eq_getElem_cons hk] at hrest
    rw [Function.iterate_succ_apply']
    exact ⟨hrest.reportsOpen, followHelp_of_reportsOpen hrest.reportsOpen⟩
  · have hrest := leavesOpen_iterate_followHelp hopen (Nat.le_refl _)
    rw [List.drop_length] at hrest
    exact exists_read_iff.mpr hrest

/-- Three pairs of different kinds left open, and one that is closed. -/
theorem exists_read_iterate_followHelp_nested :
    let text := "[a \x7b(b) (\u00E9"
    let e : ReadError := .unbalanced ⟨.missingCloser .round, 8⟩
    read text = .error e ∧ e.message = "Parse error: " ++ "missing closing ')'" ∧
      (∃ opened : List (Nat × Bracket), opened ≠ [] ∧
        (∀ o, o ∈ opened ↔ Unmatched text.toList o) ∧
        (opened.Pairwise fun o o' => o'.1 < o.1) ∧
        (∀ (k : Nat) (hk : k < opened.length),
          ReportsOpen (followHelp^[k] text) opened[k].1 opened[k].2 ∧
            followHelp^[k + 1] text = (followHelp^[k] text).push opened[k].2.closer) ∧
        ∃ fs, read (followHelp^[opened.length] text) = .ok fs) ∧
      followHelp^[3] text = "[a \x7b(b) (\u00E9)\x7d]" := by
  intro text e
  have h : read text = .error e := by decide +kernel
  have hmessage : e.message = "Parse error: " ++ "missing closing ')'" := by decide +kernel
  exact ⟨h, hmessage, exists_read_iterate_followHelp (b := .round) h hmessage, by decide +kernel⟩

end MacroByExample.Reader
