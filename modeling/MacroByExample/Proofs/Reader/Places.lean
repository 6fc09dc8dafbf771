import MacroByExample.Proofs.Reader.Lexemes
import MacroByExample.Proofs.Reader.OpenPairs

/-!
# The places of forms

The forms of a text stand one after the other, and each takes up characters that are read as this
form alone. So a text can be cut at any of its forms: the characters in front of it are read as the
forms before it, and the characters behind it as those after it. A text with several forms, where
one is asked for, is reported by the place of the second.

* `Spells`: characters that are read as forms, unless they are blank (`Spells.read_eq`).
* `exists_cut`: a text cut at one of its forms.
* `readOne_surplus`: the place that is reported when a text holds more than one form.
-/

namespace MacroByExample.Reader

variable {cs ds seps : List Char} {fs gs : List Form} {f : Form} {p : Piece}

/-! ## Spelling -/

/-- The characters are in balance, and their lexemes spell the forms but for the kinds of brackets. -/
structure Spells (cs : List Char) (fs : List Form) : Prop where
  balanced : Balanced cs
  lexemes_eq : (lexemes cs).map Lexeme.rounded = fs.flatMap Form.lexemes

namespace Spells

theorem nil : Spells [] [] where
  balanced := .nil
  lexemes_eq := by rw [lexemes_nil, List.map_nil, List.flatMap_nil]

theorem append (hcs : Spells cs fs) (hds : Spells ds gs) (h : Apart cs ds) :
    Spells (cs ++ ds) (fs ++ gs) where
  balanced := (hcs.balanced.append_iff ds).mpr hds.balanced
  lexemes_eq := by
    rw [lexemes_append h, List.map_append, hcs.lexemes_eq, hds.lexemes_eq, List.flatMap_append]

theorem separators_append (h : Spells cs fs) (hseps : ∀ c ∈ seps, isSeparator c = true) :
    Spells (seps ++ cs) fs where
  balanced := by
    have hplain : Balanced seps := .of_plain fun c hc => isDelimiter_of_isSeparator (hseps c hc)
    exact (hplain.append_iff cs).mpr h.balanced
  lexemes_eq := by rw [lexemes_separators_append hseps, h.lexemes_eq]

/-- A text that is read over to its end spells the forms that are found in it. -/
theorem of_leftover (hleft : leftover cs = []) (hfs : (forms cs).1.mapM Piece.form = .ok fs) :
    Spells cs fs where
  balanced := leftover_eq_nil_iff.mp hleft
  lexemes_eq := by
    rw [rounded_lexemes_form_forms.2 cs fs hfs, hleft, lexemes_nil, List.map_nil, List.append_nil]

/-- The forms that a text spells are found in it. -/
theorem mapM_forms (h : Spells cs fs) : (forms cs).1.mapM Piece.form = .ok fs := by
  obtain ⟨gs, hgs⟩ := exists_builds_forms cs
  have hfound := mapM_form_of_builds hgs
  have hspells := of_leftover (leftover_eq_nil_iff.mpr h.balanced) hfound
  rw [hfound, Form.eq_of_flatMap_lexemes (hspells.lexemes_eq.symm.trans h.lexemes_eq)]

/-- The forms that a text spells are read, unless one of them is a blank atom. -/
theorem read_eq {text : String} (h : Spells text.toList fs) (hfs : ∀ f ∈ fs, f.isBlank = false) :
    read text = .ok fs := by
  cases hblank : Text.isBlankText text.toList with
  | true =>
    have hall := isBlankText_eq_all (leftover_eq_nil_iff.mpr h.balanced) h.mapM_forms
    rw [hblank, eq_comm, List.all_eq_true] at hall
    have hnil : fs = [] := List.eq_nil_iff_forall_not_mem.mpr fun f hf => by
      simpa [hall f hf] using hfs f hf
    rw [hnil]
    exact read_of_blank hblank
  | false => rw [read_of_balanced hblank h.balanced, h.mapM_forms]

end Spells

/-! ## The characters of a form -/

theorem Apart.of_append_right {front back tail : List Char} (h : Apart front (back ++ tail)) :
    Apart front back := by
  refine h.imp_right fun hhead c hc => hhead c ?_
  rw [List.head?_append, hc]
  rfl

/-- A form takes up characters in balance, at the end of which no word goes on. -/
theorem exists_balanced_of_form? (hp : form? cs = some p) :
    ∃ chars, cs = chars ++ p.stop ∧ p.start = cs ∧ Balanced chars ∧ Apart chars p.stop := by
  cases cs with
  | nil => cases hp
  | cons c cs =>
    cases hopened : openedBy? c with
    | some b =>
      obtain rfl := openedBy?_eq_some_iff.mp hopened
      obtain ⟨after, hafter, rfl⟩ := form?_opener_eq_some_iff.mp hp
      obtain ⟨inside, hinside, hbalanced⟩ := exists_balanced_append_leftover cs
      rw [hafter] at hinside
      refine ⟨b.opener :: (inside ++ b.closer :: []), ?_, rfl, .pair b hbalanced .nil, .inl ?_⟩
      · rw [Piece.stop_mk, List.cons_append, List.append_assoc, hinside]
        rfl
      · intro d hd
        rw [← List.cons_append, List.getLast?_concat, Option.mem_some_iff] at hd
        rw [← hd]
        exact isTokenChar_closer b
    | none =>
      cases htoken : isTokenChar c with
      | false =>
        rw [form?_eq_none_of_head hopened htoken] at hp
        cases hp
      | true =>
        rw [form?_token htoken] at hp
        cases hp
        refine ⟨c :: cs.takeWhile isTokenChar, ?_, rfl, .of_plain fun d hd => ?_, .inr ?_⟩
        · rw [Piece.stop_mk, List.cons_append, List.takeWhile_append_dropWhile]
        · rcases List.mem_cons.mp hd with rfl | hd
          · exact (isTokenChar_iff.mp htoken).2
          · exact (isTokenChar_iff.mp (List.mem_takeWhile_imp hd)).2
        · intro d hd
          have hnot := List.head?_dropWhile_not isTokenChar cs
          rw [Piece.stop_mk] at hd
          rwa [hd] at hnot

/-- The characters that a form takes up spell it. -/
theorem exists_spells_of_form? (hp : form? cs = some p) (hf : p.form = .ok f) :
    ∃ chars, cs = chars ++ p.stop ∧ p.start = cs ∧ Spells chars [f] ∧ Apart chars p.stop := by
  obtain ⟨chars, hchars, hstart, hbalanced, hapart⟩ := exists_balanced_of_form? hp
  have hlexemes := rounded_lexemes_form_forms.1 cs p f hp hf
  conv_lhs at hlexemes => rw [hchars, lexemes_append hapart, List.map_append]
  refine ⟨chars, hchars, hstart, ⟨hbalanced, ?_⟩, hapart⟩
  rw [List.flatMap_singleton, List.append_cancel_right hlexemes]

/-! ## Cutting -/

/-- The first form of a text behind its separators, and the text behind the form. -/
theorem exists_cut_first {ps : List Piece} (hpieces : (forms cs).1 = p :: ps)
    (hf : p.form = .ok f) :
    ∃ seps chars, cs = seps ++ (chars ++ p.stop) ∧ p.start = chars ++ p.stop ∧
      (∀ c ∈ seps, isSeparator c = true) ∧ Spells chars [f] ∧ Apart chars p.stop ∧
      (forms p.stop).1 = ps ∧ leftover p.stop = leftover cs := by
  cases hform : form? (skipSeparators cs) with
  | none =>
    rw [forms_of_none hform] at hpieces
    cases hpieces
  | some q =>
    rw [forms_of_some hform] at hpieces
    cases hpieces
    obtain ⟨chars, hchars, hstart, hspells, hapart⟩ := exists_spells_of_form? hform hf
    refine ⟨cs.takeWhile isSeparator, chars, ?_, hstart.trans hchars,
      fun c hc => List.mem_takeWhile_imp hc, hspells, hapart, rfl, (leftover_of_some hform).symm⟩
    rw [← hchars, skipSeparators, List.takeWhile_append_dropWhile]

/-- A text cut at one of its forms: what stands in front spells the forms before it, its own
    characters spell it alone, and what stands behind spells the forms after it. -/
theorem exists_cut {before after : List Piece} {others : List Form} (hleft : leftover cs = [])
    (hpieces : (forms cs).1 = before ++ p :: after) (hbefore : before.mapM Piece.form = .ok fs)
    (hf : p.form = .ok f) (hafter : after.mapM Piece.form = .ok others) :
    ∃ front slice, cs = front ++ (slice ++ p.stop) ∧ p.start = slice ++ p.stop ∧
      Spells front fs ∧ Spells slice [f] ∧ Spells p.stop others := by
  induction before generalizing cs fs with
  | nil =>
    cases hbefore
    obtain ⟨seps, chars, hcs, hstart, hseps, hspells, -, hforms, hstop⟩ :=
      exists_cut_first hpieces hf
    refine ⟨seps, chars, hcs, hstart, ?_, hspells, .of_leftover (hstop.trans hleft) ?_⟩
    · rw [← List.append_nil seps]
      exact Spells.nil.separators_append hseps
    · rw [hforms, hafter]
  | cons q before ih =>
    rw [List.mapM_cons] at hbefore
    obtain ⟨g, hg, hbefore⟩ := bind_eq_ok_iff.mp hbefore
    obtain ⟨gs, hgs, heq⟩ := bind_eq_ok_iff.mp hbefore
    cases heq
    obtain ⟨seps, chars, hcs, -, hseps, hspells, hapart, hforms, hstop⟩ :=
      exists_cut_first hpieces hg
    obtain ⟨front, slice, hcut, hstart, hfront, hslice, hback⟩ := ih (hstop.trans hleft) hforms hgs
    rw [hcut] at hapart
    refine ⟨seps ++ (chars ++ front), slice, ?_, hstart, ?_, hslice, hback⟩
    · rw [hcs, hcut]
      simp only [List.append_assoc]
    · exact (hspells.append hfront hapart.of_append_right).separators_append hseps

/-! ## Surplus forms -/

theorem word_mem_lexemes_of_rounded {t : String}
    (h : Lexeme.word t ∈ (lexemes cs).map Lexeme.rounded) : Lexeme.word t ∈ lexemes cs := by
  obtain ⟨l, hl, hrounded⟩ := List.mem_map.mp h
  cases l with
  | opener b => cases hrounded
  | closer b => cases hrounded
  | word t' =>
    cases hrounded
    exact hl

theorem isBlankText_eq_false_of_read {text : String} (h : read text = .ok (f :: fs)) :
    Text.isBlankText text.toList = false := by
  by_contra hblank
  rw [read_of_blank (Bool.eq_true_of_not_eq_false hblank)] at h
  cases h

/-- If no word of a text is blank, no form of it is a blank atom. -/
theorem isBlank_eq_false_of_words {text : String} (hread : read text = .ok (f :: fs))
    (hwords : ∀ t, Lexeme.word t ∈ lexemes text.toList → Text.isBlankText t.toList = false) :
    ∀ g ∈ f :: fs, g.isBlank = false := by
  intro g hg
  cases g with
  | list items => rfl
  | atom t =>
    refine hwords t (word_mem_lexemes_of_rounded ?_)
    rw [rounded_lexemes_of_read (isBlankText_eq_false_of_read hread) hread]
    exact List.mem_flatMap.mpr ⟨.atom t, hg, List.mem_singleton_self _⟩

theorem placed_eq_ok_iff {placed : Placed} :
    p.placed = .ok placed ↔ p.form = .ok placed.form ∧
      p.start = placed.start ∧ p.stop = placed.stop := by
  rw [Piece.placed, map_eq_ok_iff]
  constructor
  · rintro ⟨f, hf, rfl⟩
    exact ⟨hf, rfl, rfl⟩
  · rintro ⟨hf, hstart, hstop⟩
    refine ⟨placed.form, hf, ?_⟩
    rw [hstart, hstop]

/-- **The second of several forms.** A text that is read as several forms, and has no word of blank
characters, is refused where one form is asked for. The error has the number of the forms, and its
label covers whole characters of the text: they are read as the second form alone, the text in front
of them is read as the first, and the text behind them as all the others. -/
theorem readOne_surplus {text : String} {first second : Form} {others : List Form}
    (hread : read text = .ok (first :: second :: others))
    (hwords : ∀ t, Lexeme.word t ∈ lexemes text.toList → Text.isBlankText t.toList = false) :
    ∃ e front slice back,
      readOne text = .error e ∧
      e = .count (first :: second :: others).length (Text.byteLength front)
        (Text.byteLength slice) ∧
      e.label? = some ⟨Text.byteLength front, Text.byteLength slice, "unexpected form"⟩ ∧
      text.toList = front ++ (slice ++ back) ∧
      read (String.ofList front) = .ok [first] ∧
      readOne (String.ofList slice) = .ok second ∧
      read (String.ofList back) = .ok others := by
  have hshown := isBlank_eq_false_of_words hread hwords
  have hbalanced : Balanced text.toList := exists_read_iff.mp ⟨_, hread⟩
  have hplaced := readPlaced_of_balanced (isBlankText_eq_false_of_read hread) hbalanced
  -- The pieces of the text, and the forms that they are placed as.
  obtain ⟨placed, hok, hforms⟩ := map_eq_ok_iff.mp hread
  rw [hok] at hplaced
  obtain ⟨one, rest, rfl, hone, hrest⟩ := List.map_eq_cons_iff.mp hforms
  obtain ⟨two, more, rfl, htwo, hmore⟩ := List.map_eq_cons_iff.mp hrest
  obtain ⟨p, _, hp, htail, hpieces⟩ :=
    List.forall₂_cons_right_iff.mp (mapM_eq_ok_iff.mp hplaced.symm)
  obtain ⟨q, ps, hq, hps, rfl⟩ := List.forall₂_cons_right_iff.mp htail
  obtain ⟨hp, -, -⟩ := placed_eq_ok_iff.mp hp
  obtain ⟨hq, hqstart, hqstop⟩ := placed_eq_ok_iff.mp hq
  have hbefore : [p].mapM Piece.form = .ok [first] := by
    rw [List.mapM_cons, hp, hone]
    rfl
  have hafter : ps.mapM Piece.form = .ok others := by
    rw [← map_mapM_placed, mapM_eq_ok_iff.mpr hps, ← hmore]
    rfl
  obtain ⟨front, slice, hcut, hstart, hfront, hslice, hback⟩ :=
    exists_cut (leftover_eq_nil_iff.mpr hbalanced) hpieces hbefore (hq.trans (congrArg _ htwo))
      hafter
  have hoffset : Text.byteLength text.toList - Text.byteLength two.start =
      Text.byteLength front := by
    rw [← hqstart, hstart, hcut, Text.byteLength_append, Nat.add_sub_cancel]
  have hlength : Text.byteLength two.start - Text.byteLength two.stop = Text.byteLength slice := by
    rw [← hqstart, ← hqstop, hstart, Text.byteLength_append, Nat.add_sub_cancel]
  have hcount : (one :: two :: more).length = (first :: second :: others).length := by
    rw [← hforms, List.length_map]
  refine ⟨_, front, slice, q.stop, ?_, rfl, rfl, hcut, Spells.read_eq ?_ ?_, ?_,
    Spells.read_eq ?_ ?_⟩
  · rw [readOne, hok, ← hoffset, ← hlength, ← hcount]
    rfl
  · rwa [String.toList_ofList]
  · exact fun f hf => hshown f (List.mem_cons.mpr (.inl (List.mem_singleton.mp hf)))
  · refine readOne_eq_ok_iff.mpr (Spells.read_eq ?_ fun f hf => ?_)
    · rwa [String.toList_ofList]
    · rw [List.mem_singleton.mp hf]
      exact hshown second (by simp)
  · rwa [String.toList_ofList]
  · exact fun f hf => hshown f (List.mem_cons_of_mem _ (List.mem_cons_of_mem _ hf))

example : readOne " é(λ [x])y {z} " = .error (.count 4 3 8) := by decide +kernel

/-- Forms side by side, with characters of several bytes and brackets of all kinds. -/
theorem readOne_surplus_lambda :
    ∃ text first second others,
      (read text = .ok (first :: second :: others) ∧
        ∀ t, Lexeme.word t ∈ lexemes text.toList → Text.isBlankText t.toList = false) ∧
      ∃ e front slice back,
        readOne text = .error e ∧
        e = .count (first :: second :: others).length (Text.byteLength front)
          (Text.byteLength slice) ∧
        e.label? = some ⟨Text.byteLength front, Text.byteLength slice, "unexpected form"⟩ ∧
        text.toList = front ++ (slice ++ back) ∧
        read (String.ofList front) = .ok [first] ∧
        readOne (String.ofList slice) = .ok second ∧
        read (String.ofList back) = .ok others := by
  let text := " é(λ [x])y {z} "
  let second : Form := .list [.atom "λ", .list [.atom "x"]]
  have hread : read text = .ok [.atom "é", second, .atom "y", .list [.atom "z"]] := by
    decide +kernel
  have hshown : ∀ l ∈ lexemes text.toList, l.isBlank = false := by decide +kernel
  have hwords : ∀ t, Lexeme.word t ∈ lexemes text.toList → Text.isBlankText t.toList = false :=
    fun t ht => hshown (.word t) ht
  exact ⟨_, _, _, _, ⟨hread, hwords⟩, readOne_surplus hread hwords⟩

end MacroByExample.Reader
