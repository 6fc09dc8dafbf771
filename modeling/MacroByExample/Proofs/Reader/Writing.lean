import MacroByExample.Form.Layout
import MacroByExample.Proofs.Reader.Reading

/-!
# Writing and reading back

The flat text of a form and its layout within any number of columns are read back as the form, and
this exactly for the forms that can be written at all: every token can stand in a text, and the form
is not an atom of blank characters.

* `ReadsAs`, `ReadsAllAs`: characters that are read as a form, or as several, whatever follows.
* `readsAs_atom`, `readsAs_list`, `readsAllAs_intercalate`: one such lemma for each way to write.
* `readsAs_chars`, `readsAs_layoutChars`: the flat text and the layouts.
* `Readable`, `readOne_text_layout_iff`: which forms are read back.
-/

namespace MacroByExample.Reader

/-! ## Characters that are read as forms -/

/-- In front of any text that does not go on with a token, the characters are read as the form. An
    atom followed by a token character would be read as a longer atom. -/
def ReadsAs (f : Form) (cs : List Char) : Prop :=
  ∀ tail, (∀ c ∈ tail.head?, isTokenChar c = false) →
    ∃ p, form? (cs ++ tail) = some p ∧ p.form = .ok f ∧ p.stop = tail

/-- In front of any text that does not go on with a form, the characters are read as the forms. -/
def ReadsAllAs (fs : List Form) (cs : List Char) : Prop :=
  ∀ tail, form? (skipSeparators tail) = none →
    (forms (cs ++ tail)).1.mapM Piece.form = .ok fs ∧ leftover (cs ++ tail) = leftover tail

theorem readsAs_atom {t : String} (h : IsToken t) : ReadsAs (.atom t) t.toList := by
  intro tail htail
  have hchars : ∀ c ∈ t.toList, isTokenChar c = true := fun c hc =>
    isTokenChar_iff_notMem.mpr (h.notMem_reservedChars c hc)
  obtain ⟨c, cs, hcs⟩ : ∃ c cs, t.toList = c :: cs :=
    List.exists_cons_of_ne_nil fun hnil => h.ne_empty (String.toList_eq_nil_iff.mp hnil)
  rw [hcs] at hchars
  have hstop : (cs ++ tail).dropWhile isTokenChar = tail := by
    rw [List.dropWhile_append_of_pos fun d hd => hchars d (List.mem_cons_of_mem _ hd)]
    cases tail with
    | nil => rfl
    | cons d tail => rw [List.dropWhile_cons, if_neg (by simp [htail d rfl])]
  refine ⟨.mk .atom (t.toList ++ tail) tail [], ?_, form_atom t tail, rfl⟩
  rw [hcs, List.cons_append, form?_token (hchars c List.mem_cons_self), hstop]

theorem readsAs_list {fs : List Form} {cs : List Char} (h : ReadsAllAs fs cs) :
    ReadsAs (.list fs) ('(' :: (cs ++ [')'])) := by
  intro tail _
  have hcloser : form? (skipSeparators (')' :: tail)) = none := form?_closer .round tail
  obtain ⟨hforms, hleft⟩ := h (')' :: tail) hcloser
  have hleft : leftover (cs ++ ')' :: tail) = Bracket.round.closer :: tail :=
    hleft.trans (leftover_closer .round tail)
  rw [List.cons_append, List.append_assoc]
  exact ⟨_, form?_opener hleft, form_list hforms, rfl⟩

theorem readsAllAs_nil : ReadsAllAs [] [] := by
  intro tail htail
  rw [List.nil_append, forms_of_none htail]
  exact ⟨rfl, rfl⟩

/-- No form begins with a separator. -/
theorem skipSeparators_of_form?_eq_some {cs : List Char} {p : Piece} (h : form? cs = some p) :
    skipSeparators cs = cs := by
  cases cs with
  | nil => rfl
  | cons c cs =>
    cases hc : isSeparator c with
    | false => exact skipSeparators_of_not_separator hc
    | true =>
      have hopened := (isDelimiter_eq_false_iff.mp (isDelimiter_of_isSeparator hc)).1
      rw [form?_eq_none_of_head hopened (isTokenChar_of_isSeparator hc)] at h
      cases h

/-- What is read before the forms of a text is the first of the forms. -/
theorem ReadsAs.mapM_forms {f : Form} {fs : List Form} {cs tail : List Char} (h : ReadsAs f cs)
    (hend : ∀ c ∈ tail.head?, isTokenChar c = false)
    (hfs : (forms tail).1.mapM Piece.form = .ok fs) :
    (forms (cs ++ tail)).1.mapM Piece.form = .ok (f :: fs) ∧
      leftover (cs ++ tail) = leftover tail := by
  obtain ⟨p, hp, hform, hstop⟩ := h tail hend
  rw [← skipSeparators_of_form?_eq_some hp] at hp
  constructor
  · rw [forms_of_some hp, List.mapM_cons, hform, hstop, hfs]
    rfl
  · rw [leftover_of_some hp, hstop]

theorem head?_of_form?_eq_none {tail : List Char} (h : form? (skipSeparators tail) = none) :
    ∀ c ∈ tail.head?, isTokenChar c = false := by
  intro c hc
  cases tail with
  | nil => cases hc
  | cons d tail =>
    obtain rfl := Option.some.inj hc
    by_contra htoken
    rw [Bool.not_eq_false] at htoken
    rw [skipSeparators_of_not_separator (isTokenChar_iff.mp htoken).1, form?_token htoken] at h
    cases h

theorem readsAllAs_singleton {f : Form} {cs : List Char} (h : ReadsAs f cs) :
    ReadsAllAs [f] cs := by
  intro tail htail
  refine h.mapM_forms (head?_of_form?_eq_none htail) ?_
  rw [forms_of_none htail]
  rfl

theorem forms_fst_append {seps : List Char} (h : ∀ c ∈ seps, isSeparator c = true)
    (cs : List Char) : (forms (seps ++ cs)).1 = (forms cs).1 := by
  have hskip : skipSeparators (seps ++ cs) = skipSeparators cs := skipSeparators_append h
  cases hform : form? (skipSeparators cs) with
  | none => rw [forms_of_none (by rw [hskip, hform]), forms_of_none hform]
  | some p => rw [forms_of_some (by rw [hskip, hform]), forms_of_some hform]

theorem readsAllAs_cons {f : Form} {fs : List Form} {cs seps rest : List Char}
    (hf : ReadsAs f cs) (hne : seps ≠ []) (hseps : ∀ c ∈ seps, isSeparator c = true)
    (hfs : ReadsAllAs fs rest) : ReadsAllAs (f :: fs) (cs ++ seps ++ rest) := by
  intro tail htail
  obtain ⟨hforms, hleft⟩ := hfs tail htail
  have hend : ∀ c ∈ (seps ++ (rest ++ tail)).head?, isTokenChar c = false := by
    intro c hc
    rw [List.head?_append_of_ne_nil _ hne] at hc
    exact isTokenChar_of_isSeparator (hseps c (List.mem_of_mem_head? hc))
  have hbalanced : Balanced seps :=
    .of_plain fun c hc => isDelimiter_of_isSeparator (hseps c hc)
  rw [← forms_fst_append hseps] at hforms
  rw [← leftover_append hbalanced] at hleft
  obtain ⟨hall, hleftAll⟩ := hf.mapM_forms hend hforms
  rw [List.append_assoc, List.append_assoc]
  exact ⟨hall, hleftAll.trans hleft⟩

/-- Forms with separators between any two are read one after the other. -/
theorem readsAllAs_intercalate {write : Form → List Char} {seps : List Char} (hne : seps ≠ [])
    (hseps : ∀ c ∈ seps, isSeparator c = true) {items : List Form}
    (h : ∀ f ∈ items, ReadsAs f (write f)) :
    ReadsAllAs items (seps.intercalate (items.map write)) := by
  match items with
  | [] => exact readsAllAs_nil
  | [f] =>
    rw [List.map_singleton, List.intercalate_singleton]
    exact readsAllAs_singleton (h f List.mem_cons_self)
  | f :: g :: rest =>
    have hrest := readsAllAs_intercalate hne hseps fun f' hf' => h f' (List.mem_cons_of_mem f hf')
    rw [List.map_cons, List.map_cons, List.intercalate_cons_cons, ← List.map_cons]
    exact readsAllAs_cons (h f List.mem_cons_self) hne hseps hrest

/-! ## The flat text and the layouts -/

theorem isSeparator_of_mem_lineBreak {indent : Nat} :
    ∀ c ∈ Form.lineBreak indent, isSeparator c = true := by
  intro c hc
  rcases List.mem_cons.mp hc with rfl | hc
  · rfl
  · rw [List.eq_of_mem_replicate hc]
    rfl

theorem isToken_of_mem {items : List Form} (h : ∀ t ∈ (Form.list items).atoms, IsToken t) :
    ∀ f ∈ items, ∀ t ∈ f.atoms, IsToken t :=
  fun _ hf t ht => h t (Form.atoms_subset_of_mem hf ht)

/-- The flat text of a form of tokens is read as the form. -/
theorem readsAs_chars {f : Form} (h : ∀ t ∈ f.atoms, IsToken t) : ReadsAs f f.chars := by
  induction f using Form.structuralInduction with
  | atom t => exact readsAs_atom (h t (by simp))
  | list items ih =>
    have hitems := isToken_of_mem h
    rw [Form.chars_list, Form.charsOfItems_eq_intercalate]
    refine readsAs_list (readsAllAs_intercalate (List.cons_ne_nil _ _) (by simp [isSeparator]) ?_)
    exact fun f hf => ih f hf (hitems f hf)

/-- The layout of a form of tokens is read as the form, whichever of its lists are broken. -/
theorem readsAs_layoutChars {f : Form} (h : ∀ t ∈ f.atoms, IsToken t) (width indent : Nat) :
    ReadsAs f (f.layoutChars width indent) := by
  induction f using Form.structuralInduction generalizing indent with
  | atom t => exact readsAs_atom (h t (by simp))
  | list items ih =>
    have hitems := isToken_of_mem h
    rw [Form.layoutChars]
    split
    · rw [Form.layoutItems_eq_intercalate]
      refine readsAs_list (readsAllAs_intercalate (List.cons_ne_nil _ _)
        isSeparator_of_mem_lineBreak ?_)
      exact fun f hf => ih f hf (hitems f hf) (indent + 1)
    · exact readsAs_chars h

/-! ## Reading back -/

/-- The form can be read back: its tokens can stand in a text, and it is not an atom that makes the
    text blank. -/
structure Readable (f : Form) : Prop where
  isToken : ∀ t ∈ f.atoms, IsToken t
  not_blank : ∀ t, f = .atom t → Text.isBlankText t.toList = false

/-- Characters that are read as forms in front of any text are read as them to their end. -/
theorem ReadsAllAs.forms_leftover {fs : List Form} {cs : List Char} (h : ReadsAllAs fs cs) :
    (forms cs).1.mapM Piece.form = .ok fs ∧ leftover cs = [] := by
  obtain ⟨hforms, hleft⟩ := h [] form?_nil
  rw [List.append_nil] at hforms hleft
  exact ⟨hforms, hleft.trans leftover_nil⟩

theorem read_of_readsAllAs {text : String} {fs : List Form}
    (hblank : Text.isBlankText text.toList = false) (h : ReadsAllAs fs text.toList) :
    read text = .ok fs := by
  obtain ⟨hforms, hleft⟩ := h.forms_leftover
  rw [read_of_balanced hblank (leftover_eq_nil_iff.mp hleft), hforms]

/-- The flat text of a form that can be read back is read as the form. -/
theorem readOne_text {f : Form} (h : Readable f) : readOne f.text = .ok f := by
  have hreads : ReadsAs f f.text.toList := by
    rw [Form.toList_text]
    exact readsAs_chars h.isToken
  have hblank : Text.isBlankText f.text.toList = false := by
    rw [Form.toList_text]
    cases f with
    | atom t => exact h.not_blank t rfl
    | list items => rfl
  exact readOne_eq_ok_iff.mpr (read_of_readsAllAs hblank (readsAllAs_singleton hreads))

theorem readable_list {items : List Form} (h : ∀ f ∈ items, ∀ t ∈ f.atoms, IsToken t) :
    Readable (.list items) where
  isToken := by
    intro t ht
    rw [Form.atoms_list] at ht
    obtain ⟨f, hf, ht⟩ := List.mem_flatMap.mp ht
    exact h f hf t ht
  not_blank := nofun

/-- A text that is written as an atom is its token and as a list starts with a bracket, and that is
    read as the form if its tokens allow it, is read back exactly when the form can be. -/
theorem readOne_iff_readable {f : Form} {text : String}
    (hatom : ∀ t, f = .atom t → text.toList = t.toList)
    (hlist : ∀ items, f = .list items → text.toList.head? = some '(')
    (hreads : (∀ t ∈ f.atoms, IsToken t) → ReadsAs f text.toList) :
    readOne text = .ok f ↔ Readable f := by
  rw [readOne_eq_ok_iff]
  constructor
  · intro hread
    refine ⟨isToken_of_read hread f List.mem_cons_self, fun t ht => ?_⟩
    by_contra hblank
    rw [Bool.not_eq_false, ← hatom t ht] at hblank
    rw [read_of_blank hblank] at hread
    cases hread
  · intro h
    refine read_of_readsAllAs ?_ (readsAllAs_singleton (hreads h.isToken))
    cases f with
    | atom t => rw [hatom t rfl, h.not_blank t rfl]
    | list items =>
      obtain ⟨cs, hcs⟩ := List.head?_eq_some_iff.mp (hlist items rfl)
      rw [hcs]
      rfl

/-- **Writing and reading back.** The flat text of a form is read back as the form exactly when all
its tokens can stand in a text and it is not an atom of blank characters, and so is its layout
within any number of columns. -/
theorem readOne_text_layout_iff (f : Form) :
    (readOne f.text = .ok f ↔ Readable f) ∧
      ∀ width, readOne (f.layout width) = .ok f ↔ Readable f := by
  constructor
  · refine readOne_iff_readable ?_ ?_ fun h => ?_
    · rintro t rfl
      rw [Form.toList_text, Form.chars_atom]
    · rintro items rfl
      rw [Form.toList_text, Form.chars_list, List.head?_cons]
    · rw [Form.toList_text]
      exact readsAs_chars h
  · intro width
    refine readOne_iff_readable ?_ ?_ fun h => ?_
    · rintro t rfl
      rw [Form.toList_layout, Form.layoutChars]
    · rintro items rfl
      rw [Form.toList_layout, Form.layoutChars]
      split <;> rfl
    · rw [Form.toList_layout]
      exact readsAs_layoutChars h width 0

end MacroByExample.Reader
