import MacroByExample.Proofs.Reader.Reading

/-!
# Blank texts

Reading gives no forms for a text of blank characters, without asking the grammar. The grammar
separates tokens by four characters only, and takes every other blank character for part of a token.
So on a blank text with such a character the two differ: reading gives nothing, and the grammar
finds at least one atom. On every other text they agree.

* `readByGrammar`: the forms that the grammar finds.
* `read_eq_readByGrammar_iff`: where reading gives these forms.
* `read_noBreakSpace`: a text on which it does not.
* `isBlankText_eq_all`: a text is blank exactly when the grammar finds nothing but blank atoms.
-/

namespace MacroByExample

/-- Whether the form is an atom of blank characters. -/
def Form.isBlank : Form → Bool
  | .atom t => Text.isBlankText t.toList
  | .list _ => false

namespace Reader

/-- The forms of a text as the grammar finds them, also if the text is blank. -/
def readByGrammar (text : String) : Except ReadError (List Form) :=
  match program? text.toList with
  | some program => (program.inner.filter (·.kind != .endOfText)).mapM Piece.form
  | none => .error (refusal text.toList)

/-! ## Texts that are not blank -/

theorem read_of_not_blank {text : String} (h : Text.isBlankText text.toList = false) :
    read text = readByGrammar text := by
  rw [read, readPlaced, if_neg (by simp [h]), readByGrammar]
  cases program? text.toList with
  | none => rfl
  | some program => exact map_mapM_placed _

/-! ## Blank texts -/

theorem readByGrammar_of_balanced {text : String} (h : Balanced text.toList) :
    readByGrammar text = (forms text.toList).1.mapM Piece.form := by
  rw [readByGrammar, program?_of_leftover (leftover_eq_nil_iff.mpr h)]
  dsimp only
  rw [Piece.inner_mk, filter_kind_program]

/-- A text of separators is read over to its end. -/
theorem skipSeparators_eq_nil_iff {cs : List Char} :
    skipSeparators cs = [] ↔ ∀ c ∈ cs, isSeparator c = true :=
  List.dropWhile_eq_nil_iff

theorem forms_of_separators {cs : List Char} (h : ∀ c ∈ cs, isSeparator c = true) :
    (forms cs).1 = [] := by
  rw [forms_of_none]
  rw [skipSeparators_eq_nil_iff.mpr h, form?_nil]

/-- A blank text with a character that is no separator starts with an atom. -/
theorem forms_ne_nil_of_blank {cs : List Char} (hblank : Text.isBlankText cs = true)
    (h : ¬ ∀ c ∈ cs, isSeparator c = true) : (forms cs).1 ≠ [] := by
  obtain ⟨c, rest, hskip⟩ := List.exists_cons_of_ne_nil (mt skipSeparators_eq_nil_iff.mp h)
  have hmem : c ∈ cs := by
    have hsuffix : skipSeparators cs <:+ cs := List.dropWhile_suffix _
    exact hsuffix.subset (hskip ▸ List.mem_cons_self)
  have hplain : isDelimiter c = false :=
    isDelimiter_of_isBlank (List.all_eq_true.mp hblank c hmem)
  have htoken : isTokenChar c = true := isTokenChar_iff.mpr ⟨head_skipSeparators hskip, hplain⟩
  have hform := form?_token htoken rest
  rw [← hskip] at hform
  rw [forms_of_some hform]
  exact List.cons_ne_nil _ _

theorem readByGrammar_of_separators {text : String}
    (h : ∀ c ∈ text.toList, isSeparator c = true) : readByGrammar text = .ok [] := by
  have hbalanced : Balanced text.toList :=
    .of_plain fun c hc => isDelimiter_of_isSeparator (h c hc)
  rw [readByGrammar_of_balanced hbalanced, forms_of_separators h]
  rfl

theorem exists_readByGrammar_of_blank {text : String}
    (hblank : Text.isBlankText text.toList = true)
    (h : ¬ ∀ c ∈ text.toList, isSeparator c = true) :
    ∃ f fs, readByGrammar text = .ok (f :: fs) := by
  obtain ⟨fs, hfs⟩ := exists_builds_forms text.toList
  have hne : fs ≠ [] := by
    rintro rfl
    exact forms_ne_nil_of_blank hblank h (List.forall₂_nil_right_iff.mp hfs)
  obtain ⟨f, rest, rfl⟩ := List.exists_cons_of_ne_nil hne
  refine ⟨f, rest, ?_⟩
  rw [readByGrammar_of_balanced (balanced_of_isBlankText hblank), mapM_form_of_builds hfs]

/-! ## Agreement -/

/-- **Blank texts and the grammar.** Reading a text gives what the grammar finds, unless the text is
blank and one of its characters is no separator. On those texts reading gives no forms, while the
grammar finds some. -/
theorem read_eq_readByGrammar_iff (text : String) :
    (read text = readByGrammar text ↔
      (Text.isBlankText text.toList = true → ∀ c ∈ text.toList, isSeparator c = true)) ∧
    (Text.isBlankText text.toList = true → (¬ ∀ c ∈ text.toList, isSeparator c = true) →
      read text = .ok [] ∧ ∃ f fs, readByGrammar text = .ok (f :: fs)) := by
  have hdiffer : Text.isBlankText text.toList = true →
      (¬ ∀ c ∈ text.toList, isSeparator c = true) →
        read text = .ok [] ∧ ∃ f fs, readByGrammar text = .ok (f :: fs) :=
    fun hblank h => ⟨read_of_blank hblank, exists_readByGrammar_of_blank hblank h⟩
  refine ⟨⟨fun heq hblank => ?_, fun h => ?_⟩, hdiffer⟩
  · by_contra hseparators
    obtain ⟨hread, f, fs, hgrammar⟩ := hdiffer hblank hseparators
    rw [hread, hgrammar] at heq
    cases heq
  · cases hblank : Text.isBlankText text.toList with
    | true => rw [read_of_blank hblank, readByGrammar_of_separators (h hblank)]
    | false => exact read_of_not_blank hblank

/-- A no-break space is blank and no separator. -/
theorem read_noBreakSpace :
    read "\u00A0" = .ok [] ∧ readByGrammar "\u00A0" = .ok [.atom "\u00A0"] := by
  decide +kernel

/-! ## Blank forms -/

theorem isBlank_of_isSeparator {c : Char} (h : isSeparator c = true) : Text.isBlank c = true := by
  rw [isSeparator_iff] at h
  simp only [List.mem_cons, List.not_mem_nil, or_false] at h
  rcases h with rfl | rfl | rfl | rfl <;> decide

theorem isBlankText_append (cs ds : List Char) :
    Text.isBlankText (cs ++ ds) = (Text.isBlankText cs && Text.isBlankText ds) :=
  List.all_append

theorem isBlankText_skipSeparators (cs : List Char) :
    Text.isBlankText (skipSeparators cs) = Text.isBlankText cs := by
  have hfront : Text.isBlankText (cs.takeWhile isSeparator) = true :=
    List.all_eq_true.mpr fun c hc => isBlank_of_isSeparator (List.mem_takeWhile_imp hc)
  have hcut : cs.takeWhile isSeparator ++ skipSeparators cs = cs := List.takeWhile_append_dropWhile
  conv_rhs => rw [← hcut, isBlankText_append, hfront, Bool.true_and]

/-- A text that starts with a form is blank exactly when the form and the text behind it are. -/
theorem isBlankText_of_form? {cs : List Char} {p : Piece} {f : Form} (hp : form? cs = some p)
    (hf : p.form = .ok f) : Text.isBlankText cs = (f.isBlank && Text.isBlankText p.stop) := by
  cases cs with
  | nil => cases hp
  | cons c cs =>
    cases hopened : openedBy? c with
    | some b =>
      obtain rfl := openedBy?_eq_some_iff.mp hopened
      have hopener : Text.isBlank b.opener = false := by cases b <;> rfl
      obtain ⟨after, -, rfl⟩ := form?_opener_eq_some_iff.mp hp
      rw [Piece.form] at hf
      obtain ⟨items, -, rfl⟩ := map_eq_ok_iff.mp hf
      rw [Text.isBlankText, List.all_cons, hopener]
      rfl
    | none =>
      cases htoken : isTokenChar c with
      | false =>
        rw [form?_eq_none_of_head hopened htoken] at hp
        cases hp
      | true =>
        rw [form?_token htoken] at hp
        cases hp
        rw [(builds_atom htoken cs).form_eq] at hf
        cases hf
        rw [Form.isBlank, String.toList_ofList, Piece.stop_mk, ← isBlankText_append,
          List.cons_append, List.takeWhile_append_dropWhile]

/-- A text that is read over to its end is blank exactly when the grammar finds nothing in it but
    blank atoms. -/
theorem isBlankText_eq_all {cs : List Char} {fs : List Form} (hleft : leftover cs = [])
    (hfs : (forms cs).1.mapM Piece.form = .ok fs) :
    Text.isBlankText cs = fs.all Form.isBlank := by
  induction h : cs.length using Nat.strong_induction_on generalizing cs fs with
  | _ n ih =>
    subst h
    rw [← isBlankText_skipSeparators]
    cases hform : form? (skipSeparators cs) with
    | none =>
      rw [forms_of_none hform] at hfs
      cases hfs
      rw [← leftover_of_none hform, hleft]
      rfl
    | some p =>
      rw [forms_of_some hform, List.mapM_cons] at hfs
      obtain ⟨f, hf, hfs⟩ := bind_eq_ok_iff.mp hfs
      obtain ⟨rest, hrest, heq⟩ := bind_eq_ok_iff.mp hfs
      cases heq
      rw [leftover_of_some hform] at hleft
      rw [isBlankText_of_form? hform hf, List.all_cons,
        ih p.stop.length (length_stop_lt_of_skip hform) hleft hrest rfl]

end Reader

end MacroByExample
