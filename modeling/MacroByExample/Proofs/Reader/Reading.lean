import MacroByExample.Proofs.Except
import MacroByExample.Proofs.Reader.Grammar
import MacroByExample.Reader.Basic

/-!
# Reading

Reading a text succeeds exactly when the text is in balance, and gives the forms that the pieces of
the text stand for. Every piece that the search finds stands for a form, and every error of a read
is about a delimiter.

* `isTokenChar_iff_notMem`, `IsToken`: what can be a token.
* `builds_form_forms`: the pieces that the search finds stand for forms made of tokens.
* `read_of_blank`, `read_of_balanced`, `read_of_not_balanced`: what reading gives.
* `readOne_eq_ok_iff`: reading one form.
* `read_agrees`: reading, scanning and the grammar agree on every text.
-/

namespace MacroByExample.Reader

/-! ## Tokens -/

/-- The characters that no token contains: the separators and the delimiters. -/
def reservedChars : List Char :=
  [' ', '\t', '\r', '\n', '(', ')', '[', ']', '\x7b', '\x7d']

/-- The string can stand in a text as one token. -/
structure IsToken (t : String) : Prop where
  ne_empty : t ≠ ""
  notMem_reservedChars : ∀ c ∈ t.toList, c ∉ reservedChars

theorem isTokenChar_iff_notMem {c : Char} : isTokenChar c = true ↔ c ∉ reservedChars := by
  have hsplit : reservedChars =
      [' ', '\t', '\r', '\n'] ++ ['(', ')', '[', ']', '\x7b', '\x7d'] := rfl
  rw [isTokenChar_iff, ← Bool.not_eq_true, ← Bool.not_eq_true, isSeparator_iff, isDelimiter_iff,
    hsplit, List.mem_append, not_or]

theorem isToken_iff {t : String} : IsToken t ↔ t ≠ "" ∧ t.toList.all isTokenChar = true := by
  simp only [List.all_eq_true, isTokenChar_iff_notMem]
  exact ⟨fun h => ⟨h.ne_empty, h.notMem_reservedChars⟩, fun h => ⟨h.1, h.2⟩⟩

instance (t : String) : Decidable (IsToken t) := decidable_of_iff' _ isToken_iff

theorem isToken_ofList {cs : List Char} (hne : cs ≠ [])
    (h : ∀ c ∈ cs, isTokenChar c = true) : IsToken (String.ofList cs) where
  ne_empty := by
    intro hempty
    exact hne (by simpa using congrArg String.toList hempty)
  notMem_reservedChars := by
    rw [String.toList_ofList]
    exact fun c hc => isTokenChar_iff_notMem.mp (h c hc)

/-! ## Pieces -/

theorem formsOf_eq_mapM (ps : List Piece) : Piece.formsOf ps = ps.mapM Piece.form := by
  induction ps with
  | nil => rfl
  | cons p ps ih => rw [Piece.formsOf, List.mapM_cons, ih]

theorem form_atom (t : String) (stop : List Char) :
    (Piece.mk .atom (t.toList ++ stop) stop []).form = .ok (.atom t) := by
  rw [Piece.form, charsBetween_append, String.ofList_toList]

theorem form_list {start stop : List Char} {inner : List Piece} {fs : List Form}
    (h : inner.mapM Piece.form = .ok fs) :
    (Piece.mk .list start stop inner).form = .ok (.list fs) := by
  rw [Piece.form, formsOf_eq_mapM, h]
  rfl

/-- The piece stands for the form, which is made of tokens. -/
structure Piece.Builds (p : Piece) (f : Form) : Prop where
  kind_ne : p.kind ≠ .endOfText
  form_eq : p.form = .ok f
  isToken : ∀ t ∈ f.atoms, IsToken t

theorem mapM_form_of_builds {ps : List Piece} {fs : List Form}
    (h : List.Forall₂ Piece.Builds ps fs) : ps.mapM Piece.form = .ok fs :=
  mapM_eq_ok_iff.mpr (h.imp fun _ _ hb => hb.form_eq)

theorem builds_atom {c : Char} (hc : isTokenChar c = true) (cs : List Char) :
    (Piece.mk .atom (c :: cs) (cs.dropWhile isTokenChar) []).Builds
      (.atom (String.ofList (c :: cs.takeWhile isTokenChar))) where
  kind_ne := nofun
  form_eq := by
    have hform := form_atom (String.ofList (c :: cs.takeWhile isTokenChar))
      (cs.dropWhile isTokenChar)
    rwa [String.toList_ofList, List.cons_append, List.takeWhile_append_dropWhile] at hform
  isToken := by
    intro t ht
    rw [Form.atoms_atom, List.mem_singleton] at ht
    rw [ht]
    refine isToken_ofList (List.cons_ne_nil _ _) ?_
    intro d hd
    rcases List.mem_cons.mp hd with rfl | hd
    · exact hc
    · exact List.mem_takeWhile_imp hd

theorem builds_list {start stop : List Char} {inner : List Piece} {fs : List Form}
    (h : List.Forall₂ Piece.Builds inner fs) :
    (Piece.mk .list start stop inner).Builds (.list fs) where
  kind_ne := nofun
  form_eq := form_list (mapM_form_of_builds h)
  isToken := by
    intro t ht
    rw [Form.atoms_list] at ht
    obtain ⟨f, hf, ht⟩ := List.mem_flatMap.mp ht
    obtain ⟨p, _, hp⟩ := exists_of_forall₂_of_mem h hf
    exact hp.isToken t ht

/-- The pieces that the search finds stand for forms made of tokens. -/
theorem builds_form_forms :
    (∀ cs p, form? cs = some p → ∃ f, p.Builds f) ∧
      ∀ cs, ∃ fs, List.Forall₂ Piece.Builds (forms cs).1 fs := by
  refine form?_forms_induction ?nil ?opener ?token ?other ?none ?some
  case nil =>
    intro p hp
    cases hp
  case opener =>
    rintro b cs ⟨fs, hfs⟩ p hp
    obtain ⟨after, _, rfl⟩ := form?_opener_eq_some_iff.mp hp
    exact ⟨.list fs, builds_list hfs⟩
  case token =>
    intro c cs hc p hp
    rw [form?_token hc] at hp
    cases hp
    exact ⟨_, builds_atom hc cs⟩
  case other =>
    intro c cs hopened hc p hp
    rw [form?_eq_none_of_head hopened hc] at hp
    cases hp
  case none =>
    intro cs hform _
    rw [forms_of_none hform]
    exact ⟨[], .nil⟩
  case some =>
    rintro cs p hform hone ⟨fs, hfs⟩
    obtain ⟨f, hf⟩ := hone p hform
    rw [forms_of_some hform]
    exact ⟨f :: fs, .cons hf hfs⟩

theorem exists_builds_forms (cs : List Char) :
    ∃ fs, List.Forall₂ Piece.Builds (forms cs).1 fs :=
  builds_form_forms.2 cs

theorem exists_builds_of_mem_forms {cs : List Char} {p : Piece} (h : p ∈ (forms cs).1) :
    ∃ f, p.Builds f := by
  obtain ⟨fs, hfs⟩ := exists_builds_forms cs
  obtain ⟨f, _, hf⟩ := exists_of_forall₂_of_mem hfs.flip h
  exact ⟨f, hf⟩

/-- Of the pieces of a whole text, only its end is no form. -/
theorem filter_kind_program (cs : List Char) :
    ((forms cs).1 ++ [Piece.mk .endOfText [] [] []]).filter (·.kind != .endOfText) =
      (forms cs).1 := by
  rw [List.filter_append, List.filter_eq_self.mpr]
  · exact List.append_nil _
  · intro p hp
    obtain ⟨f, hf⟩ := exists_builds_of_mem_forms hp
    exact bne_iff_ne.mpr hf.kind_ne

/-! ## Texts -/

theorem isDelimiter_of_isBlank {c : Char} (h : Text.isBlank c = true) : isDelimiter c = false := by
  by_contra hc
  rw [Bool.not_eq_false] at hc
  rcases exists_bracket_of_isDelimiter hc with ⟨b, rfl⟩ | ⟨b, rfl⟩ <;> cases b <;> cases h

theorem balanced_of_isBlankText {cs : List Char} (h : Text.isBlankText cs = true) : Balanced cs :=
  .of_plain fun c hc => isDelimiter_of_isBlank (List.all_eq_true.mp h c hc)

theorem map_mapM_placed (ps : List Piece) :
    (ps.mapM Piece.placed).map (·.map Placed.form) = ps.mapM Piece.form := by
  induction ps with
  | nil => rfl
  | cons p ps ih =>
    rw [List.mapM_cons, List.mapM_cons, ← ih, Piece.placed]
    cases p.form with
    | error e => rfl
    | ok f => cases ps.mapM Piece.placed <;> rfl

theorem read_of_blank {text : String} (h : Text.isBlankText text.toList = true) :
    read text = .ok [] := by
  rw [read, readPlaced, if_pos h]
  rfl

theorem readPlaced_of_balanced {cs : List Char} (hblank : Text.isBlankText cs = false)
    (h : Balanced cs) : readPlaced cs = (forms cs).1.mapM Piece.placed := by
  rw [readPlaced, if_neg (by simp [hblank]), program?_of_leftover (leftover_eq_nil_iff.mpr h)]
  dsimp only
  rw [Piece.inner_mk, filter_kind_program]

theorem read_of_balanced {text : String} (hblank : Text.isBlankText text.toList = false)
    (h : Balanced text.toList) : read text = (forms text.toList).1.mapM Piece.form := by
  rw [read, readPlaced_of_balanced hblank h, map_mapM_placed]

theorem read_of_not_balanced {text : String} (h : ¬ Balanced text.toList) :
    read text = .error (refusal text.toList) := by
  have hblank : ¬ Text.isBlankText text.toList = true := fun hb => h (balanced_of_isBlankText hb)
  have hnone : program? text.toList = none :=
    program?_eq_none_iff.mpr fun hleft => h (leftover_eq_nil_iff.mp hleft)
  rw [read, readPlaced, if_neg hblank, hnone]
  rfl

/-- Reading succeeds on the texts in balance. -/
theorem exists_read_iff {text : String} : (∃ fs, read text = .ok fs) ↔ Balanced text.toList := by
  constructor
  · rintro ⟨fs, hfs⟩
    by_contra h
    rw [read_of_not_balanced h] at hfs
    cases hfs
  · intro h
    cases hblank : Text.isBlankText text.toList with
    | true => exact ⟨[], read_of_blank hblank⟩
    | false =>
      obtain ⟨fs, hfs⟩ := exists_builds_forms text.toList
      exact ⟨fs, (read_of_balanced hblank h).trans (mapM_form_of_builds hfs)⟩

/-- The forms that reading gives are made of tokens. -/
theorem isToken_of_read {text : String} {fs : List Form} (h : read text = .ok fs) :
    ∀ f ∈ fs, ∀ t ∈ f.atoms, IsToken t := by
  intro f hf
  cases hblank : Text.isBlankText text.toList with
  | true =>
    rw [read_of_blank hblank] at h
    cases h
    cases hf
  | false =>
    rw [read_of_balanced hblank (exists_read_iff.mp ⟨fs, h⟩)] at h
    obtain ⟨gs, hgs⟩ := exists_builds_forms text.toList
    rw [mapM_form_of_builds hgs] at h
    cases h
    obtain ⟨p, _, hp⟩ := exists_of_forall₂_of_mem hgs hf
    exact hp.isToken

/-- Every error of a read is the fault that the scanner finds. -/
theorem exists_fault_of_read {text : String} {e : ReadError} (h : read text = .error e) :
    ∃ fault, findFault text.toList = some fault ∧ e = .unbalanced fault := by
  have hbalanced : ¬ Balanced text.toList := by
    intro hb
    obtain ⟨fs, hfs⟩ := exists_read_iff.mpr hb
    rw [hfs] at h
    cases h
  rw [read_of_not_balanced hbalanced, refusal] at h
  cases hfault : findFault text.toList with
  | none => exact absurd (findFault_eq_none_iff.mp hfault) hbalanced
  | some fault =>
    rw [hfault] at h
    cases h
    exact ⟨fault, rfl, rfl⟩

theorem onlyForm_eq_ok_iff {cs : List Char} {placed : List Placed} {f : Form} :
    onlyForm cs placed = .ok f ↔ placed.map Placed.form = [f] := by
  match placed with
  | [] => simp [onlyForm]
  | [one] => simp [onlyForm]
  | one :: second :: rest => simp [onlyForm]

/-- One form is read where the forms of the text are that one. -/
theorem readOne_eq_ok_iff {text : String} {f : Form} :
    readOne text = .ok f ↔ read text = .ok [f] := by
  rw [readOne, read, map_eq_ok_iff]
  cases readPlaced text.toList with
  | error e => simp [Except.bind]
  | ok placed => simpa [Except.bind] using onlyForm_eq_ok_iff

/-- **Reading, scanning and the grammar agree.** Reading a text succeeds exactly when the scanner
finds no fault, which is when the delimiters nest in pairs of one kind, and exactly when the grammar
accepts the text. Every error is the fault that the scanner finds, and every piece that the grammar
makes of the text, its end apart, stands for a form. -/
theorem read_agrees (text : String) :
    ((∃ fs, read text = .ok fs) ↔ findFault text.toList = none) ∧
      (findFault text.toList = none ↔ Balanced text.toList) ∧
      ((∃ made, Derives text.toList false (.ref .program) text.toList (some made)) ↔
        findFault text.toList = none) ∧
      (∀ r, Derives text.toList false (.ref .program) text.toList r ↔
        r = Piece.outcome (program? text.toList)) ∧
      (∀ e, read text = .error e →
        ∃ fault, findFault text.toList = some fault ∧ e = .unbalanced fault) ∧
      ∀ program, program? text.toList = some program →
        ∀ p ∈ program.inner, p.kind = .endOfText ∨ ∃ f, p.form = .ok f := by
  refine ⟨exists_read_iff.trans findFault_eq_none_iff.symm, findFault_eq_none_iff, ?grammar,
    fun _ => derives_program_iff, fun _ => exists_fault_of_read, ?pieces⟩
  case grammar =>
    rw [findFault_eq_none_iff, ← isSome_program?_iff]
    constructor
    · rintro ⟨made, hmade⟩
      have houtcome := derives_program_iff.mp hmade
      cases hprogram : program? text.toList with
      | none =>
        rw [hprogram] at houtcome
        cases houtcome
      | some program => rfl
    · intro h
      obtain ⟨program, hprogram⟩ := Option.isSome_iff_exists.mp h
      refine ⟨([program], program.stop), derives_program_iff.mpr ?_⟩
      rw [hprogram]
      rfl
  case pieces =>
    intro program hprogram p hp
    have hleft : leftover text.toList = [] := by
      by_contra hleft
      rw [program?_eq_none_iff.mpr hleft] at hprogram
      cases hprogram
    rw [program?_of_leftover hleft] at hprogram
    cases hprogram
    rcases List.mem_append.mp hp with hp | hp
    · obtain ⟨f, hf⟩ := exists_builds_of_mem_forms hp
      exact .inr ⟨f, hf.form_eq⟩
    · rw [List.mem_singleton.mp hp]
      exact .inl rfl

end MacroByExample.Reader
