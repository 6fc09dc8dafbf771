import MacroByExample.Configuration
import MacroByExample.Proofs.Reader.BlankText
import MacroByExample.Proofs.Reader.Writing

/-!
# Valid markers and tokens

The marker of a valid configuration is a token without blank characters. The reader separates tokens
by four of the blank characters only and takes every other for part of a token. So each valid marker
is read as one token, and the tokens that are read but refused as markers are those with a blank
character in them that are not blank as a whole.

* `Reader.readOne_eq_atom_iff`: the texts that are read as one token.
* `Configuration.isMarker_iff`, `Configuration.validate_cases`: what is valid, and what is not.
* `Configuration.validate_eq_ok_iff_readOne`: valid markers and what is read as a token.
* `Configuration.validate_noBreakSpace`: a token that is refused.
-/

namespace MacroByExample

namespace Reader

theorem readable_atom_iff {t : String} :
    Readable (.atom t) ↔ IsToken t ∧ Text.isBlankText t.toList = false := by
  constructor
  · intro h
    exact ⟨h.isToken t (List.mem_singleton_self t), h.not_blank t rfl⟩
  · rintro ⟨htoken, hblank⟩
    refine ⟨fun u hu => ?_, fun u hu => ?_⟩
    · rwa [List.mem_singleton.mp hu]
    · rwa [← Form.atom.inj hu]

/-- A text is read as one token exactly when it is a token and not blank. -/
theorem readOne_eq_atom_iff {t : String} :
    readOne t = .ok (.atom t) ↔ IsToken t ∧ Text.isBlankText t.toList = false := by
  rw [← readable_atom_iff]
  refine readOne_iff_readable (f := .atom t) (fun u hu => ?_) nofun fun h => ?_
  · rw [Form.atom.inj hu]
  · exact readsAs_atom (h t (List.mem_singleton_self t))

end Reader

namespace Configuration

open Reader (IsToken readOne)

/-- What can be a marker is a token without blank characters. -/
theorem isMarker_iff {t : String} :
    isMarker t = true ↔ IsToken t ∧ ∀ c ∈ t.toList, Text.isBlank c = false := by
  have hchar : ∀ c, (!Text.isBlank c && !Reader.isDelimiter c) = true ↔
      Reader.isTokenChar c = true ∧ Text.isBlank c = false := by
    intro c
    rw [Bool.and_eq_true, Bool.not_eq_true', Bool.not_eq_true', Reader.isTokenChar_iff]
    constructor
    · rintro ⟨hblank, hdelimiter⟩
      refine ⟨⟨?_, hdelimiter⟩, hblank⟩
      rw [Bool.eq_false_iff] at hblank ⊢
      exact mt Reader.isBlank_of_isSeparator hblank
    · rintro ⟨⟨-, hdelimiter⟩, hblank⟩
      exact ⟨hblank, hdelimiter⟩
  simp only [isMarker, Reader.isToken_iff, Bool.and_eq_true, List.all_eq_true, hchar,
    Bool.not_eq_true', Bool.eq_false_iff, Ne, String.isEmpty_iff]
  constructor
  · rintro ⟨hne, hall⟩
    exact ⟨⟨hne, fun c hc => (hall c hc).1⟩, fun c hc => (hall c hc).2⟩
  · rintro ⟨⟨hne, htoken⟩, hblank⟩
    exact ⟨hne, fun c hc => ⟨htoken c hc, hblank c hc⟩⟩

/-- A configuration is checked for its marker first, then for its width. -/
theorem validate_cases (c : Configuration) :
    (isMarker c.ellipsis = false ∧ c.validate = .error (.ellipsisNotAtom c.ellipsis)) ∨
      (isMarker c.ellipsis = true ∧ c.width = 0 ∧ c.validate = .error .noWidth) ∨
      (isMarker c.ellipsis = true ∧ 1 ≤ c.width ∧ c.validate = .ok ()) := by
  rw [validate]
  cases isMarker c.ellipsis with
  | false => simp
  | true =>
    rw [Bool.not_true, if_neg Bool.false_ne_true, Nat.one_le_iff_ne_zero]
    by_cases hwidth : c.width = 0 <;> simp [hwidth]

theorem validate_eq_ok_iff {c : Configuration} :
    c.validate = .ok () ↔ isMarker c.ellipsis = true ∧ 1 ≤ c.width := by
  obtain ⟨hmarker, h⟩ | ⟨hmarker, hwidth, h⟩ | ⟨hmarker, hwidth, h⟩ := c.validate_cases
  · simp [hmarker, h]
  · simp [hwidth, h]
  · simp [hmarker, hwidth, h]

theorem validate_eq_ellipsisNotAtom_iff {c : Configuration} :
    c.validate = .error (.ellipsisNotAtom c.ellipsis) ↔ isMarker c.ellipsis = false := by
  obtain ⟨hmarker, h⟩ | ⟨hmarker, -, h⟩ | ⟨hmarker, -, h⟩ := c.validate_cases <;>
    simp [hmarker, h]

theorem validate_eq_noWidth_iff {c : Configuration} :
    c.validate = .error .noWidth ↔ isMarker c.ellipsis = true ∧ c.width = 0 := by
  obtain ⟨hmarker, h⟩ | ⟨hmarker, hwidth, h⟩ | ⟨hmarker, hwidth, h⟩ := c.validate_cases
  · simp [hmarker, h]
  · simp [hmarker, hwidth, h]
  · simp [Nat.one_le_iff_ne_zero.mp hwidth, h]

/-- **Valid markers and tokens.** A configuration is valid exactly when it leaves a column, its
    marker is read as the token that it is, and no character of the marker is blank. So every valid
    marker can be written as a token. The markers that can be written and are nevertheless refused
    as no tokens are the tokens in which some characters are blank and some are not. -/
theorem validate_eq_ok_iff_readOne (c : Configuration) :
    (c.validate = .ok () ↔ 1 ≤ c.width ∧ readOne c.ellipsis = .ok (.atom c.ellipsis) ∧
      ∀ ch ∈ c.ellipsis.toList, Text.isBlank ch = false) ∧
    (readOne c.ellipsis = .ok (.atom c.ellipsis) ∧
        c.validate = .error (.ellipsisNotAtom c.ellipsis) ↔
      IsToken c.ellipsis ∧ (∃ ch ∈ c.ellipsis.toList, Text.isBlank ch = true) ∧
        ∃ ch ∈ c.ellipsis.toList, Text.isBlank ch = false) := by
  have hsome : Text.isBlankText c.ellipsis.toList = false ↔
      ∃ ch ∈ c.ellipsis.toList, Text.isBlank ch = false := by
    rw [Text.isBlankText, List.all_eq_false]
    simp only [Bool.not_eq_true]
  rw [validate_eq_ok_iff, validate_eq_ellipsisNotAtom_iff, Reader.readOne_eq_atom_iff, hsome,
    ← Bool.not_eq_true, isMarker_iff]
  constructor
  · constructor
    · rintro ⟨⟨htoken, hnone⟩, hwidth⟩
      obtain ⟨ch, rest, hchars⟩ := List.exists_cons_of_ne_nil
        (mt String.toList_eq_nil_iff.mp htoken.ne_empty)
      have hmem : ch ∈ c.ellipsis.toList := hchars ▸ List.mem_cons_self
      exact ⟨hwidth, ⟨htoken, ch, hmem, hnone ch hmem⟩, hnone⟩
    · rintro ⟨hwidth, ⟨htoken, -⟩, hnone⟩
      exact ⟨⟨htoken, hnone⟩, hwidth⟩
  · constructor
    · rintro ⟨⟨htoken, hsome⟩, hnot⟩
      refine ⟨htoken, ?_, hsome⟩
      by_contra hnone
      exact hnot ⟨htoken, fun ch hch => Bool.eq_false_iff.mpr fun hblank =>
        hnone ⟨ch, hch, hblank⟩⟩
    · rintro ⟨htoken, ⟨ch, hch, hblank⟩, hsome⟩
      refine ⟨⟨htoken, hsome⟩, fun hmarker => ?_⟩
      rw [hmarker.2 ch hch] at hblank
      cases hblank

/-- A no-break space between letters makes one token, which is refused as a marker. -/
theorem validate_noBreakSpace :
    readOne "a\u00A0b" = .ok (.atom "a\u00A0b") ∧
      validate { ellipsis := "a\u00A0b" } = .error (.ellipsisNotAtom "a\u00A0b") := by
  have hmarker : isMarker "a\u00A0b" = false := by decide +kernel
  exact ⟨by decide +kernel, validate_eq_ellipsisNotAtom_iff.mpr hmarker⟩

end Configuration

end MacroByExample
