import MacroByExample.Json.Token
import MacroByExample.Json.Value
import Mathlib

/-!
# Strings and numbers are read back

Every string is read back from its text in quotes, whatever its characters are, and every natural
number of 64 bits from its digits. A string ends at its quote; a number ends where a character
stands that cannot go on with it.

* `stringTail_escapeChar`, `stringTail_flatMap_escapeChar`: one character of a string, and all.
* `Ends`: what may follow a value.
* `accumulate_digits`: no digit is dropped of a number that 64 bits hold.
* `number_naturalChars`: natural numbers.
-/

namespace MacroByExample.Json

/-! ## Strings -/

theorem hexDigit?_hexDigitChar : ∀ n < 16, hexDigit? (hexDigitChar n) = some n := by
  decide

/-- Control characters are written with two zeros and the two digits of their code points. -/
theorem hexValue?_control {n : Nat} (h : n < 0x20) :
    hexValue? '0' '0' (hexDigitChar (n / 16)) (hexDigitChar (n % 16)) = some n := by
  have hzero : hexDigit? '0' = some 0 := hexDigit?_hexDigitChar 0 (by decide)
  have hhigh := hexDigit?_hexDigitChar (n / 16) (by omega)
  have hlow := hexDigit?_hexDigitChar (n % 16) (Nat.mod_lt _ (by decide))
  simp only [hexValue?, hzero, hhigh, hlow, Option.bind_eq_bind, Option.bind_some, pure]
  congr 1
  omega

/-- A written character is read as the first of the string. -/
theorem stringTail_escapeChar (c : Char) (cs : List Char) :
    stringTail (escapeChar c ++ cs) = push c (stringTail cs) := by
  unfold escapeChar
  -- the seven characters that are escaped by a letter or by themselves
  iterate 7
    split
    · subst_vars
      simp [stringTail, escaped?]
  split
  · next hcontrol =>
    have hlow : isLowSurrogate c.toNat = false := by
      rw [isLowSurrogate, Bool.and_eq_false_iff, decide_eq_false_iff_not]
      exact .inl (by omega)
    have hhigh : isHighSurrogate c.toNat = false := by
      rw [isHighSurrogate, Bool.and_eq_false_iff, decide_eq_false_iff_not]
      exact .inl (by omega)
    simp only [List.cons_append, List.nil_append]
    rw [stringTail]
    simp [hexValue?_control hcontrol, hlow, hhigh]
  -- any other character stands for itself, and neither ends the string nor opens an escape
  · rw [List.singleton_append, stringTail.eq_def]
    split <;> simp_all

theorem stringTail_flatMap_escapeChar (cs tail : List Char) :
    stringTail (cs.flatMap escapeChar ++ '"' :: tail) = .ok (cs, tail) := by
  induction cs with
  | nil => simp [stringTail]
  | cons c cs ih =>
    rw [List.flatMap_cons, List.append_assoc, stringTail_escapeChar, ih]
    rfl

/-! ## Numbers -/

/-- What may follow a value: nothing, white space, or what separates and closes values. -/
def Ends (tail : List Char) : Prop :=
  ∀ c ∈ tail.head?, isBlank c = true ∨ c = ',' ∨ c = ']' ∨ c = '\x7d'

theorem Ends.head_ne {tail : List Char} (h : Ends tail) {d : Char}
    (hd : ¬ (isBlank d = true ∨ d = ',' ∨ d = ']' ∨ d = '\x7d')) : tail.head? ≠ some d :=
  fun heq => hd (h d heq)

theorem isDigit_of_isBlank {c : Char} (h : isBlank c = true) : c.isDigit = false := by
  simp only [isBlank, Bool.or_eq_true, beq_iff_eq] at h
  rcases h with ((rfl | rfl) | rfl) | rfl <;> rfl

theorem Ends.isDigit_eq_false {tail : List Char} (h : Ends tail) :
    ∀ c ∈ tail.head?, c.isDigit = false := by
  intro c hc
  rcases h c hc with hblank | rfl | rfl | rfl
  · exact isDigit_of_isBlank hblank
  all_goals rfl

/-- The value of a digit. -/
def digitValue (c : Char) : Nat :=
  c.toNat - '0'.toNat

theorem digits_append {cs tail : List Char} (hcs : ∀ c ∈ cs, c.isDigit = true)
    (htail : ∀ c ∈ tail.head?, c.isDigit = false) :
    digits (cs ++ tail) = (cs.map digitValue, tail) := by
  have hstop : tail.takeWhile Char.isDigit = [] ∧ tail.dropWhile Char.isDigit = tail := by
    cases tail with
    | nil => exact ⟨rfl, rfl⟩
    | cons c tail => simp [htail c rfl]
  rw [digits, List.takeWhile_append_of_pos hcs, List.dropWhile_append_of_pos hcs, hstop.1,
    hstop.2, List.append_nil]
  rfl

theorem le_ofDigitChars (cs : List Char) (n : Nat) : n ≤ Nat.ofDigitChars 10 cs n := by
  induction cs generalizing n with
  | nil => exact Nat.le_refl n
  | cons c cs ih =>
    rw [Nat.ofDigitChars_cons]
    exact Nat.le_trans (by omega) (ih _)

/-- The digits of a number that 64 bits hold are all kept. -/
theorem accumulate_digits (cs : List Char) (n : Nat)
    (h : Nat.ofDigitChars 10 cs n < 2 ^ 64) :
    accumulate n (cs.map digitValue) = (Nat.ofDigitChars 10 cs n, 0) := by
  induction cs generalizing n with
  | nil => rfl
  | cons c cs ih =>
    rw [Nat.ofDigitChars_cons, Nat.mul_comm] at h ⊢
    have hfits : n * 10 + digitValue c < Nat.pow 2 64 :=
      Nat.lt_of_le_of_lt (le_ofDigitChars cs _) h
    rw [List.map_cons, accumulate, if_pos hfits]
    exact ih _ h

/-- A number above zero does not begin with a zero. -/
theorem digitValue_head_toDigits_ne {n : Nat} (h : 0 < n) :
    ∀ c ∈ (Nat.toDigits 10 n).head?, digitValue c ≠ 0 := by
  induction n using Nat.strongRecOn with
  | ind n ih =>
    rcases Nat.lt_or_ge n 10 with hlt | hge
    · rw [Nat.toDigits_of_lt_base hlt]
      intro c hc
      obtain rfl : n.digitChar = c := Option.some.inj hc
      interval_cases n <;> decide
    · have hsplit : Nat.toDigits 10 (n / 10) ++ Nat.toDigits 10 (n % 10) = Nat.toDigits 10 n := by
        rw [Nat.toDigits_append_toDigits (by decide) (by omega) (Nat.mod_lt _ (by decide)),
          Nat.div_add_mod]
      rw [← hsplit, List.head?_append_of_ne_nil _ Nat.toDigits_ne_nil]
      exact ih (n / 10) (by omega) (by omega)

theorem map_digitValue_naturalChars_ne (n d : Nat) (ds : List Nat) :
    (naturalChars n).map digitValue ≠ 0 :: d :: ds := by
  rw [naturalChars, Nat.toList_repr]
  intro heq
  rcases Nat.eq_zero_or_pos n with rfl | hpos
  · cases heq
  · obtain ⟨c, cs, hcs, hc, -⟩ := List.map_eq_cons_iff.mp heq
    exact digitValue_head_toDigits_ne hpos c (by rw [hcs]; rfl) hc

theorem isDigit_of_mem_naturalChars {n : Nat} {c : Char} (h : c ∈ naturalChars n) :
    c.isDigit = true := by
  rw [naturalChars, Nat.toList_repr] at h
  exact Nat.isDigit_of_mem_toDigits (by decide) (by decide) h

theorem naturalChars_eq_cons (n : Nat) :
    ∃ c cs, naturalChars n = c :: cs ∧ c.isDigit = true := by
  have hne : naturalChars n ≠ [] := by
    rw [naturalChars, Nat.toList_repr]
    exact Nat.toDigits_ne_nil
  obtain ⟨c, cs, hcs⟩ := List.exists_cons_of_ne_nil hne
  exact ⟨c, cs, hcs, isDigit_of_mem_naturalChars (hcs ▸ List.mem_cons_self)⟩

/-- A natural number of 64 bits is read from its digits, with nothing after them. -/
theorem unsignedNumber_naturalChars {n : Nat} (h : n < 2 ^ 64) {tail : List Char}
    (htail : Ends tail) :
    unsignedNumber true (naturalChars n ++ tail) = .ok (.natural n, tail) := by
  have hvalue : Nat.ofDigitChars 10 (naturalChars n) 0 = n := by
    rw [naturalChars, Nat.toList_repr]
    exact Nat.ofDigitChars_toDigits (by decide) (by decide)
  have hsome : someDigits (naturalChars n ++ tail) =
      .ok ((naturalChars n).map digitValue, tail) := by
    rw [someDigits, digits_append (fun c => isDigit_of_mem_naturalChars) htail.isDigit_eq_false]
    obtain ⟨c, cs, hcs, -⟩ := naturalChars_eq_cons n
    rw [hcs]
    rfl
  have hall : accumulate 0 ((naturalChars n).map digitValue) = (n, 0) := by
    rw [accumulate_digits _ _ (by rwa [hvalue]), hvalue]
  have hafter : numberAfter true n 0 tail = .ok (.natural n, tail) := by
    rw [numberAfter.eq_def]
    split
    · exact absurd rfl (htail.head_ne (d := '.') (by decide))
    · rw [if_pos ⟨rfl, htail.head_ne (by decide), htail.head_ne (by decide)⟩, if_pos rfl]
  rw [unsignedNumber, hsome]
  dsimp only [bind, Except.bind]
  split
  · next heq => exact absurd heq (map_digitValue_naturalChars_ne n _ _)
  · rw [hall]
    exact hafter

theorem number_naturalChars {n : Nat} (h : n < 2 ^ 64) {tail : List Char} (htail : Ends tail) :
    number (naturalChars n ++ tail) = .ok (.natural n, tail) := by
  obtain ⟨c, cs, hcs, hdigit⟩ := naturalChars_eq_cons n
  have hsign : c ≠ '-' := by
    rintro rfl
    cases hdigit
  rw [number.eq_def]
  split
  · next heq =>
    rw [hcs] at heq
    exact absurd (List.cons.inj heq).1 hsign
  · exact unsignedNumber_naturalChars h htail

end MacroByExample.Json
