import MacroByExample.Proofs.Rules.Extension

/-!
# Conservation of tokens

Under the strict policy a match loses nothing and duplicates nothing, whatever the pattern: every
token of the form is either matched by a literal of the pattern or stands in exactly one captured
form. This holds also of patterns in which a variable occurs more than once, in which repetitions
are nested, or in which several items of one list are repeated.

* `Bindings.forms`, `Bindings.tokens`: all captured forms, and their tokens.
* `Bindings.forms_append`: the captured forms of bindings put one after the other.
* `Bindings.Conserves`: tokens that are captured once each, literals apart.
* `conserves_of_matchWhole`: a strict match conserves the tokens of the form.
* `count_atoms_of_matchWhole`: the same, counted token by token.
-/

namespace MacroByExample

/-! ## Captured forms -/

namespace Bindings

/-- The forms that the variables captured, variable by variable. -/
def forms (b : Bindings) : List Form :=
  b.domain.flatMap b.captured

/-- The captured forms, as a sum over any set that contains the bound variables. -/
theorem coe_forms (b : Bindings) (vars : Finset String)
    (h : ∀ var, b.contains var = true → var ∈ vars) :
    (b.forms : Multiset Form) = ∑ var ∈ vars, (b.captured var : Multiset Form) := by
  have hdomain : b.domain.toFinset ⊆ vars := by
    intro var hvar
    exact h var (mem_domain_iff.mp (List.mem_toFinset.mp hvar))
  have hrest : ∀ var ∈ vars, var ∉ b.domain.toFinset → (b.captured var : Multiset Form) = 0 := by
    intro var _ hvar
    rw [List.mem_toFinset, mem_domain_iff, Bool.not_eq_true] at hvar
    rw [captured_of_contains_eq_false hvar, Multiset.coe_nil]
  have hnodup : b.domain.Nodup := TokenMap.nodup_keys b.captures
  rw [← Finset.sum_subset hdomain hrest, List.sum_toFinset _ hnodup, forms]
  induction b.domain with
  | nil => rfl
  | cons var vars ih => rw [List.flatMap_cons, ← Multiset.coe_add, ih, List.map_cons, List.sum_cons]

/-- Bindings put one after the other hold the captured forms of both. -/
theorem forms_append (b c : Bindings) :
    ((b ++ c).forms : Multiset Form) = (b.forms : Multiset Form) + (c.forms : Multiset Form) := by
  let vars : Finset String := b.domain.toFinset ∪ c.domain.toFinset
  have hb : ∀ var, b.contains var = true → var ∈ vars := fun var hvar =>
    Finset.mem_union_left _ (List.mem_toFinset.mpr (mem_domain_iff.mpr hvar))
  have hc : ∀ var, c.contains var = true → var ∈ vars := fun var hvar =>
    Finset.mem_union_right _ (List.mem_toFinset.mpr (mem_domain_iff.mpr hvar))
  have hboth : ∀ var, (b ++ c).contains var = true → var ∈ vars := by
    intro var hvar
    rw [contains_append, Bool.or_eq_true] at hvar
    exact hvar.elim (hb var) (hc var)
  rw [coe_forms b vars hb, coe_forms c vars hc, coe_forms (b ++ c) vars hboth,
    ← Finset.sum_add_distrib]
  refine Finset.sum_congr rfl fun var _ => ?_
  rw [captured_append, Multiset.coe_add]

theorem forms_capture (var : String) (form : Form) : (empty.capture var form).forms = [form] := by
  have hdomain : (empty.capture var form).domain = [var] := rfl
  rw [forms, hdomain, List.flatMap_singleton, captured_capture, captured_empty, if_pos rfl,
    List.nil_append]

theorem forms_declareVariables (literals : TokenSet) (s : MatchSettings) (pattern : Form) :
    (declareVariables literals s pattern empty).forms = [] :=
  List.flatMap_eq_nil_iff.mpr fun var _ => captured_declareVariables var

/-- The tokens of the captured forms, with repetitions. -/
def tokens (b : Bindings) : List String :=
  b.forms.flatMap Form.atoms

theorem tokens_append (b c : Bindings) :
    ((b ++ c).tokens : Multiset String) =
      (b.tokens : Multiset String) + (c.tokens : Multiset String) := by
  simp only [tokens, ← Multiset.coe_bind]
  rw [forms_append, Multiset.add_bind]

/-! ## Conservation -/

/-- The tokens, up to their order, are those of the captured forms and some literals. -/
def Conserves (literals : TokenSet) (tokens : List String) (b : Bindings) : Prop :=
  ∃ dropped : Multiset String, (∀ t ∈ dropped, literals.contains t = true) ∧
    (tokens : Multiset String) = (b.tokens : Multiset String) + dropped

namespace Conserves

variable {literals : TokenSet} {tokens tokens' : List String} {b c : Bindings}

/-- Literals may be left out of what is captured. -/
theorem of_forms_eq_nil (h : b.forms = []) (htokens : ∀ t ∈ tokens, literals.contains t = true) :
    b.Conserves literals tokens := by
  refine ⟨tokens, htokens, ?_⟩
  rw [Bindings.tokens, h, List.flatMap_nil, Multiset.coe_nil, zero_add]

theorem capture (var : String) (form : Form) :
    (empty.capture var form).Conserves literals form.atoms := by
  refine ⟨0, by simp, ?_⟩
  rw [Bindings.tokens, forms_capture, List.flatMap_singleton, add_zero]

theorem append (hb : b.Conserves literals tokens) (hc : c.Conserves literals tokens') :
    (b ++ c).Conserves literals (tokens ++ tokens') := by
  obtain ⟨dropped, hdropped, htokens⟩ := hb
  obtain ⟨dropped', hdropped', htokens'⟩ := hc
  refine ⟨dropped + dropped', fun t ht => ?_, ?_⟩
  · exact (Multiset.mem_add.mp ht).elim (hdropped t) (hdropped' t)
  · rw [tokens_append, ← Multiset.coe_add, htokens, htokens', add_add_add_comm]

/-- The rounds of a repetition conserve the tokens of all the forms they match. -/
theorem concat {items : List Form} {rounds : List Bindings}
    (h : List.Forall₂ (fun form round => round.Conserves literals form.atoms) items rounds) :
    (Bindings.concat rounds).Conserves literals (items.flatMap Form.atoms) := by
  induction h with
  | nil => exact .of_forms_eq_nil rfl (by simp)
  | cons hround _ ih =>
    rw [List.flatMap_cons, concat_cons]
    exact hround.append ih

end Conserves

end Bindings

/-! ## Strict matches -/

section Strict

variable {literals : TokenSet} {s : MatchSettings} {pattern form : Form} {b : Bindings}

theorem conserves_of_matchToken {token : String}
    (h : matchToken literals token form .empty = .ok b) : b.Conserves literals form.atoms := by
  unfold matchToken at h
  split at h
  · next hliteral =>
    split at h
    · next hform =>
      cases h
      subst hform
      exact .of_forms_eq_nil rfl (by simpa using hliteral)
    · cases h
  · cases h
    exact .capture token form

/-- A strict match conserves the tokens of the form, whatever the pattern. -/
theorem conserves_of_matchWhole (hstrict : s.trailing = .strict)
    (h : matchWhole literals s pattern form = .ok b) : b.Conserves literals form.atoms := by
  induction pattern using Form.markerInduction s.ellipsis generalizing form b with
  | atom t => exact conserves_of_matchToken h
  | nil =>
    obtain ⟨hform, rfl⟩ := matchWhole_nil_iff.mp h
    -- only the lenient policy lets an empty list pattern take anything but the empty list
    rw [hstrict, or_iff_left nofun] at hform
    rw [hform]
    exact .of_forms_eq_nil rfl (by simp)
  | repeated item rest ih ihRest =>
    obtain ⟨forms, rounds, d, rfl, hrounds, hd, rfl⟩ := matchWhole_repeated_iff.mp h
    have hitems : List.Forall₂ (fun form round => round.Conserves literals form.atoms)
        forms rounds := hrounds.imp fun form round hround => ih hround
    have hdeclared : (declareVariables literals s item .empty).Conserves literals [] :=
      .of_forms_eq_nil (Bindings.forms_declareVariables literals s item) (by simp)
    have hall := (hdeclared.append (.concat hitems)).append (ihRest hd)
    simpa using hall
  | single item rest hmarker ih ihRest =>
    obtain ⟨first, others, c, d, rfl, hc, hd, rfl⟩ := (matchWhole_single_iff hmarker).mp h
    have hall := (ih hc).append (ihRest hd)
    simpa using hall

/-- **Conservation of tokens.** Whatever the pattern, a strict match captures every token of the
form that is no literal exactly as often as it occurs in the form, counting all captured forms of
all variables, and it captures no literal more often than that. -/
theorem count_atoms_of_matchWhole (strict : s.trailing = .strict)
    (matched : matchWhole literals s pattern form = .ok b) :
    (∀ t, literals.contains t = false → form.atoms.count t = b.tokens.count t) ∧
      ∀ t, literals.contains t = true → b.tokens.count t ≤ form.atoms.count t := by
  obtain ⟨dropped, hdropped, htokens⟩ := conserves_of_matchWhole strict matched
  have hcount : ∀ t, form.atoms.count t = b.tokens.count t + dropped.count t := by
    intro t
    rw [← Multiset.coe_count, htokens, Multiset.count_add, Multiset.coe_count]
  constructor
  · intro t ht
    have hnone : t ∉ dropped := fun hmem => by simp [hdropped t hmem] at ht
    rw [hcount, Multiset.count_eq_zero.mpr hnone, Nat.add_zero]
  · intro t _
    rw [hcount]
    exact Nat.le_add_right _ _

end Strict

/-- The pattern `(x => ((k v ...) ...) x rest ... more ...)`, with a variable that occurs twice, a
repetition inside a repetition and two repeated items in one list, against a form in which the
literal is also captured. -/
theorem count_atoms_of_matchWhole_arrow :
    let literals : TokenSet := .ofList ["=>"]
    let s : MatchSettings := {}
    let pattern : Form := .list [.atom "x", .atom "=>",
      .list [.list [.atom "k", .atom "v", .atom "..."], .atom "..."], .atom "x",
      .atom "rest", .atom "...", .atom "more", .atom "..."]
    let form : Form := .list [.atom "a", .atom "=>",
      .list [.list [.atom "p", .atom "1", .atom "a"], .list [.atom "q"]],
      .list [.atom "=>", .atom "a"], .atom "1", .list []]
    s.trailing = .strict ∧ ∃ b, matchWhole literals s pattern form = .ok b ∧
      (∀ t, literals.contains t = false → form.atoms.count t = b.tokens.count t) ∧
      ∀ t, literals.contains t = true → b.tokens.count t ≤ form.atoms.count t := by
  intro literals s pattern form
  have strict : s.trailing = .strict := rfl
  obtain ⟨b, matched⟩ : ∃ b, matchWhole literals s pattern form = .ok b := ⟨_, rfl⟩
  exact ⟨strict, b, matched, count_atoms_of_matchWhole strict matched⟩

end MacroByExample
