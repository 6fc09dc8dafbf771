import MacroByExample.Proofs.Rules.Extension

/-!
# Mismatches

A match that fails reports either a literal and what stands in its place, or two parts of different
shapes. These parts may be what is left of a list after items have been matched and after a repeated
item has taken all of a list. What the error says holds of them: they are found in the pattern and
in the form, and they fail to match each other on their own, for the same reason. The bindings that
were made on the way to them play no part.

* `Form.PartOf`, `Form.TailOf`: the parts of a form, and the ends of its lists.
* `MatchError.Arises`: the ways in which a match fails; `arises_of_matchWhole`: there are no others.
* `MatchError.TrueOf`: what an error says of a pattern and a form.
* `trueOf_of_matchWhole`: what the error of a match says is true.
-/

namespace MacroByExample

/-! ## Parts -/

/-- The form stands somewhere in the other. -/
inductive Form.PartOf : Form → Form → Prop where
  | refl (f : Form) : PartOf f f
  | item {f g : Form} {items : List Form} (hmem : g ∈ items) (h : PartOf f g) :
    PartOf f (.list items)

/-- The form stands somewhere in the other, or is the list of the last items of a list that does. -/
def Form.TailOf (f g : Form) : Prop :=
  f.PartOf g ∨ ∃ items last, (Form.list items).PartOf g ∧ last <:+ items ∧ f = .list last

namespace Form.TailOf

variable {f g : Form} {items rest : List Form}

theorem refl (f : Form) : f.TailOf f :=
  .inl (.refl f)

theorem of_item (hmem : g ∈ items) (h : f.TailOf g) : f.TailOf (.list items) := by
  obtain hpart | ⟨all, last, hpart, hlast, rfl⟩ := h
  · exact .inl (.item hmem hpart)
  · exact .inr ⟨all, last, .item hmem hpart, hlast, rfl⟩

/-- The tails of the end of a list are tails of the list. -/
theorem of_suffix (hrest : rest <:+ items) (h : f.TailOf (.list rest)) :
    f.TailOf (.list items) := by
  obtain hpart | ⟨all, last, hpart, hlast, rfl⟩ := h
  · cases hpart with
    | refl => exact .inr ⟨items, rest, .refl _, hrest, rfl⟩
    | item hmem hpart => exact .inl (.item (hrest.subset hmem) hpart)
  · cases hpart with
    | refl => exact .inr ⟨items, last, .refl _, hlast.trans hrest, rfl⟩
    | item hmem hpart => exact .inr ⟨all, last, .item (hrest.subset hmem) hpart, hlast, rfl⟩

end Form.TailOf

/-! ## How a match fails -/

/-- The ways in which a match of a pattern with a form fails with an error. -/
inductive MatchError.Arises (literals : TokenSet) (s : MatchSettings) (e : MatchError) :
    Form → Form → Prop where
  /-- The pattern is a literal, and the form is not its atom. -/
  | literal {token : String} {form : Form} (hliteral : literals.contains token = true)
    (hne : form ≠ .atom token) (he : e = .literal token form) : Arises literals s e (.atom token) form
  /-- The shapes of the two differ. -/
  | shape {mismatch : ShapeMismatch} {pattern form : Form} (he : e = .shape mismatch pattern form)
    (h : matchWhole literals s pattern form = .error e) : Arises literals s e pattern form
  /-- An item of the one does not match an item of the other. -/
  | item {patterns forms : List Form} {pattern form : Form} (hpattern : pattern ∈ patterns)
    (hform : form ∈ forms) (h : Arises literals s e pattern form) :
    Arises literals s e (.list patterns) (.list forms)
  /-- The last items of the one do not match the last items of the other. -/
  | tail {patterns rest forms last : List Form} (hrest : rest <:+ patterns) (hlast : last <:+ forms)
    (h : Arises literals s e (.list rest) (.list last)) :
    Arises literals s e (.list patterns) (.list forms)

section Arises

variable {literals : TokenSet} {s : MatchSettings} {pattern form item : Form} {rest : List Form}
  {e : MatchError}

theorem matchWhole_atom_eq_error_iff {token : String} :
    matchWhole literals s (.atom token) form = .error e ↔
      literals.contains token = true ∧ form ≠ .atom token ∧ e = .literal token form := by
  rw [matchWhole, matchForm, matchToken]
  by_cases hliteral : literals.contains token = true
  · by_cases heq : form = .atom token
    · simp [hliteral, heq]
    · simp [hliteral, heq, eq_comm]
  · simp [hliteral]

theorem exists_shape_of_matchWhole_nil (h : matchWhole literals s (.list []) form = .error e) :
    ∃ mismatch, e = .shape mismatch (.list []) form := by
  cases form with
  | atom t =>
    simp only [matchWhole, matchForm] at h
    split at h
    · cases h
    · exact ⟨_, (Except.error.inj h).symm⟩
  | list forms =>
    simp only [matchWhole, matchForm, matchItems] at h
    split at h
    · cases h
    · exact ⟨_, (Except.error.inj h).symm⟩

/-- How a list pattern that starts with a single item fails: the form has no first item, or the
    match of the first items or of the rests fails. -/
theorem matchWhole_single_eq_error (hmarker : rest.head? ≠ some (.atom s.ellipsis))
    (h : matchWhole literals s (.list (item :: rest)) form = .error e) :
    (∃ mismatch, e = .shape mismatch (.list (item :: rest)) form) ∨
      ∃ first others, form = .list (first :: others) ∧
        (matchWhole literals s item first = .error e ∨
          matchWhole literals s (.list rest) (.list others) = .error e) := by
  cases form with
  | atom t => exact .inl ⟨.atomForList, by simpa [matchWhole, matchForm, eq_comm] using h⟩
  | list forms =>
    cases forms with
    | nil =>
      rw [matchWhole, matchForm, matchItems_single_nil literals hmarker] at h
      exact .inl ⟨_, (Except.error.inj h).symm⟩
    | cons first others =>
      rw [matchWhole_single hmarker] at h
      refine .inr ⟨first, others, rfl, ?_⟩
      obtain hfirst | ⟨c, -, hothers⟩ := bind_eq_error_iff.mp h
      · exact .inl hfirst
      · exact .inr (map_eq_error_iff.mp hothers)

/-- How a list pattern that starts with a repeated item fails: the form is no list, or the item does
    not match one of its items, or the rest of the pattern does not match the empty list. -/
theorem matchWhole_repeated_eq_error
    (h : matchWhole literals s (.list (item :: .atom s.ellipsis :: rest)) form = .error e) :
    (∃ mismatch, e = .shape mismatch (.list (item :: .atom s.ellipsis :: rest)) form) ∨
      ∃ forms, form = .list forms ∧
        ((∃ first ∈ forms, matchWhole literals s item first = .error e) ∨
          matchWhole literals s (.list rest) (.list []) = .error e) := by
  cases form with
  | atom t => exact .inl ⟨.atomForList, by simpa [matchWhole, matchForm, eq_comm] using h⟩
  | list forms =>
    rw [matchWhole_repeated] at h
    refine .inr ⟨forms, rfl, ?_⟩
    obtain hitem | ⟨rounds, -, hrest⟩ := bind_eq_error_iff.mp h
    · exact .inl (exists_of_mapM_eq_error hitem)
    · exact .inr (map_eq_error_iff.mp hrest)

/-- Every failing match fails in one of these ways. -/
theorem arises_of_matchWhole (h : matchWhole literals s pattern form = .error e) :
    e.Arises literals s pattern form := by
  induction pattern using Form.markerInduction s.ellipsis generalizing form with
  | atom t =>
    obtain ⟨hliteral, hne, he⟩ := matchWhole_atom_eq_error_iff.mp h
    exact .literal hliteral hne he
  | nil =>
    obtain ⟨mismatch, he⟩ := exists_shape_of_matchWhole_nil h
    exact .shape he h
  | repeated item rest ih ihRest =>
    obtain ⟨mismatch, he⟩ | ⟨forms, rfl, hitem | hrest⟩ := matchWhole_repeated_eq_error h
    · exact .shape he h
    · obtain ⟨first, hfirst, herror⟩ := hitem
      exact .item List.mem_cons_self hfirst (ih herror)
    · have hsuffix : rest <:+ item :: .atom s.ellipsis :: rest := ⟨[item, .atom s.ellipsis], rfl⟩
      exact .tail hsuffix List.nil_suffix (ihRest hrest)
  | single item rest hmarker ih ihRest =>
    obtain ⟨mismatch, he⟩ | ⟨first, others, rfl, hitem | hrest⟩ :=
      matchWhole_single_eq_error hmarker h
    · exact .shape he h
    · exact .item List.mem_cons_self List.mem_cons_self (ih hitem)
    · exact .tail (List.suffix_cons _ _) (List.suffix_cons _ _) (ihRest hrest)

end Arises

/-! ## What an error says -/

/-- What an error says of the pattern and the form that were matched. An expected literal occurs in
    the pattern, and what was found in its place is another part of the form. Two parts of different
    shapes are tails of the pattern and of the form, and to match them alone gives the error again. -/
def MatchError.TrueOf (literals : TokenSet) (s : MatchSettings) (pattern form : Form) :
    MatchError → Prop
  | .literal expected found =>
    literals.contains expected = true ∧ expected ∈ pattern.atoms ∧ found.PartOf form ∧
      found ≠ .atom expected
  | .shape mismatch p f =>
    p.TailOf pattern ∧ f.TailOf form ∧ matchWhole literals s p f = .error (.shape mismatch p f)

namespace MatchError.Arises

variable {literals : TokenSet} {s : MatchSettings} {pattern form : Form}

theorem trueOf_shape {mismatch : ShapeMismatch} {p f : Form}
    (h : (MatchError.shape mismatch p f).Arises literals s pattern form) :
    (MatchError.shape mismatch p f).TrueOf literals s pattern form := by
  induction h with
  | literal hliteral hne he => cases he
  | shape he h =>
    cases he
    exact ⟨.refl p, .refl f, h⟩
  | item hpattern hform _ ih =>
    obtain ⟨hp, hf, herror⟩ := ih
    exact ⟨.of_item hpattern hp, .of_item hform hf, herror⟩
  | tail hrest hlast _ ih =>
    obtain ⟨hp, hf, herror⟩ := ih
    exact ⟨.of_suffix hrest hp, .of_suffix hlast hf, herror⟩

/-- A literal meets either the whole form, if it is the whole pattern, or a part of an item. -/
theorem literal_cases {expected : String} {found : Form}
    (h : (MatchError.literal expected found).Arises literals s pattern form) :
    literals.contains expected = true ∧ found ≠ .atom expected ∧ expected ∈ pattern.atoms ∧
      (pattern = .atom expected ∧ found = form ∨
        ∃ forms, form = .list forms ∧ ∃ f ∈ forms, found.PartOf f) := by
  induction h with
  | literal hliteral hne he =>
    cases he
    exact ⟨hliteral, hne, List.mem_singleton_self _, .inl ⟨rfl, rfl⟩⟩
  | shape he h => cases he
  | @item patterns forms pattern form hpattern hform _ ih =>
    obtain ⟨hliteral, hne, hatoms, hplace⟩ := ih
    refine ⟨hliteral, hne, Form.atoms_subset_of_mem hpattern hatoms,
      .inr ⟨forms, rfl, form, hform, ?_⟩⟩
    obtain ⟨-, rfl⟩ | ⟨items, rfl, f, hf, hpart⟩ := hplace
    · exact .refl _
    · exact .item hf hpart
  | @tail patterns rest forms last hrest hlast _ ih =>
    obtain ⟨hliteral, hne, hatoms, hplace⟩ := ih
    obtain ⟨hatom, -⟩ | ⟨items, heq, f, hf, hpart⟩ := hplace
    · cases hatom
    · cases heq
      exact ⟨hliteral, hne, Form.atoms_subset_of_subset hrest.subset hatoms,
        .inr ⟨forms, rfl, f, hlast.subset hf, hpart⟩⟩

theorem trueOf_literal {expected : String} {found : Form}
    (h : (MatchError.literal expected found).Arises literals s pattern form) :
    (MatchError.literal expected found).TrueOf literals s pattern form := by
  obtain ⟨hliteral, hne, hatoms, hplace⟩ := h.literal_cases
  refine ⟨hliteral, hatoms, ?_, hne⟩
  obtain ⟨-, rfl⟩ | ⟨forms, rfl, f, hf, hpart⟩ := hplace
  · exact .refl _
  · exact .item hf hpart

end MatchError.Arises

/-- **Mismatches are genuine.** If a pattern does not match a form, then what the error says is true
of them: an expected literal is one that occurs in the pattern, and it met a part of the form that
is not its atom; parts of different shapes are a part of the pattern, or the end of a list in it,
and likewise for the form, and to match these two alone fails with the same error. -/
theorem trueOf_of_matchWhole {literals : TokenSet} {s : MatchSettings} {pattern form : Form}
    {e : MatchError} (h : matchWhole literals s pattern form = .error e) :
    e.TrueOf literals s pattern form := by
  have harises := arises_of_matchWhole h
  cases e with
  | literal expected found => exact harises.trueOf_literal
  | shape mismatch p f => exact harises.trueOf_shape

/-- The pattern `(let ((name => value) ...) body)` against a form with another arrow in its second
binding, and the pattern `(f (x ... y z))`, in which nothing is left for `y`. -/
theorem trueOf_of_matchWhole_arrow :
    let literals : TokenSet := .ofList ["=>"]
    let arrows : Form := .list [.atom "let",
      .list [.list [.atom "name", .atom "=>", .atom "value"], .atom "..."], .atom "body"]
    let bindings : Form := .list [.atom "let",
      .list [.list [.atom "a", .atom "=>", .atom "1"],
        .list [.atom "b", .list [.atom "->"], .atom "2"]], .atom "a"]
    let greedy : Form := .list [.atom "f", .list [.atom "x", .atom "...", .atom "y", .atom "z"]]
    let call : Form := .list [.atom "g", .list [.atom "1", .atom "2"]]
    (matchWhole literals {} arrows bindings = .error (.literal "=>" (.list [.atom "->"])) ∧
      (MatchError.literal "=>" (.list [.atom "->"])).TrueOf literals {} arrows bindings) ∧
    (matchWhole literals {} greedy call =
        .error (.shape .missingItems (.list [.atom "y", .atom "z"]) (.list [])) ∧
      (MatchError.shape .missingItems (.list [.atom "y", .atom "z"]) (.list [])).TrueOf
        literals {} greedy call) := by
  intro literals arrows bindings greedy call
  have harrow : matchWhole literals {} arrows bindings =
      .error (.literal "=>" (.list [.atom "->"])) := by decide +kernel
  have hgreedy : matchWhole literals {} greedy call =
      .error (.shape .missingItems (.list [.atom "y", .atom "z"]) (.list [])) := by decide +kernel
  exact ⟨⟨harrow, trueOf_of_matchWhole harrow⟩, hgreedy, trueOf_of_matchWhole hgreedy⟩

end MacroByExample
