import MacroByExample.Proofs.Rules.Image

/-!
# Captured forms are not looked into

Whether a pattern matches depends on where a form has lists and where it has literals, and on
nothing else in it. So if the tokens of a form are replaced by forms, other than the literals, a
pattern that matched still matches, and its variables capture the same forms with the same
replacements. A template copies what was captured, so its expansion has the same replacements too.

* `Bindings.mapForms_append`, `Bindings.mapForms_concat`: replacing in bindings put one after the
  other.
* `matchWhole_subst`, `matchRule_subst`: matching a form with replaced tokens.
* `expandForm_mapForms`: expanding with replaced captures.
* `expandForm_mapForms_of_matchRule`: both together.
-/

namespace MacroByExample

/-! ## Bindings -/

namespace Bindings

variable {g : Form → Form}

theorem mapForms_capture (var : String) (form : Form) :
    (empty.capture var form).mapForms g = empty.capture var (g form) := by
  refine ext_captured (fun t => ?_) (fun t => ?_) fun t => ?_
  · rw [contains_mapForms, contains_capture, contains_capture]
  · rw [captured_mapForms, captured_capture, captured_capture, captured_empty, List.nil_append,
      List.nil_append]
    split <;> rfl
  · rw [isRepeated_mapForms, isRepeated_capture, isRepeated_capture]

theorem mapForms_append (b c : Bindings) :
    (b ++ c).mapForms g = b.mapForms g ++ c.mapForms g :=
  ext_captured (by simp) (by simp) (by simp)

theorem mapForms_concat (rounds : List Bindings) :
    (concat rounds).mapForms g = concat (rounds.map (mapForms g)) := by
  induction rounds with
  | nil => rfl
  | cons b rounds ih => rw [concat_cons, mapForms_append, ih, List.map_cons, concat_cons]

theorem mapForms_declareVariables (literals : TokenSet) (s : MatchSettings) (pattern : Form) :
    (declareVariables literals s pattern empty).mapForms g =
      declareVariables literals s pattern empty :=
  ext_captured (by simp) (by simp) (by simp)

end Bindings

section Opacity

variable {literals : TokenSet} {s : MatchSettings} {σ : String → Form}

/-! ## Matching -/

theorem matchToken_subst {token : String} {form : Form} {b : Bindings}
    (hliterals : ∀ t, literals.contains t = true → σ t = .atom t)
    (h : matchToken literals token form .empty = .ok b) :
    matchToken literals token (form.subst σ) .empty = .ok (b.mapForms (Form.subst σ)) := by
  unfold matchToken at h ⊢
  split at h
  · next hliteral =>
    split at h
    · next hform =>
      cases h
      rw [if_pos hliteral, hform, Form.subst_atom, hliterals token hliteral, if_pos rfl]
      rfl
    · cases h
  · next hvariable =>
    cases h
    rw [if_neg hvariable, Bindings.mapForms_capture]

/-- A pattern that matches a form matches it with replaced tokens, if the literals are kept. -/
theorem matchWhole_subst (hliterals : ∀ t, literals.contains t = true → σ t = .atom t)
    {pattern form : Form} {b : Bindings} (h : matchWhole literals s pattern form = .ok b) :
    matchWhole literals s pattern (form.subst σ) = .ok (b.mapForms (Form.subst σ)) := by
  induction pattern using Form.markerInduction s.ellipsis generalizing form b with
  | atom t => exact matchToken_subst hliterals h
  | nil =>
    obtain ⟨hform, rfl⟩ := matchWhole_nil_iff.mp h
    -- a list has nothing to replace if it is empty, and under the lenient policy any form will do
    exact matchWhole_nil_iff.mpr ⟨hform.imp_left fun hempty => by rw [hempty]; rfl, rfl⟩
  | repeated item rest ih ihRest =>
    obtain ⟨forms, rounds, d, rfl, hrounds, hd, rfl⟩ := matchWhole_repeated_iff.mp h
    rw [matchWhole_repeated_iff]
    refine ⟨forms.map (Form.subst σ), rounds.map (Bindings.mapForms (Form.subst σ)),
      d.mapForms (Form.subst σ), Form.subst_list σ forms, ?_, ihRest hd, ?_⟩
    · rw [List.forall₂_map_left_iff, List.forall₂_map_right_iff]
      exact hrounds.imp fun form round hround => ih hround
    · rw [Bindings.mapForms_append, Bindings.mapForms_append, Bindings.mapForms_concat,
        Bindings.mapForms_declareVariables]
  | single item rest hmarker ih ihRest =>
    obtain ⟨first, others, c, d, rfl, hc, hd, rfl⟩ := (matchWhole_single_iff hmarker).mp h
    have hothers : matchWhole literals s (.list rest) (.list (others.map (Form.subst σ))) =
        .ok (d.mapForms (Form.subst σ)) := Form.subst_list σ others ▸ ihRest hd
    exact (matchWhole_single_iff hmarker).mpr ⟨first.subst σ, others.map (Form.subst σ),
      c.mapForms (Form.subst σ), d.mapForms (Form.subst σ), Form.subst_list σ _, ih hc, hothers,
      Bindings.mapForms_append c d⟩

/-- The same for a rule's pattern. -/
theorem matchRule_subst (hliterals : ∀ t, literals.contains t = true → σ t = .atom t)
    {pattern form : Form} {b : Bindings} (h : matchRule literals s pattern form = .ok b) :
    matchRule literals s pattern (form.subst σ) = .ok (b.mapForms (Form.subst σ)) := by
  cases hkeyword : s.ignoreKeyword with
  | false =>
    rw [matchRule_of_whole hkeyword] at h ⊢
    exact matchWhole_subst hliterals h
  | true =>
    obtain ⟨keyword, patterns, first, forms, rfl, rfl, hforms⟩ :=
      (matchRule_keyword_iff hkeyword).mp h
    have hsubst := matchWhole_subst hliterals hforms
    rw [Form.subst_list] at hsubst
    exact (matchRule_keyword_iff hkeyword).mpr
      ⟨keyword, patterns, first.subst σ, forms.map (Form.subst σ), rfl, Form.subst_list σ _, hsubst⟩

/-! ## Expansion -/

/-- With replaced captures a template expands to the form with the same replacements, if the tokens
    that it copies are kept. -/
theorem expandForm_mapForms {template : Form} {b : Bindings}
    (hfree : ∀ t ∈ template.readTokens s.ellipsis, b.contains t = false → σ t = .atom t) :
    expandForm s template (b.mapForms (Form.subst σ)) =
      (expandForm s template b).map (Form.subst σ) := by
  have himage := expandForm_image Function.injective_id (b.image_mapForms σ) hfree
  have herror : ExpandError.rename id = id := funext ExpandError.rename_id
  rwa [MatchSettings.rename_id, Form.rename_id, herror, mapBoth_id_right] at himage

/-- **Captured forms are not looked into.** Let the tokens of a form be replaced by forms, other
    than the literals and the tokens of a template. If a pattern matches the form, it matches the
    form with the replacements too; every variable captures the same forms with the replacements,
    and the marks are the same. The template then expands to its expansion with the replacements,
    or it fails with the same error. -/
theorem expandForm_mapForms_of_matchRule {pattern template form : Form} {b : Bindings}
    (hliterals : ∀ t, literals.contains t = true → σ t = .atom t)
    (htemplate : ∀ t ∈ template.atoms, σ t = .atom t)
    (matched : matchRule literals s pattern form = .ok b) :
    matchRule literals s pattern (form.subst σ) = .ok (b.mapForms (Form.subst σ)) ∧
      expandForm s template (b.mapForms (Form.subst σ)) =
        (expandForm s template b).map (Form.subst σ) :=
  ⟨matchRule_subst hliterals matched,
    expandForm_mapForms fun t ht _ => htemplate t (Form.readTokens_subset_atoms template ht)⟩

/-- The pattern `(let () ((name value =>) ...) body)`, which the lenient policy matches with an atom
    in place of the empty list, and a template with a repeated part inside a repeated part. Two
    tokens of the form grow into lists. -/
theorem expandForm_mapForms_of_matchRule_let :
    let literals : TokenSet := .ofList ["=>"]
    let s : MatchSettings := { trailing := .lenient, ignoreKeyword := true }
    let pattern : Form := .list [.atom "let", .list [],
      .list [.list [.atom "name", .atom "value", .atom "=>"], .atom "..."], .atom "body"]
    let template : Form := .list [.atom "do", .atom "body",
      .list [.atom "name", .atom "value", .atom "..."], .atom "..."]
    let form : Form := .list [.atom "m", .atom "z",
      .list [.list [.atom "a", .atom "1", .atom "=>"], .list [.atom "b", .atom "z", .atom "=>"]],
      .list [.atom "a"]]
    let σ : String → Form := fun t =>
      if t = "z" then .list [.atom "z", .list []] else if t = "a" then .list [] else .atom t
    let output : Form := .list [.atom "do", .list [.atom "a"], .list [.atom "a", .atom "1"],
      .list [.atom "b", .atom "z"]]
    ∃ b, matchRule literals s pattern form = .ok b ∧ expandForm s template b = .ok output ∧
      matchRule literals s pattern (form.subst σ) = .ok (b.mapForms (Form.subst σ)) ∧
      expandForm s template (b.mapForms (Form.subst σ)) = .ok (output.subst σ) := by
  intro literals s pattern template form σ output
  have hliterals : ∀ t, literals.contains t = true → σ t = .atom t := by
    intro t ht
    rw [TokenSet.contains_ofList, decide_eq_true_iff, List.mem_singleton] at ht
    rw [ht]
    rfl
  have htemplate : ∀ t ∈ template.atoms, σ t = .atom t := by decide +kernel
  obtain ⟨b, matched, expanded⟩ : ∃ b, matchRule literals s pattern form = .ok b ∧
      expandForm s template b = .ok output := ⟨_, rfl, by decide +kernel⟩
  obtain ⟨matchedSubst, expandedSubst⟩ :=
    expandForm_mapForms_of_matchRule hliterals htemplate matched
  rw [expanded] at expandedSubst
  exact ⟨b, matched, expanded, matchedSubst, expandedSubst⟩

end Opacity

end MacroByExample
