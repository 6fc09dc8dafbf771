import MacroByExample.Proofs.Rules.Expansion
import MacroByExample.Proofs.Rules.Firing
import MacroByExample.Proofs.Rules.Shape

/-!
# Where the tokens of an expansion come from

An expansion invents no token. What it puts into its output it has captured from the form, or has
copied from the template; and it copies no variable of the pattern, since a match binds them all,
also those that are repeated zero times.

* `atoms_subset_of_mem_captured`: what a match captures are parts of the form.
* `mem_atoms_of_expandForm`: the tokens of an expansion are captured or copied.
* `mem_atoms_of_tryRules`: where the tokens of an output come from, for every loaded rule set.
-/

namespace MacroByExample

variable {literals : TokenSet} {s : MatchSettings} {b : Bindings}

/-! ## Captured tokens -/

/-- What a match captures are parts of the form. -/
theorem atoms_subset_of_mem_captured {pattern form captured : Form} {var : String}
    (h : matchWhole literals s pattern form = .ok b) (hcaptured : captured ∈ b.captured var) :
    captured.atoms ⊆ form.atoms := by
  induction pattern using Form.markerInduction s.ellipsis generalizing form b with
  | atom t =>
    rw [matchWhole, matchForm, matchToken] at h
    split at h
    · split at h
      · cases h
        simp [Bindings.captured_empty] at hcaptured
      · cases h
    · cases h
      rw [Bindings.captured_capture, Bindings.captured_empty, List.nil_append] at hcaptured
      split at hcaptured
      · rw [List.mem_singleton.mp hcaptured]
        exact List.Subset.refl _
      · cases hcaptured
  | nil =>
    obtain ⟨-, rfl⟩ := matchWhole_nil_iff.mp h
    cases hcaptured
  | repeated item rest ih ihRest =>
    obtain ⟨forms, rounds, d, rfl, hrounds, hd, rfl⟩ := matchWhole_repeated_iff.mp h
    rw [Bindings.captured_append, captured_declareVariables_append, Bindings.captured_concat,
      List.mem_append, List.mem_flatMap] at hcaptured
    rw [Form.atoms_list]
    rcases hcaptured with ⟨round, hround, hcaptured⟩ | hcaptured
    · obtain ⟨form, hform, hmatch⟩ := exists_of_forall₂_of_mem hrounds hround
      intro t ht
      exact List.mem_flatMap.mpr ⟨form, hform, ih hmatch hcaptured ht⟩
    · -- the rest of the pattern is matched against no items
      have hnone := ihRest hd hcaptured
      rw [Form.atoms_list, List.flatMap_nil] at hnone
      exact List.Subset.trans hnone (List.nil_subset _)
  | single item rest hmarker ih ihRest =>
    obtain ⟨first, others, c, d, rfl, hc, hd, rfl⟩ := (matchWhole_single_iff hmarker).mp h
    rw [Bindings.captured_append, List.mem_append] at hcaptured
    rw [Form.atoms_list, List.flatMap_cons]
    rcases hcaptured with hcaptured | hcaptured
    · exact List.subset_append_of_subset_left _ (ih hc hcaptured)
    · have hrest := ihRest hd hcaptured
      rw [Form.atoms_list] at hrest
      exact List.subset_append_of_subset_right _ hrest

/-- A round captures nothing new. -/
theorem captured_narrow_subset (b : Bindings) (vars : List String) (round : Nat) (var : String) :
    (narrow b vars round).captured var ⊆ b.captured var := by
  rw [Bindings.captured, get?_narrow]
  split
  · next form hform =>
    split at hform
    · intro other hother
      rw [List.mem_singleton.mp hother]
      exact List.mem_of_getElem? hform
    · cases hform
  · exact List.Subset.refl _

/-! ## Tokens of an expansion -/

/-- A token of an expansion is copied from the template, which reads it without binding, or comes
    out of a form that a variable of the template captured. -/
theorem mem_atoms_of_expandForm {template out : Form} (h : expandForm s template b = .ok out)
    {t : String} (ht : t ∈ out.atoms) :
    (t ∈ template.readTokens s.ellipsis ∧ b.contains t = false) ∨
      ∃ var ∈ template.readTokens s.ellipsis, ∃ form ∈ b.captured var, t ∈ form.atoms := by
  induction template using Form.markerInduction s.ellipsis generalizing b out with
  | atom token =>
    rw [expandForm, expandToken] at h
    rw [Form.readTokens_atom]
    split at h
    · next hnone =>
      cases h
      rw [Form.atoms_atom, List.mem_singleton] at ht
      subst ht
      exact .inl ⟨List.mem_singleton_self _, by rw [Bindings.contains_eq_isSome, hnone]; rfl⟩
    · cases h
    · next form forms hsome =>
      cases h
      refine .inr ⟨token, List.mem_singleton_self _, out, ?_, ht⟩
      rw [Bindings.captured_of_get? hsome]
      exact List.mem_cons_self
  | nil =>
    rw [expandForm_nil] at h
    cases h
    cases ht
  | repeated item rest ih ihRest =>
    obtain ⟨n, group, forms, -, hgroup, hforms, rfl⟩ := exists_of_expandForm_repeated h
    rw [Form.atoms_list, List.flatMap_append, List.mem_append] at ht
    rw [Form.readTokens_repeated]
    rcases ht with ht | ht
    · obtain ⟨form, hform, ht⟩ := List.mem_flatMap.mp ht
      obtain ⟨round, -, hround⟩ := exists_of_forall₂_of_mem hgroup hform
      rcases ih hround ht with ⟨hread, hfree⟩ | ⟨var, hvar, captured, hcaptured, ht⟩
      · rw [contains_narrow] at hfree
        exact .inl ⟨List.mem_append_left _ hread, hfree⟩
      · exact .inr ⟨var, List.mem_append_left _ hvar, captured,
          captured_narrow_subset b _ round var hcaptured, ht⟩
    · have hrest := ihRest hforms (by rwa [Form.atoms_list])
      rcases hrest with ⟨hread, hfree⟩ | ⟨var, hvar, hcaptured⟩
      · exact .inl ⟨List.mem_append_right _ hread, hfree⟩
      · exact .inr ⟨var, List.mem_append_right _ hvar, hcaptured⟩
  | single item rest hmarker ih ihRest =>
    obtain ⟨form, forms, hform, hforms, rfl⟩ := exists_of_expandForm_single hmarker h
    rw [Form.atoms_list, List.flatMap_cons, List.mem_append] at ht
    rw [Form.readTokens_single hmarker]
    rcases ht with ht | ht
    · rcases ih hform ht with ⟨hread, hfree⟩ | ⟨var, hvar, hcaptured⟩
      · exact .inl ⟨List.mem_append_left _ hread, hfree⟩
      · exact .inr ⟨var, List.mem_append_left _ hvar, hcaptured⟩
    · have hrest := ihRest hforms (by rwa [Form.atoms_list])
      rcases hrest with ⟨hread, hfree⟩ | ⟨var, hvar, hcaptured⟩
      · exact .inl ⟨List.mem_append_right _ hread, hfree⟩
      · exact .inr ⟨var, List.mem_append_right _ hvar, hcaptured⟩

/-! ## Tokens of an output -/

theorem MatchSettings.atoms_matchedPart_subset (s : MatchSettings) (f : Form) :
    (s.matchedPart f).atoms ⊆ f.atoms := by
  unfold matchedPart
  split
  · split
    · rw [Form.atoms_list, Form.atoms_list, List.flatMap_cons]
      exact List.subset_append_right _ _
    · exact List.Subset.refl _
  · exact List.Subset.refl _

/-- A token of what a rule makes of a form is a token of the form, or one of the template that is
    no variable of the matched part of the pattern. -/
theorem Expansion.FiredBy.mem_atoms {rule : Rule} {form : Form} {e : Expansion}
    (h : e.FiredBy literals s rule form) (accepted : checkPattern s rule.pattern = .ok ())
    {t : String} (ht : t ∈ e.output.atoms) :
    t ∈ form.atoms ∨ (t ∈ rule.template.readTokens s.ellipsis ∧
      t ∉ (s.matchedPart rule.pattern).vars literals s.ellipsis) := by
  have hmatch := matchWhole_of_matchRule h.matched
  rcases mem_atoms_of_expandForm h.expanded ht with ⟨hread, hfree⟩ | ⟨var, -, captured, hmem, ht⟩
  · have hlaid := (shape_of_matchWhole (oneLevel_matchedPart accepted) hmatch).laidDownBy
    refine .inr ⟨hread, fun hvar => ?_⟩
    rw [hlaid.contains_iff.mpr hvar] at hfree
    cases hfree
  · have hpart := atoms_subset_of_mem_captured hmatch hmem ht
    exact .inl (s.atoms_matchedPart_subset form hpart)

/-- **No variable leaks and no token is invented.** Whenever a loaded rule set, under any settings,
    answers a form, each token of the output occurs in the form, or it occurs in the template of the
    rule that fired and is no variable of the pattern of that rule. So a variable of the pattern
    shows up in the output only if the form has a token of the same name, no matter how often it
    was repeated. -/
theorem mem_atoms_of_tryRules {r : RuleSet} {form : Form} {e : Expansion} (loaded : r.Loaded s)
    (fired : r.tryRules form = .ok e) :
    ∃ rule, r.rules[e.index]? = some rule ∧
      (∀ t ∈ e.output.atoms, t ∈ form.atoms ∨ (t ∈ rule.template.atoms ∧
        t ∉ (s.matchedPart rule.pattern).vars r.literals s.ellipsis)) ∧
      ∀ var ∈ (s.matchedPart rule.pattern).vars r.literals s.ellipsis,
        var ∈ e.output.atoms → var ∈ form.atoms := by
  obtain ⟨rule, hrule, hfired⟩ := exists_firedBy_of_tryRules fired
  rw [loaded.settings_eq] at hfired
  have accepted := loaded.accepted (List.mem_of_getElem? hrule)
  refine ⟨rule, hrule, fun t ht => ?_, fun var hvar hout => ?_⟩
  · rcases hfired.mem_atoms accepted ht with hform | ⟨hread, hfree⟩
    · exact .inl hform
    · exact .inr ⟨Form.readTokens_subset_atoms _ hread, hfree⟩
  · exact (hfired.mem_atoms accepted hout).resolve_right fun hcopied => hcopied.2 hvar

/-- The rule `((_ body (name => value) ...) (let ((name value) ...) body end))` without its keyword,
    and a form that repeats nothing and has a token with the name of a variable. -/
theorem mem_atoms_of_tryRules_let :
    let s : MatchSettings := { ignoreKeyword := true }
    let rule : Rule :=
      { pattern := .list [.atom "_", .atom "body",
          .list [.atom "name", .atom "=>", .atom "value"], .atom "..."]
        template := .list [.atom "let", .list [.list [.atom "name", .atom "value"], .atom "..."],
          .atom "body", .atom "end"] }
    let r : RuleSet := ⟨.ofList ["=>"], [rule], s⟩
    let form : Form := .list [.atom "m", .atom "name"]
    ∃ e : Expansion, e.output = .list [.atom "let", .list [], .atom "name", .atom "end"] ∧
      r.Loaded s ∧ r.tryRules form = .ok e ∧
      ∃ rule, r.rules[e.index]? = some rule ∧
        (∀ t ∈ e.output.atoms, t ∈ form.atoms ∨ (t ∈ rule.template.atoms ∧
          t ∉ (s.matchedPart rule.pattern).vars r.literals s.ellipsis)) ∧
        ∀ var ∈ (s.matchedPart rule.pattern).vars r.literals s.ellipsis,
          var ∈ e.output.atoms → var ∈ form.atoms := by
  intro s rule r form
  have defined : definitionOfForm s (.list [.atom "define-syntax", .atom "m",
      .list [.atom "syntax-rules", .list [.atom "=>"], .list [rule.pattern, rule.template]]]) =
      .ok ("m", r) := by decide +kernel
  obtain ⟨e, fired, output⟩ : ∃ e, r.tryRules form = .ok e ∧
      e.output = .list [.atom "let", .list [], .atom "name", .atom "end"] :=
    ⟨_, rfl, by decide +kernel⟩
  have loaded : r.Loaded s := .ofDefinition defined
  exact ⟨e, output, loaded, fired, mem_atoms_of_tryRules loaded fired⟩

end MacroByExample
