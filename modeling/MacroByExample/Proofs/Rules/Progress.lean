import MacroByExample.Proofs.Rules.Expansion
import MacroByExample.Proofs.Rules.Shape
import MacroByExample.Rules.Dispatch

/-!
# Rules whose templates expand

The three ways in which a template can fail are ruled out by looking at a rule alone: a repeated
part without a bound variable, drivers that captured different numbers of forms, and a variable
without captures outside every repeated part.

* `Rule.WellScoped`: the condition on a rule.
* `Bindings.Supports`: what bindings owe a template; every round of a repetition passes it on to
  the part that is repeated (`Bindings.Supports.narrow`).
* `Bindings.Supports.exists_expandForm`: a supported template expands.
* `dispatch_ne_template`: well-scoped rules never fail in their template.
-/

namespace MacroByExample

/-! ## Supported templates -/

/-- What bindings owe a template: the drivers of each of its repeated parts, at any depth, captured
    equally often, and no other bound token that the template reads is without a form. -/
structure Bindings.Supports (marker : String) (template : Form) (b : Bindings) : Prop where
  /-- Each repeated part has drivers, and these captured equally often. -/
  driven : ∀ part ∈ template.repeatedParts marker, drivers b part ≠ [] ∧
    ∃ n, ∀ var ∈ drivers b part, (b.captured var).length = n
  /-- A bound token that is not marked captured one form. -/
  plain : ∀ t, b.contains t = true → b.isRepeated t = false → (b.captured t).length = 1
  /-- A bound token outside every repeated part captured something. -/
  loose : ∀ t ∈ template.looseTokens marker, b.contains t = true → b.captured t ≠ []

namespace Bindings.Supports

variable {s : MatchSettings} {marker : String} {template item : Form} {rest : List Form}
  {b : Bindings}

theorem of_subset (h : b.Supports marker template)
    (hparts : item.repeatedParts marker ⊆ template.repeatedParts marker)
    (hloose : item.looseTokens marker ⊆ template.looseTokens marker) : b.Supports marker item :=
  ⟨fun part hpart => h.driven part (hparts hpart), h.plain, fun t ht => h.loose t (hloose ht)⟩

theorem item_of_single (hmarker : rest.head? ≠ some (.atom marker))
    (h : b.Supports marker (.list (item :: rest))) : b.Supports marker item := by
  refine h.of_subset ?_ ?_
  · rw [Form.repeatedParts_single hmarker]
    exact List.subset_append_left _ _
  · rw [Form.looseTokens_single hmarker]
    exact List.subset_append_left _ _

theorem rest_of_single (hmarker : rest.head? ≠ some (.atom marker))
    (h : b.Supports marker (.list (item :: rest))) : b.Supports marker (.list rest) := by
  refine h.of_subset ?_ ?_
  · rw [Form.repeatedParts_single hmarker]
    exact List.subset_append_right _ _
  · rw [Form.looseTokens_single hmarker]
    exact List.subset_append_right _ _

theorem rest_of_repeated (h : b.Supports marker (.list (item :: .atom marker :: rest))) :
    b.Supports marker (.list rest) := by
  refine h.of_subset ?_ ?_
  · rw [Form.repeatedParts_repeated]
    exact List.subset_cons_of_subset _ (List.subset_append_right _ _)
  · rw [Form.looseTokens_repeated]
    exact List.Subset.refl _

/-- In a round, a driver and every bound token that is not marked have captured one form. -/
theorem length_captured_narrow (h : b.Supports marker template) {n round : Nat}
    (hlength : ∀ var ∈ drivers b item, (b.captured var).length = n) (hround : round < n)
    {t : String} (hbound : b.contains t = true)
    (ht : t ∈ drivers b item ∨ b.isRepeated t = false) :
    ((narrow b (drivers b item) round).captured t).length = 1 := by
  by_cases hdriver : t ∈ drivers b item
  · have hlt : round < (b.captured t).length := by
      rw [hlength t hdriver]
      exact hround
    exact length_captured_narrow_of_mem hdriver hlt
  · have hplain : b.isRepeated t = false := ht.resolve_left hdriver
    rw [captured_congr (get?_narrow_of_notMem hdriver)]
    exact h.plain t hbound hplain

/-- Every round of a repetition supports the part that is repeated. -/
theorem narrow (h : b.Supports marker (.list (item :: .atom marker :: rest))) {n round : Nat}
    (hlength : ∀ var ∈ drivers b item, (b.captured var).length = n) (hround : round < n) :
    (MacroByExample.narrow b (drivers b item) round).Supports marker item := by
  -- every bound token of the item is left with one form
  have hone : ∀ t ∈ item.atoms, b.contains t = true →
      ((MacroByExample.narrow b (drivers b item) round).captured t).length = 1 :=
    fun t ht hbound => h.length_captured_narrow hlength hround hbound (mem_drivers_or ht hbound)
  refine ⟨fun part hpart => ?_, fun t hbound hplain => ?_, fun t ht hbound => ?_⟩
  · rw [drivers_narrow]
    refine ⟨(h.driven part (by simp [hpart])).1, 1, fun var hvar => ?_⟩
    obtain ⟨hmem, hbound, -⟩ := mem_drivers.mp hvar
    exact hone var (Form.atoms_subset_of_mem_repeatedParts hpart hmem) hbound
  · rw [contains_narrow] at hbound
    rw [isRepeated_narrow] at hplain
    exact h.length_captured_narrow hlength hround hbound (.inr hplain)
  · rw [contains_narrow] at hbound
    have hatom : t ∈ item.atoms :=
      Form.readTokens_subset_atoms item (Form.looseTokens_subset_readTokens item ht)
    rw [← List.length_pos_iff_ne_nil, hone t hatom hbound]
    exact Nat.one_pos

/-- A supported template expands. -/
theorem exists_expandForm (h : b.Supports s.ellipsis template) :
    ∃ out, expandForm s template b = .ok out := by
  induction template using Form.markerInduction s.ellipsis generalizing b with
  | atom t =>
    rw [expandForm, expandToken]
    cases hget : b.get? t with
    | none => exact ⟨.atom t, rfl⟩
    | some forms =>
      cases forms with
      | nil =>
        have hbound : b.contains t = true := by rw [contains_eq_isSome, hget, Option.isSome_some]
        exact absurd (captured_of_get? hget) (h.loose t (by simp) hbound)
      | cons form forms => exact ⟨form, rfl⟩
  | nil => exact ⟨.list [], expandForm_nil⟩
  | repeated item rest ih ihRest =>
    obtain ⟨hdrivers, n, hlength⟩ := h.driven item (by simp)
    have hrounds : ∀ round : Fin n, ∃ out,
        expandForm s item (MacroByExample.narrow b (drivers b item) round) = .ok out :=
      fun round => ih (h.narrow hlength round.isLt)
    choose out hout using hrounds
    obtain ⟨form, hform⟩ := ihRest h.rest_of_repeated
    obtain ⟨forms, rfl⟩ := exists_of_expandForm_list hform
    refine ⟨.list (List.ofFn out ++ forms), expandForm_repeated ?_ (fun round hround => ?_) hform⟩
    · rw [List.length_ofFn]
      exact repetitions_eq_ok hdrivers hlength
    · rw [List.getElem_ofFn]
      exact hout ⟨round, by simpa using hround⟩
  | single item rest hmarker ih ihRest =>
    obtain ⟨first, hfirst⟩ := ih (h.item_of_single hmarker)
    obtain ⟨form, hform⟩ := ihRest (h.rest_of_single hmarker)
    obtain ⟨forms, rfl⟩ := exists_of_expandForm_list hform
    exact ⟨.list (first :: forms), expandForm_single hmarker hfirst hform⟩

end Bindings.Supports

/-! ## Well-scoped rules -/

/-- A rule that was accepted, whose variables occur once, and whose template repeats what the
    pattern repeats. The pattern of the rule is the part of it that is matched. -/
structure Rule.WellScoped (literals : TokenSet) (s : MatchSettings) (rule : Rule) : Prop where
  /-- The pattern passes the check. -/
  accepted : checkPattern s rule.pattern = .ok ()
  /-- Each variable of the pattern occurs once. -/
  linear : ((s.matchedPart rule.pattern).vars literals s.ellipsis).Nodup
  /-- Each repeated part of the template, at any depth, mentions a variable. -/
  mentions : ∀ part ∈ rule.template.repeatedParts s.ellipsis,
    ∃ t ∈ part.atoms, t ∈ (s.matchedPart rule.pattern).vars literals s.ellipsis
  /-- The variables bound by an ellipsis that a repeated part of the template mentions come from one
      repeated part of the pattern. -/
  together : ∀ part ∈ rule.template.repeatedParts s.ellipsis, ∀ u ∈ part.atoms, ∀ v ∈ part.atoms,
    (s.matchedPart rule.pattern).EllipsisBound literals s.ellipsis u →
      (s.matchedPart rule.pattern).EllipsisBound literals s.ellipsis v →
        ∃ group ∈ (s.matchedPart rule.pattern).repeatedParts s.ellipsis,
          u ∈ group.vars literals s.ellipsis ∧ v ∈ group.vars literals s.ellipsis
  /-- Outside its repeated parts, the template mentions no variable bound by an ellipsis. -/
  enclosed : ∀ t ∈ rule.template.looseTokens s.ellipsis,
    ¬ (s.matchedPart rule.pattern).EllipsisBound literals s.ellipsis t

section WellScoped

variable {literals : TokenSet} {s : MatchSettings} {rule : Rule} {form : Form} {b : Bindings}

/-- The bindings of a match support the template of a well-scoped rule. -/
theorem Rule.WellScoped.supports (h : rule.WellScoped literals s)
    (matched : matchRule literals s rule.pattern form = .ok b) :
    b.Supports s.ellipsis rule.template := by
  have hlaid : b.LaidDownBy literals s.ellipsis (s.matchedPart rule.pattern) :=
    (shape_of_matchWhole (oneLevel_matchedPart h.accepted)
      (matchWhole_of_matchRule matched)).laidDownBy
  have hone : ∀ t, b.contains t = true → b.isRepeated t = false → (b.captured t).length = 1 :=
    fun t hbound hplain => hlaid.length_captured_eq_one h.linear hbound hplain
  refine ⟨fun part hpart => ?_, hone, fun t ht hmem => ?_⟩
  · obtain ⟨t, ht, hvar⟩ := h.mentions part hpart
    have hne := drivers_ne_nil ht (hlaid.contains_iff.mpr hvar)
    obtain ⟨first, hfirst⟩ := List.exists_mem_of_ne_nil _ hne
    obtain ⟨hfirstMem, hfirstBound, -⟩ := mem_drivers.mp hfirst
    refine ⟨hne, (b.captured first).length, fun var hvar => ?_⟩
    obtain ⟨hmem, hvarBound, hsame⟩ := (mem_drivers_iff_of_mem hfirst).mp hvar
    -- either all drivers are marked or none is
    cases hmark : b.isRepeated first with
    | true =>
      rw [hmark] at hsame
      obtain ⟨group, hgroup, hv, hf⟩ := h.together part hpart var hmem first hfirstMem
        ((hlaid.isRepeated_iff var).mp hsame) ((hlaid.isRepeated_iff first).mp hmark)
      exact hlaid.length_captured_eq h.linear hgroup hv hf
    | false =>
      rw [hmark] at hsame
      rw [hone var hvarBound hsame, hone first hfirstBound hmark]
  · have hplain : b.isRepeated t = false := by
      rw [Bool.eq_false_iff, Ne, hlaid.isRepeated_iff]
      exact h.enclosed t ht
    rw [← List.length_pos_iff_ne_nil, hone t hmem hplain]
    exact Nat.one_pos

theorem Rule.WellScoped.exists_expandForm (h : rule.WellScoped literals s)
    (matched : matchRule literals s rule.pattern form = .ok b) :
    ∃ out, expandForm s rule.template b = .ok out :=
  (h.supports matched).exists_expandForm

/-! ## Dispatch -/

/-- If the template of a rule expands whenever its pattern matches, trying the rules does not fail
    in a template. -/
theorem dispatchFrom_ne_template {rules : List Rule}
    (h : ∀ rule ∈ rules, ∀ b, matchRule literals s rule.pattern form = .ok b →
      ∃ out, expandForm s rule.template b = .ok out)
    (start index : Nat) (error : ExpandError) :
    (dispatchFrom literals s form start rules).result ≠ .error (.template index error) := by
  induction rules generalizing start with
  | nil => simp [dispatchFrom]
  | cons rule rules ih =>
    rw [dispatchFrom]
    cases hmatch : matchRule literals s rule.pattern form with
    | ok b =>
      obtain ⟨out, hout⟩ := h rule List.mem_cons_self b hmatch
      simp [fire, hout]
    | error reason => exact ih (fun rule hrule => h rule (List.mem_cons_of_mem _ hrule)) (start + 1)

/-- **Well-scoped rules never fail to expand.** Whenever a well-scoped rule matches a form, its
    template expands with the bindings of the match; and no dispatch over such rules fails in a
    template. -/
theorem dispatch_ne_template {rules : List Rule}
    (wellScoped : ∀ rule ∈ rules, rule.WellScoped literals s) :
    (∀ rule ∈ rules, ∀ form b, matchRule literals s rule.pattern form = .ok b →
      ∃ out, expandForm s rule.template b = .ok out) ∧
    ∀ form index error,
      (dispatch literals s rules form).result ≠ .error (.template index error) :=
  ⟨fun rule hrule _ _ matched => (wellScoped rule hrule).exists_expandForm matched,
    fun _ index error => dispatchFrom_ne_template
      (fun rule hrule _ matched => (wellScoped rule hrule).exists_expandForm matched) 0 index error⟩

/-- The rule `((for op (name value) ...) (((op name ...) ...) (value name) ... (k op) ...))`
    without its keyword: one repeated part of the template is inside another, and the last one is
    driven by a variable that the pattern does not repeat. -/
theorem dispatch_ne_template_for :
    let s : MatchSettings := { ignoreKeyword := true }
    let rule : Rule :=
      { pattern := .list [.atom "for", .atom "op",
          .list [.atom "name", .atom "value"], .atom "..."]
        template := .list [.list [.list [.atom "op", .atom "name", .atom "..."], .atom "..."],
          .list [.atom "value", .atom "name"], .atom "...", .list [.atom "k", .atom "op"],
          .atom "..."] }
    let form : Form := .list [.atom "m", .atom "+", .list [.atom "a", .atom "1"],
      .list [.atom "b", .atom "2"]]
    rule.WellScoped .empty s ∧
      (∃ b, matchRule .empty s rule.pattern form = .ok b ∧
        ∃ out, expandForm s rule.template b = .ok out) ∧
      ∀ form index error,
        (dispatch .empty s [rule] form).result ≠ .error (.template index error) := by
  intro s rule form
  have wellScoped : rule.WellScoped .empty s :=
    ⟨by decide +kernel, by decide +kernel, by decide +kernel, by decide +kernel,
      by decide +kernel⟩
  have hall : ∀ r ∈ [rule], r.WellScoped .empty s := by simpa using wellScoped
  obtain ⟨b, matched⟩ : ∃ b, matchRule .empty s rule.pattern form = .ok b := ⟨_, rfl⟩
  obtain ⟨expands, never⟩ := dispatch_ne_template hall
  exact ⟨wellScoped, ⟨b, matched, expands rule (by simp) form b matched⟩, never⟩

end WellScoped

end MacroByExample
