import MacroByExample.Proofs.Rules.Image
import MacroByExample.Proofs.Rules.Precedence

/-!
# Names of variables and of the marker

What a rule does depends neither on what its variables are called nor on which token is the marker.
If both are renamed in the rules and in the settings, and different tokens stay different, the same
rule fires with the same output, and its bindings are the same under the new names; or the attempt
fails in the same way. Tokens that a template copies must keep their names, since they are in the
output.

A match binds every variable of the pattern, with one exception: in a repeated part the marker in
first position of a list is a variable, but it is not declared, and so it is not bound if there is
nothing to repeat. A template then copies it.

* `Rule.rename`, `Attempt.rename`: rules and results under new names.
* `matchForm_rename`, `matchRule_rename`: a match of a renamed pattern.
* `Form.AlwaysBound`, `contains_of_alwaysBound`: what every match binds.
* `dispatch_rename`: trying renamed rules.
* `dispatch_rename_marker_ne`: the exception.
-/

namespace MacroByExample

/-! ## New names -/

/-- The rule with new names for the tokens of its pattern and its template. -/
def Rule.rename (r : String → String) (rule : Rule) : Rule :=
  ⟨rule.pattern.rename r, rule.template.rename r⟩

/-- The error with new names in the pattern; the form keeps its tokens. -/
def MatchError.rename (r : String → String) : MatchError → MatchError
  | .literal expected found => .literal (r expected) found
  | .shape mismatch pattern form => .shape mismatch (pattern.rename r) form

/-- The event, about renamed rules. -/
def Event.rename (r : String → String) : Event → Event
  | .rejected rule reason => .rejected rule (reason.rename r)
  | .matched rule form => .matched rule form
  | .exhausted tried form => .exhausted tried form

/-- The expansion with new names for the bound variables. The rule and the output are the same. -/
def Expansion.rename (r : String → String) (e : Expansion) : Expansion :=
  { e with bindings := e.bindings.rename r }

/-- The error, about renamed rules. -/
def DispatchError.rename (r : String → String) : DispatchError → DispatchError
  | .noRuleMatched form tried => .noRuleMatched form tried
  | .template rule error => .template rule (error.rename r)
  | .unknownMacro name known => .unknownMacro name known
  | .notACall form => .notACall form

/-- The attempt, with renamed rules. -/
def Attempt.rename (r : String → String) (a : Attempt) : Attempt :=
  a.map (Event.rename r) (Expansion.rename r) (DispatchError.rename r)

/-! ## Bindings -/

namespace Bindings

variable {r : String → String}

theorem rename_empty : empty.rename r = empty := rfl

theorem rename_capture (hr : Function.Injective r) (b : Bindings) (var : String) (form : Form) :
    (b.rename r).capture (r var) form = (b.capture var form).rename r := by
  simp only [capture, rename, TokenMap.get?_mapKeys hr, TokenMap.insert_mapKeys hr]

theorem rename_declareRepeated (hr : Function.Injective r) (b : Bindings) (var : String) :
    (b.rename r).declareRepeated (r var) = (b.declareRepeated var).rename r := by
  have hmark : (b.repeated.map r).insert (r var) = (b.repeated.insert var).map r :=
    congrArg TokenSet.mk (TokenMap.insert_mapKeys hr b.repeated.members var ())
  simp only [declareRepeated, rename, TokenMap.get?_mapKeys hr, TokenMap.insert_mapKeys hr, hmark]

theorem foldl_declareRepeated_rename (hr : Function.Injective r) (vars : List String)
    (b : Bindings) :
    (vars.map r).foldl declareRepeated (b.rename r) = (vars.foldl declareRepeated b).rename r := by
  rw [List.foldl_map]
  exact List.foldl_hom (rename r) (rename_declareRepeated hr)

end Bindings

/-! ## Matching -/

section Matching

variable {r : String → String} {literals : TokenSet} {s : MatchSettings}

/-- No other token becomes a literal if the literals keep their names. -/
theorem contains_literal_rename (hr : Function.Injective r)
    (hliterals : ∀ t, literals.contains t = true → r t = t) (t : String) :
    literals.contains (r t) = literals.contains t := by
  rw [Bool.eq_iff_iff]
  constructor
  · intro h
    have hkept : r (r t) = r t := hliterals (r t) h
    rwa [hr hkept] at h
  · intro h
    rwa [hliterals t h]

theorem matchToken_rename (hr : Function.Injective r)
    (hliterals : ∀ t, literals.contains t = true → r t = t) (t : String) (form : Form)
    (b : Bindings) :
    matchToken literals (r t) form (b.rename r) =
      mapBoth (Bindings.rename r) (MatchError.rename r) (matchToken literals t form b) := by
  rw [matchToken, contains_literal_rename hr hliterals, matchToken]
  by_cases hliteral : literals.contains t = true
  · rw [if_pos hliteral, if_pos hliteral, hliterals t hliteral]
    split
    · rfl
    · rw [mapBoth_error, MatchError.rename, hliterals t hliteral]
  · rw [if_neg hliteral, if_neg hliteral, Bindings.rename_capture hr]
    rfl

theorem declareVariables_rename (hr : Function.Injective r)
    (hliterals : ∀ t, literals.contains t = true → r t = t) (pattern : Form) (b : Bindings) :
    declareVariables literals (s.rename r) (pattern.rename r) (b.rename r) =
      (declareVariables literals s pattern b).rename r := by
  have hdeclared : ∀ t ∈ pattern.atoms,
      (!literals.contains (r t) && r t != r s.ellipsis) =
        (!literals.contains t && t != s.ellipsis) := by
    intro t _
    have hne : (r t != r s.ellipsis) = (t != s.ellipsis) := by
      rw [Bool.eq_iff_iff, bne_iff_ne, bne_iff_ne, hr.ne_iff]
    rw [contains_literal_rename hr hliterals, hne]
  rw [declareVariables, Form.atoms_rename, List.filter_map, declareVariables,
    ← Bindings.foldl_declareRepeated_rename hr]
  exact congrArg (fun vars => (vars.map r).foldl Bindings.declareRepeated (b.rename r))
    (List.filter_congr hdeclared)

/-- A renamed pattern matches the same forms, with renamed bindings. -/
theorem matchForm_rename (hr : Function.Injective r)
    (hliterals : ∀ t, literals.contains t = true → r t = t) (pattern form : Form) (b : Bindings) :
    matchForm literals (s.rename r) (pattern.rename r) form (b.rename r) =
      mapBoth (Bindings.rename r) (MatchError.rename r) (matchForm literals s pattern form b) := by
  induction pattern using Form.markerInduction s.ellipsis generalizing form b with
  | atom t => exact matchToken_rename hr hliterals t form b
  | nil =>
    cases form with
    | atom t =>
      simp only [Form.rename_list, List.map_nil, matchForm, MatchSettings.rename]
      split <;> simp [MatchError.rename]
    | list forms =>
      simp only [Form.rename_list, List.map_nil, matchForm, matchItems, MatchSettings.rename]
      split <;> simp [MatchError.rename]
  | repeated item rest ih ihRest =>
    cases form with
    | atom t => simp [matchForm, MatchError.rename]
    | list forms =>
      have hrest : ∀ c, matchItems literals (s.rename r) (rest.map (Form.rename r)) []
          (c.rename r) = mapBoth (Bindings.rename r) (MatchError.rename r)
            (matchItems literals s rest [] c) := by
        intro c
        simpa only [matchForm, Form.rename_list] using ihRest (.list []) c
      simp only [Form.rename_list, List.map_cons, Form.rename_atom, matchForm]
      -- the renamed marker is the marker of the renamed settings
      change matchItems literals (s.rename r) (_ :: .atom (s.rename r).ellipsis :: _) forms _ = _
      rw [matchItems_repeated, matchItems_repeated, declareVariables_rename hr hliterals,
        foldlM_mapBoth fun c form => ih form c]
      exact bind_mapBoth hrest
  | single item rest hmarker ih ihRest =>
    have hmarker' := Form.head?_map_rename_ne hr hmarker
    cases form with
    | atom t => simp [matchForm, MatchError.rename]
    | list forms =>
      simp only [Form.rename_list, List.map_cons, matchForm]
      cases forms with
      | nil =>
        rw [matchItems_single_nil literals (s := s.rename r) hmarker',
          matchItems_single_nil literals hmarker]
        simp [MatchError.rename]
      | cons form forms =>
        have hrest : ∀ c, matchItems literals (s.rename r) (rest.map (Form.rename r)) forms
            (c.rename r) = mapBoth (Bindings.rename r) (MatchError.rename r)
              (matchItems literals s rest forms c) := by
          intro c
          simpa only [matchForm, Form.rename_list] using ihRest (.list forms) c
        rw [matchItems_single literals (s := s.rename r) hmarker',
          matchItems_single literals hmarker, ih]
        exact bind_mapBoth hrest

/-- The same for a rule's pattern. -/
theorem matchRule_rename (hr : Function.Injective r)
    (hliterals : ∀ t, literals.contains t = true → r t = t) (pattern form : Form) :
    matchRule literals (s.rename r) (pattern.rename r) form =
      mapBoth (Bindings.rename r) (MatchError.rename r) (matchRule literals s pattern form) := by
  unfold matchRule
  by_cases hkeyword : s.ignoreKeyword = true
  · rw [if_pos (show (s.rename r).ignoreKeyword = true from hkeyword), if_pos hkeyword]
    match pattern, form with
    | .list (_ :: patterns), .list (_ :: forms) =>
      simpa only [matchForm, Form.rename_list, List.map_cons, Bindings.rename_empty] using
        matchForm_rename hr hliterals (.list patterns) (.list forms) .empty
    | .atom t, _ => rfl
    | .list [], _ => rfl
    | .list (_ :: _), .atom _ => simp [MatchError.rename]
    | .list (_ :: _), .list [] => simp [MatchError.rename]
  · rw [if_neg (show ¬ (s.rename r).ignoreKeyword = true from hkeyword), if_neg hkeyword]
    exact matchForm_rename hr hliterals pattern form .empty

end Matching

/-! ## What a match binds -/

/-- The token is a variable of the pattern that every match binds. The marker, as a variable, must
    occur outside the repeated parts for that. -/
def Form.AlwaysBound (literals : TokenSet) (marker : String) (p : Form) (t : String) : Prop :=
  t ∈ p.vars literals marker ∧ (t = marker → t ∈ p.looseTokens marker)

instance (literals : TokenSet) (marker : String) (p : Form) (t : String) :
    Decidable (p.AlwaysBound literals marker t) :=
  inferInstanceAs (Decidable (_ ∧ _))

section Bound

variable {literals : TokenSet} {marker t : String} {item : Form} {rest : List Form}

theorem Form.AlwaysBound.contains_eq_false {p : Form} (h : p.AlwaysBound literals marker t) :
    literals.contains t = false :=
  (mem_vars.mp h.1).2

theorem Form.AlwaysBound.of_loose {p : Form} (hliteral : literals.contains t = false)
    (h : t ∈ p.looseTokens marker) : p.AlwaysBound literals marker t :=
  ⟨mem_vars.mpr ⟨looseTokens_subset_readTokens p h, hliteral⟩, fun _ => h⟩

theorem Form.AlwaysBound.of_ne {p : Form} (hne : t ≠ marker) (h : t ∈ p.vars literals marker) :
    p.AlwaysBound literals marker t :=
  ⟨h, fun heq => absurd heq hne⟩

theorem Form.AlwaysBound.of_repeated
    (h : (Form.list (item :: .atom marker :: rest)).AlwaysBound literals marker t) :
    (t ≠ marker ∧ t ∈ item.vars literals marker) ∨
      (Form.list rest).AlwaysBound literals marker t := by
  have hliteral := h.contains_eq_false
  obtain ⟨hvars, hloose⟩ := h
  rw [vars_repeated, List.mem_append] at hvars
  rw [looseTokens_repeated] at hloose
  by_cases ht : t = marker
  · exact .inr (.of_loose hliteral (hloose ht))
  · exact hvars.imp (fun hitem => ⟨ht, hitem⟩) (.of_ne ht)

theorem Form.AlwaysBound.of_single (hmarker : rest.head? ≠ some (.atom marker))
    (h : (Form.list (item :: rest)).AlwaysBound literals marker t) :
    item.AlwaysBound literals marker t ∨ (Form.list rest).AlwaysBound literals marker t := by
  have hliteral := h.contains_eq_false
  obtain ⟨hvars, hloose⟩ := h
  rw [vars_single hmarker, List.mem_append] at hvars
  rw [looseTokens_single hmarker, List.mem_append] at hloose
  by_cases ht : t = marker
  · exact (hloose ht).imp (.of_loose hliteral) (.of_loose hliteral)
  · exact hvars.imp (.of_ne ht) (.of_ne ht)

theorem contains_of_alwaysBound {s : MatchSettings} {pattern form : Form} {b : Bindings}
    (h : matchWhole literals s pattern form = .ok b)
    (ht : pattern.AlwaysBound literals s.ellipsis t) : b.contains t = true := by
  induction pattern using Form.markerInduction s.ellipsis generalizing form b with
  | atom u =>
    obtain ⟨hread, hliteral⟩ := Form.mem_vars.mp ht.1
    obtain rfl : t = u := by simpa using hread
    have hcapture : matchWhole literals s (.atom t) form = .ok (Bindings.empty.capture t form) := by
      simp [matchWhole, matchForm, matchToken, hliteral]
    rw [hcapture] at h
    cases h
    simp [Bindings.contains_capture]
  | nil => simp [Form.AlwaysBound] at ht
  | repeated item rest ih ihRest =>
    obtain ⟨forms, rounds, d, rfl, -, hd, rfl⟩ := matchWhole_repeated_iff.mp h
    rw [Bindings.contains_append, Bindings.contains_append]
    rcases ht.of_repeated with ⟨hne, hvar⟩ | hrest
    · obtain ⟨hread, hliteral⟩ := Form.mem_vars.mp hvar
      have hdeclared : (declareVariables literals s item .empty).contains t = true := by
        rw [declareVariables, contains_foldl_declareRepeated]
        simp [Form.readTokens_subset_atoms item hread, hliteral, hne]
      rw [hdeclared, Bool.true_or, Bool.true_or]
    · rw [ihRest hd hrest, Bool.or_true]
  | single item rest hmarker ih ihRest =>
    obtain ⟨first, others, c, d, rfl, hc, hd, rfl⟩ := (matchWhole_single_iff hmarker).mp h
    rw [Bindings.contains_append]
    rcases ht.of_single hmarker with hitem | hrest
    · rw [ih hc hitem, Bool.true_or]
    · rw [ihRest hd hrest, Bool.or_true]

end Bound

/-! ## Dispatch -/

section Dispatch

variable {r : String → String} {literals : TokenSet} {s : MatchSettings}

/-- A renamed template expands to the same form, if the tokens it copies keep their names. -/
theorem expandForm_rename (hr : Function.Injective r) {template : Form} {b : Bindings}
    (hfree : ∀ t ∈ template.readTokens s.ellipsis, b.contains t = false → r t = t) :
    expandForm (s.rename r) (template.rename r) (b.rename r) =
      mapBoth id (ExpandError.rename r) (expandForm s template b) := by
  rw [← Form.subst_self_fun]
  exact expandForm_image hr (b.image_rename hr) fun t ht hunbound =>
    congrArg Form.atom (hfree t ht hunbound).symm

theorem fire_rename (hr : Function.Injective r) {template : Form} {b : Bindings}
    (hfree : ∀ t ∈ template.readTokens s.ellipsis, b.contains t = false → r t = t)
    (index : Nat) :
    fire (s.rename r) index (template.rename r) (b.rename r) =
      mapBoth (Expansion.rename r) (DispatchError.rename r) (fire s index template b) := by
  rw [fire, expandForm_rename hr hfree, fire]
  cases expandForm s template b <;> rfl

theorem dispatchFrom_rename (hr : Function.Injective r)
    (hliterals : ∀ t, literals.contains t = true → r t = t) {rules : List Rule}
    (htemplates : ∀ rule ∈ rules, ∀ t ∈ rule.template.readTokens s.ellipsis,
      ¬ (s.matchedPart rule.pattern).AlwaysBound literals s.ellipsis t → r t = t)
    (form : Form) (start : Nat) :
    dispatchFrom literals (s.rename r) form start (rules.map (Rule.rename r)) =
      (dispatchFrom literals s form start rules).rename r := by
  induction rules generalizing start with
  | nil => rfl
  | cons rule rules ih =>
    have hmatch := matchRule_rename (s := s) hr hliterals rule.pattern form
    rw [List.map_cons]
    cases hrule : matchRule literals s rule.pattern form with
    | ok b =>
      -- what the template copies is unbound, and so no variable that the match had to bind
      have hfree : ∀ t ∈ rule.template.readTokens s.ellipsis, b.contains t = false → r t = t := by
        intro t ht hunbound
        refine htemplates rule List.mem_cons_self t ht fun hbound => ?_
        have := contains_of_alwaysBound (matchWhole_of_matchRule hrule) hbound
        rw [hunbound] at this
        cases this
      rw [hrule, mapBoth_ok] at hmatch
      have hrenamed : matchRule literals (s.rename r) (rule.rename r).pattern form =
          .ok (b.rename r) := hmatch
      rw [dispatchFrom_of_ok hrenamed, dispatchFrom_of_ok hrule]
      exact congrArg (Attempt.mk _) (fire_rename hr hfree start)
    | error reason =>
      rw [hrule, mapBoth_error] at hmatch
      have hrenamed : matchRule literals (s.rename r) (rule.rename r).pattern form =
          .error (reason.rename r) := hmatch
      rw [dispatchFrom_of_error hrenamed, dispatchFrom_of_error hrule,
        ih fun rule hrule => htemplates rule (List.mem_cons_of_mem _ hrule)]
      rfl

/-- **Names do not matter.** Let a renaming keep different tokens different, and let it keep the
    literals and every token that a template reads, other than the variables that each match of the
    rule's pattern binds. Under the renamed marker, the renamed rules do with a form what the rules
    do with it: the same rule fires with the same output and with renamed bindings, or the attempt
    fails with the renamed error, and the log is renamed. -/
theorem dispatch_rename (hr : Function.Injective r)
    (hliterals : ∀ t, literals.contains t = true → r t = t) {rules : List Rule}
    (htemplates : ∀ rule ∈ rules, ∀ t ∈ rule.template.readTokens s.ellipsis,
      ¬ (s.matchedPart rule.pattern).AlwaysBound literals s.ellipsis t → r t = t)
    (form : Form) :
    dispatch literals (s.rename r) (rules.map (Rule.rename r)) form =
      (dispatch literals s rules form).rename r :=
  dispatchFrom_rename hr hliterals htemplates form 0

/-- A rule that rejects a form and one with the pattern `(let ((name => value) ...) body)` that
    fires, and new names for `name` and for the marker. -/
theorem dispatch_rename_let :
    let r : String → String := Equiv.swap "name" "zeta" * Equiv.swap "..." "***"
    let literals : TokenSet := .ofList ["=>"]
    let s : MatchSettings := { ignoreKeyword := true }
    let rules : List Rule :=
      [⟨.list [.atom "let", .list [], .atom "body"], .atom "body"⟩,
        ⟨.list [.atom "let", .list [.list [.atom "name", .atom "=>", .atom "value"], .atom "..."],
            .atom "body"],
          .list [.list [.atom "fun", .list [.atom "name", .atom "..."], .atom "body"],
            .atom "value", .atom "..."]⟩]
    let form : Form := .list [.atom "m", .list [.list [.atom "a", .atom "=>", .atom "1"],
      .list [.atom "b", .atom "=>", .atom "2"]], .list [.atom "a", .atom "b"]]
    let output : Form := .list [.list [.atom "fun", .list [.atom "a", .atom "b"],
      .list [.atom "a", .atom "b"]], .atom "1", .atom "2"]
    (∀ rule ∈ rules, ∀ t ∈ rule.template.readTokens s.ellipsis,
        ¬ (s.matchedPart rule.pattern).AlwaysBound literals s.ellipsis t → r t = t) ∧
      (dispatch literals s rules form).result.map Expansion.output = .ok output ∧
      dispatch literals (s.rename r) (rules.map (Rule.rename r)) form =
        (dispatch literals s rules form).rename r := by
  intro r literals s rules form output
  have hr : Function.Injective r := Equiv.injective _
  have hliterals : ∀ t, literals.contains t = true → r t = t := by
    intro t ht
    rw [TokenSet.contains_ofList, decide_eq_true_iff, List.mem_singleton] at ht
    subst ht
    decide +kernel
  have htemplates : ∀ rule ∈ rules, ∀ t ∈ rule.template.readTokens s.ellipsis,
      ¬ (s.matchedPart rule.pattern).AlwaysBound literals s.ellipsis t → r t = t := by
    decide +kernel
  have houtput : (dispatch literals s rules form).result.map Expansion.output = .ok output := by
    decide +kernel
  exact ⟨htemplates, houtput, dispatch_rename hr hliterals htemplates form⟩

/-- In the pattern `((... x) ...)` the marker is a variable of a repeated part. The empty list
    leaves it unbound, the template copies it, and under another name of it the output is another
    one. -/
theorem dispatch_rename_marker_ne :
    let r : String → String := Equiv.swap "..." "---"
    let s : MatchSettings := {}
    let rule : Rule := ⟨.list [.list [.atom "...", .atom "x"], .atom "..."], .atom "..."⟩
    Function.Injective r ∧
      (∀ t, TokenSet.empty.contains t = true → r t = t) ∧
      (∀ t ∈ rule.template.readTokens s.ellipsis,
        t ∉ (s.matchedPart rule.pattern).vars .empty s.ellipsis → r t = t) ∧
      (dispatch .empty s [rule] (.list [])).result.map Expansion.output = .ok (.atom "...") ∧
      (dispatch .empty (s.rename r) [rule.rename r] (.list [])).result.map Expansion.output =
        .ok (.atom "---") := by
  intro r s rule
  exact ⟨Equiv.injective _, by simp, by decide +kernel, by decide +kernel, by decide +kernel⟩

end Dispatch

end MacroByExample
