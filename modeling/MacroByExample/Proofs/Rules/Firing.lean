import MacroByExample.Proofs.Rules.Extension
import MacroByExample.Rules.Definitions

/-!
# The rule that fires

Forms define rule sets in several shapes, and all of them check the patterns of their rules. A form
that a rule set answers is answered by one of its rules: the pattern of that rule matched, and its
template expanded with the bindings of the match.

* `RuleSet.Loaded`: the rule sets that forms define.
* `RuleSet.Loaded.accepted`: the patterns of their rules pass the check.
* `exists_firedBy_of_tryRules`: the rule that answers a form.
-/

namespace MacroByExample

/-! ## Loaded rule sets -/

/-- The rule sets that forms define under the given settings. -/
inductive RuleSet.Loaded (s : MatchSettings) : RuleSet → Prop where
  /-- By a form `(syntax-rules (literal ...) clause ...)`. -/
  | ofForm {form : Form} {r : RuleSet} (h : RuleSet.ofForm s form = .ok r) : Loaded s r
  /-- By a form `(define-syntax name rules)`. -/
  | ofDefinition {form : Form} {name : String} {r : RuleSet}
      (h : definitionOfForm s form = .ok (name, r)) : Loaded s r
  /-- By a bundle `(form (literal ...) clause ...)`. -/
  | ofBundle {bundle form : Form} {r : RuleSet} (h : bundleOfForm s bundle = .ok (form, r)) :
      Loaded s r
  /-- By the forms of a text of definitions, as the rules that are responsible for a form. -/
  | ofDefinitions {forms : List Form} {d : Definitions} {form : Form} {r : RuleSet}
      (h : Definitions.ofForms s forms = .ok d) (hform : d.rulesFor? form = some r) : Loaded s r

section Loading

variable {s : MatchSettings} {r : RuleSet}

theorem exists_build_of_ofForm {form : Form} (h : RuleSet.ofForm s form = .ok r) :
    ∃ literals clauses, RuleSet.build s literals clauses = .ok r := by
  unfold RuleSet.ofForm at h
  split at h
  · split at h
    · split at h
      · cases h
      · exact ⟨_, _, h⟩
    · cases h
  · cases h

theorem exists_ofForm_of_definitionOfForm {form : Form} {name : String}
    (h : definitionOfForm s form = .ok (name, r)) : ∃ body, RuleSet.ofForm s body = .ok r := by
  unfold definitionOfForm at h
  split at h
  · next keyword name body =>
    split at h
    · split at h
      · obtain ⟨rules, hrules, heq⟩ := bind_eq_ok_iff.mp h
        cases heq
        exact ⟨body, hrules⟩
      · cases h
    · cases h
  · cases h

theorem exists_build_of_bundleOfForm {bundle form : Form}
    (h : bundleOfForm s bundle = .ok (form, r)) :
    ∃ literals clauses, RuleSet.build s literals clauses = .ok r := by
  unfold bundleOfForm at h
  split at h
  · next first literals clauses =>
    obtain ⟨rules, hbuild, heq⟩ := bind_eq_ok_iff.mp h
    cases heq
    exact ⟨literals, clauses, hbuild⟩
  · cases h

theorem MacroTable.get?_register (t : MacroTable) (name : String) (rules : RuleSet)
    (name' : String) :
    (t.register name rules).get? name' = if name' = name then some rules else t.get? name' :=
  TokenMap.get?_insert t.macros name rules name'

/-- The rules of a name were in the table before the definitions were added, or they are those of
    a definition. -/
theorem Definitions.get?_of_addDefinitions {forms : List Form} {macros macros' : MacroTable}
    (h : addDefinitions s macros forms = .ok macros') {name : String}
    (hname : macros'.get? name = some r) :
    macros.get? name = some r ∨ ∃ form ∈ forms, definitionOfForm s form = .ok (name, r) := by
  induction forms generalizing macros with
  | nil =>
    rw [addDefinitions] at h
    cases h
    exact .inl hname
  | cons form rest ih =>
    rw [addDefinitions] at h
    obtain ⟨⟨name', rules⟩, hform, hadd⟩ := bind_eq_ok_iff.mp h
    dsimp only at hadd
    split at hadd
    · cases hadd
    · rcases ih hadd with hold | ⟨other, hother, hdefines⟩
      · rw [MacroTable.get?_register] at hold
        split at hold
        · next heq =>
          cases hold
          subst heq
          exact .inr ⟨form, List.mem_cons_self, hform⟩
        · exact .inl hold
      · exact .inr ⟨other, List.mem_cons_of_mem _ hother, hdefines⟩

/-- What a table of definitions answers a form with was defined by one of them. -/
theorem exists_ofForm_of_addDefinitions {forms : List Form} {d : Definitions} {form : Form}
    (h : (Definitions.addDefinitions s .empty forms).map .table = .ok d)
    (hform : d.rulesFor? form = some r) : ∃ body, RuleSet.ofForm s body = .ok r := by
  obtain ⟨macros, hmacros, rfl⟩ := map_eq_ok_iff.mp h
  obtain ⟨name, -, hname⟩ := Option.bind_eq_some_iff.mp hform
  rcases Definitions.get?_of_addDefinitions hmacros hname with hnone | ⟨definition, -, hdefines⟩
  · cases hnone
  · exact exists_ofForm_of_definitionOfForm hdefines

theorem exists_ofForm_of_ofForms {forms : List Form} {d : Definitions} {form : Form}
    (h : Definitions.ofForms s forms = .ok d) (hform : d.rulesFor? form = some r) :
    ∃ body, RuleSet.ofForm s body = .ok r := by
  unfold Definitions.ofForms at h
  split at h
  · cases h
  · next single =>
    split at h
    · obtain ⟨rules, hrules, rfl⟩ := map_eq_ok_iff.mp h
      cases hform
      exact ⟨single, hrules⟩
    · exact exists_ofForm_of_addDefinitions h hform
  · exact exists_ofForm_of_addDefinitions h hform

/-- Every loaded rule set is built from literals and clauses. -/
theorem RuleSet.Loaded.exists_build (h : r.Loaded s) :
    ∃ literals clauses, RuleSet.build s literals clauses = .ok r := by
  cases h with
  | ofForm h => exact exists_build_of_ofForm h
  | ofDefinition h =>
    obtain ⟨body, hbody⟩ := exists_ofForm_of_definitionOfForm h
    exact exists_build_of_ofForm hbody
  | ofBundle h => exact exists_build_of_bundleOfForm h
  | ofDefinitions h hform =>
    obtain ⟨body, hbody⟩ := exists_ofForm_of_ofForms h hform
    exact exists_build_of_ofForm hbody

theorem checkPattern_of_ruleOfClause {clause : Form} {rule : Rule}
    (h : ruleOfClause s clause = .ok rule) : checkPattern s rule.pattern = .ok () := by
  unfold ruleOfClause at h
  split at h
  · next pattern template =>
    obtain ⟨_, hcheck, heq⟩ := bind_eq_ok_iff.mp h
    cases heq
    exact hcheck
  · cases h

/-- A rule set is built with the given settings, from patterns that pass the check. -/
theorem RuleSet.accepted_of_build {literals : Form} {clauses : List Form}
    (h : RuleSet.build s literals clauses = .ok r) :
    r.settings = s ∧ ∀ rule ∈ r.rules, checkPattern s rule.pattern = .ok () := by
  obtain ⟨tokens, -, h⟩ := bind_eq_ok_iff.mp h
  obtain ⟨rules, hrules, heq⟩ := bind_eq_ok_iff.mp h
  cases heq
  refine ⟨rfl, fun rule hrule => ?_⟩
  obtain ⟨clause, -, hclause⟩ := exists_of_forall₂_of_mem (mapM_eq_ok_iff.mp hrules) hrule
  exact checkPattern_of_ruleOfClause hclause

theorem RuleSet.Loaded.settings_eq (h : r.Loaded s) : r.settings = s := by
  obtain ⟨literals, clauses, hbuild⟩ := h.exists_build
  exact (RuleSet.accepted_of_build hbuild).1

theorem RuleSet.Loaded.accepted (h : r.Loaded s) {rule : Rule} (hrule : rule ∈ r.rules) :
    checkPattern s rule.pattern = .ok () := by
  obtain ⟨literals, clauses, hbuild⟩ := h.exists_build
  exact (RuleSet.accepted_of_build hbuild).2 rule hrule

end Loading

/-! ## Firing -/

/-- The expansion is what the rule makes of the form: its pattern matches with the bindings of the
    expansion, and its template expands with them to the output. -/
structure Expansion.FiredBy (literals : TokenSet) (s : MatchSettings) (rule : Rule) (form : Form)
    (e : Expansion) : Prop where
  matched : matchRule literals s rule.pattern form = .ok e.bindings
  expanded : expandForm s rule.template e.bindings = .ok e.output

section Firing

variable {literals : TokenSet} {s : MatchSettings} {form : Form} {e : Expansion}

theorem fire_eq_ok {index : Nat} {template : Form} {b : Bindings}
    (h : fire s index template b = .ok e) :
    e.index = index ∧ e.bindings = b ∧ expandForm s template b = .ok e.output := by
  unfold fire at h
  split at h
  · next output houtput =>
    cases h
    exact ⟨rfl, rfl, houtput⟩
  · cases h

theorem exists_firedBy_of_dispatchFrom {rules : List Rule} {start : Nat}
    (h : (dispatchFrom literals s form start rules).result = .ok e) :
    ∃ position rule, e.index = start + position ∧ rules[position]? = some rule ∧
      e.FiredBy literals s rule form := by
  induction rules generalizing start with
  | nil => simp [dispatchFrom] at h
  | cons rule rules ih =>
    rw [dispatchFrom] at h
    cases hmatch : matchRule literals s rule.pattern form with
    | ok b =>
      rw [hmatch] at h
      obtain ⟨hindex, hbindings, houtput⟩ := fire_eq_ok h
      rw [← hbindings] at hmatch houtput
      exact ⟨0, rule, hindex, rfl, hmatch, houtput⟩
    | error reason =>
      rw [hmatch] at h
      obtain ⟨position, other, hindex, hother, hfired⟩ := ih h
      exact ⟨position + 1, other, by omega, hother, hfired⟩

/-- The rule at the index of an expansion made it. -/
theorem exists_firedBy_of_tryRules {r : RuleSet} (h : r.tryRules form = .ok e) :
    ∃ rule, r.rules[e.index]? = some rule ∧ e.FiredBy r.literals r.settings rule form := by
  obtain ⟨position, rule, hindex, hrule, hfired⟩ := exists_firedBy_of_dispatchFrom h
  rw [Nat.zero_add] at hindex
  exact ⟨rule, by rw [hindex]; exact hrule, hfired⟩

end Firing

end MacroByExample
