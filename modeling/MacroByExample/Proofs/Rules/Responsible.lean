import MacroByExample.Proofs.Rules.Firing
import MacroByExample.Proofs.Rules.Precedence

/-!
# The rule that answers for an expansion

Definitions hand a form to the rule set that is responsible for it. An explanation looks that rule
set up a second time, on its own, and shows the rule at the index of the expansion. Both lookups
find the same rule set, and the rule at the index is the one that fired: the first whose pattern
matches.

* `DispatchError.IsLookup`: the errors of forms that no rules are found for.
* `Definitions.tryRules_of_rulesFor?`, `Definitions.exists_isLookup_of_rulesFor?`: trying rules, by
  what the second lookup finds.
* `rejects_of_tryRules`: the rules in front of the one that fired.
* `answers_for_expansion`: the rule that an explanation shows.
-/

namespace MacroByExample

/-! ## Errors of the lookup -/

/-- No rules are found for the form: it calls a name that has none, or it calls no name. -/
inductive DispatchError.IsLookup : DispatchError → Prop where
  | unknownMacro (name : String) (known : List String) : IsLookup (.unknownMacro name known)
  | notACall (form : Form) : IsLookup (.notACall form)

section Lookup

variable {literals : TokenSet} {s : MatchSettings} {form : Form} {e : Expansion}
  {error : DispatchError}

theorem not_isLookup_of_fire {index : Nat} {template : Form} {b : Bindings}
    (h : fire s index template b = .error error) : ¬ error.IsLookup := by
  unfold fire at h
  split at h
  · cases h
  · cases h
    exact nofun

/-- Rules that are tried have been found. -/
theorem RuleSet.not_isLookup_of_tryRules {r : RuleSet} (h : r.tryRules form = .error error) :
    ¬ error.IsLookup := by
  rw [RuleSet.tryRules] at h
  rcases exists_rejects r.literals r.settings form r.rules with
    ⟨reasons, hall⟩ | ⟨before, rule, after, reasons, b, hrules, hbefore, hrule⟩
  · rw [dispatch_of_rejects hall] at h
    cases h
    exact nofun
  · rw [hrules, dispatch_of_first hbefore hrule] at h
    exact not_isLookup_of_fire h

/-! ## Both lookups -/

namespace Definitions

variable {d : Definitions}

/-- The rule set that the lookup finds is the one that is tried. -/
theorem tryRules_of_rulesFor? {r : RuleSet} (h : d.rulesFor? form = some r) :
    d.tryRules form = r.tryRules form := by
  cases d with
  | single rules => rw [tryRules, Option.some.inj h]
  | table macros =>
    obtain ⟨name, hname, hrules⟩ := Option.bind_eq_some_iff.mp h
    simp only [tryRules, MacroTable.tryRules, hname, hrules]

/-- Where the lookup finds nothing, nothing is tried. -/
theorem exists_isLookup_of_rulesFor? (h : d.rulesFor? form = none) :
    ∃ error, d.tryRules form = .error error ∧ error.IsLookup := by
  cases d with
  | single rules => cases h
  | table macros =>
    cases hname : form.headToken? with
    | none =>
      simp only [tryRules, MacroTable.tryRules, hname]
      exact ⟨_, rfl, .notACall form⟩
    | some name =>
      have hrules : macros.get? name = none := by simpa [rulesFor?, hname] using h
      simp only [tryRules, MacroTable.tryRules, hname, hrules]
      exact ⟨_, rfl, .unknownMacro name macros.names⟩

/-- The lookup finds nothing exactly when this is the error of the form. -/
theorem rulesFor?_eq_none_iff :
    d.rulesFor? form = none ↔ ∃ error, d.tryRules form = .error error ∧ error.IsLookup := by
  refine ⟨exists_isLookup_of_rulesFor?, ?_⟩
  rintro ⟨error, herror, hlookup⟩
  cases hrules : d.rulesFor? form with
  | none => rfl
  | some r =>
    rw [tryRules_of_rulesFor? hrules] at herror
    exact absurd hlookup (RuleSet.not_isLookup_of_tryRules herror)

end Definitions

/-! ## The rule at the index -/

/-- The rules in front of the one that fired reject the form. -/
theorem rejects_of_tryRules {r : RuleSet} (h : r.tryRules form = .ok e) :
    ∃ reasons, Rejects r.literals r.settings form (r.rules.take e.index) reasons := by
  rcases exists_rejects r.literals r.settings form r.rules with
    ⟨reasons, hall⟩ | ⟨before, rule, after, reasons, b, hrules, hbefore, hrule⟩
  · rw [RuleSet.tryRules, dispatch_of_rejects hall] at h
    cases h
  · rw [RuleSet.tryRules, hrules, dispatch_of_first hbefore hrule] at h
    obtain ⟨hindex, -, -⟩ := fire_eq_ok h
    rw [hrules, hindex, List.take_left]
    exact ⟨reasons, hbefore⟩

end Lookup

/-- **The rule that is shown is the rule that fired.** Whenever definitions answer a form, the rule
set that the lookup finds for the form has a rule at the index of the expansion. The pattern of this
rule matches the form with the bindings of the expansion, its template expands with them to the
output, and no rule in front of it matches. The lookup finds no rule set exactly when the form is
refused because it calls an unknown name or no name at all. -/
theorem answers_for_expansion (d : Definitions) (form : Form) :
    (∀ e, d.tryRules form = .ok e →
      ∃ r rule, d.rulesFor? form = some r ∧ r.rules[e.index]? = some rule ∧
        matchRule r.literals r.settings rule.pattern form = .ok e.bindings ∧
        expandForm r.settings rule.template e.bindings = .ok e.output ∧
        ∀ earlier ∈ r.rules.take e.index,
          ∃ reason, matchRule r.literals r.settings earlier.pattern form = .error reason) ∧
    (d.rulesFor? form = none ↔
      (∃ name known, d.tryRules form = .error (.unknownMacro name known)) ∨
        ∃ found, d.tryRules form = .error (.notACall found)) := by
  constructor
  · intro e he
    cases hrules : d.rulesFor? form with
    | none =>
      obtain ⟨error, herror, -⟩ := Definitions.exists_isLookup_of_rulesFor? hrules
      rw [herror] at he
      cases he
    | some r =>
      rw [Definitions.tryRules_of_rulesFor? hrules] at he
      obtain ⟨rule, hrule, hfired⟩ := exists_firedBy_of_tryRules he
      obtain ⟨reasons, hrejects⟩ := rejects_of_tryRules he
      refine ⟨r, rule, rfl, hrule, hfired.matched, hfired.expanded, fun earlier hearlier => ?_⟩
      obtain ⟨reason, -, hreason⟩ := exists_of_forall₂_of_mem hrejects.flip hearlier
      exact ⟨reason, hreason⟩
  · rw [Definitions.rulesFor?_eq_none_iff]
    constructor
    · rintro ⟨_, herror, hlookup⟩
      cases hlookup with
      | unknownMacro name known => exact .inl ⟨name, known, herror⟩
      | notACall found => exact .inr ⟨found, herror⟩
    · rintro (⟨name, known, herror⟩ | ⟨found, herror⟩)
      · exact ⟨_, herror, .unknownMacro name known⟩
      · exact ⟨_, herror, .notACall found⟩

/-- A table of two names, one of them with a rule that rejects the form in front of the rule that
fires, and a form that calls neither. -/
theorem answers_for_expansion_table :
    let swap : RuleSet := ⟨.ofList ["twice"], [⟨.list [.atom "_", .atom "twice", .atom "x"],
      .list [.atom "x", .atom "x"]⟩, ⟨.list [.atom "_", .atom "x", .atom "y"],
      .list [.atom "y", .atom "x"]⟩], {}⟩
    let id : RuleSet := ⟨.empty, [⟨.list [.atom "_", .atom "x"], .atom "x"⟩], {}⟩
    let d : Definitions := .table ((MacroTable.empty.register "swap" swap).register "id" id)
    let form : Form := .list [.atom "swap", .atom "1", .list []]
    (∃ e, d.tryRules form = .ok e ∧ e.output = .list [.list [], .atom "1"] ∧
      ∃ r rule, d.rulesFor? form = some r ∧ r.rules[e.index]? = some rule ∧
        matchRule r.literals r.settings rule.pattern form = .ok e.bindings ∧
        expandForm r.settings rule.template e.bindings = .ok e.output ∧
        ∀ earlier ∈ r.rules.take e.index,
          ∃ reason, matchRule r.literals r.settings earlier.pattern form = .error reason) ∧
    d.tryRules (.list [.atom "rotate"]) = .error (.unknownMacro "rotate" ["id", "swap"]) ∧
      d.rulesFor? (.list [.atom "rotate"]) = none := by
  intro swap id d form
  obtain ⟨e, fired, output⟩ : ∃ e, d.tryRules form = .ok e ∧
      e.output = .list [.list [], .atom "1"] := ⟨_, rfl, by decide +kernel⟩
  have unknown : d.tryRules (.list [.atom "rotate"]) =
      .error (.unknownMacro "rotate" ["id", "swap"]) := by decide +kernel
  exact ⟨⟨e, fired, output, (answers_for_expansion d form).1 e fired⟩, unknown,
    (answers_for_expansion d (.list [.atom "rotate"])).2.mpr (.inl ⟨_, _, unknown⟩)⟩

end MacroByExample
