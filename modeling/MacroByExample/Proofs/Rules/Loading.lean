import MacroByExample.Proofs.Except
import MacroByExample.Proofs.Rules.Position

/-!
# What the loader accepts

A rule set is written as `(syntax-rules (literal ...) (pattern template) ...)`. The literals are
atoms other than the ellipsis marker, and a pattern repeats on one level: wherever a marker stands
behind an item, the item does not contain the marker. Loading accepts the forms of this grammar and
no others, and keeps the literals, the rules in order and the settings. A named definition and a
bundle hold a rule set each, and load as the rule set does.

* `Form.HasPart`, `Form.Unnested`, `checkPattern_eq_ok_iff_unnested`: the patterns that pass the
  check.
* `Rule.clause`, `addLiterals_eq_ok_iff`, `mapM_ruleOfClause_eq_ok_iff`: literals and clauses.
* `IsRulesForm`, `ofForm_eq_ok_iff`: the forms that are rule sets.
* `bundleOfForm_list`, `definitionOfForm_eq_ok_iff`: bundles and definitions.
* `loads_iff`: what is accepted by each of the three.
-/

namespace MacroByExample

variable {s : MatchSettings}

/-! ## Patterns -/

namespace Form

/-- The second form is the first or stands inside of it, at any depth. -/
inductive HasPart : Form → Form → Prop where
  | self (f : Form) : HasPart f f
  | item {items : List Form} {f g : Form} (mem : f ∈ items) (part : HasPart f g) :
      HasPart (.list items) g

/-- In every list of the form, at any depth, an item with the marker right behind it does not
    contain the marker. -/
def Unnested (marker : String) (f : Form) : Prop :=
  ∀ items, f.HasPart (.list items) → ∀ item, [item, .atom marker] <:+: items →
    marker ∉ item.atoms

variable {marker : String}

theorem unnested_atom (t : String) : (Form.atom t).Unnested marker := by
  intro items h
  cases h

theorem unnested_list_iff {items : List Form} :
    (Form.list items).Unnested marker ↔
      (∀ item, [item, .atom marker] <:+: items → marker ∉ item.atoms) ∧
        ∀ f ∈ items, f.Unnested marker := by
  constructor
  · intro h
    exact ⟨h items (.self _), fun f hf inner hpart => h inner (.item hf hpart)⟩
  · rintro ⟨hitems, hparts⟩ inner hpart
    cases hpart with
    | self => exact hitems
    | item mem part => exact hparts _ mem inner part

end Form

/-- The search among the items of a list finds nothing where no item has a marker behind it and the
    marker inside, and where the search inside of each item finds nothing. -/
theorem nestedGroupAmong?_eq_none_iff {items : List Form} :
    nestedGroupAmong? s items = none ↔
      (∀ item, [item, .atom s.ellipsis] <:+: items → s.ellipsis ∉ item.atoms) ∧
        ∀ f ∈ items, nestedGroup? s f = none := by
  induction items with
  | nil => simp [nestedGroupAmong?]
  | cons first items ih =>
    have hmarker : items.head?.any s.isEllipsis = true ↔ [.atom s.ellipsis] <+: items := by
      cases items with
      | nil => simp
      | cons next rest =>
        rw [List.head?_cons, Option.any_some, MatchSettings.isEllipsis_iff, List.cons_prefix_cons,
          eq_comm]
        simp
    have hfirst : (items.head?.any s.isEllipsis && first.atoms.contains s.ellipsis) = false ↔
        ∀ item, [item, .atom s.ellipsis] <+: first :: items → s.ellipsis ∉ item.atoms := by
      rw [← Bool.not_eq_true, Bool.and_eq_true, hmarker]
      simp [List.cons_prefix_cons]
    simp only [List.infix_cons_iff, List.forall_mem_cons, or_imp, forall_and, ← hfirst]
    rw [nestedGroupAmong?]
    cases items.head?.any s.isEllipsis && first.atoms.contains s.ellipsis with
    | true => simp
    | false =>
      cases nestedGroup? s first with
      | some group => simp
      | none => simpa using ih

/-- A pattern passes the check exactly when no item that a marker stands behind contains the
    marker. -/
theorem checkPattern_eq_ok_iff_unnested {p : Form} :
    checkPattern s p = .ok () ↔ p.Unnested s.ellipsis := by
  rw [checkPattern_eq_ok_iff]
  induction p using Form.structuralInduction with
  | atom t => exact iff_of_true rfl (Form.unnested_atom t)
  | list items ih =>
    rw [nestedGroup?, nestedGroupAmong?_eq_none_iff, Form.unnested_list_iff]
    exact and_congr_right fun _ => forall₂_congr ih

/-! ## Literals -/

theorem addLiterals_eq_ok_iff {literals found : TokenSet} {items : List Form} :
    addLiterals s literals items = .ok found ↔
      ∃ tokens : List String, items = tokens.map .atom ∧ s.ellipsis ∉ tokens ∧
        found = tokens.foldl TokenSet.insert literals := by
  induction items generalizing literals with
  | nil => simp [addLiterals, eq_comm]
  | cons item items ih =>
    cases item with
    | list inner =>
      rw [addLiterals]
      refine iff_of_false nofun ?_
      rintro ⟨tokens, hitems, -⟩
      cases tokens with
      | nil => cases hitems
      | cons t tokens => cases hitems
    | atom t =>
      rw [addLiterals]
      by_cases ht : t = s.ellipsis
      · rw [if_pos ht]
        refine iff_of_false nofun ?_
        rintro ⟨tokens, hitems, hmarker, -⟩
        refine hmarker ?_
        have hmem : Form.atom t ∈ tokens.map Form.atom := hitems ▸ List.mem_cons_self
        simpa [ht] using hmem
      · rw [if_neg ht, ih]
        constructor
        · rintro ⟨tokens, rfl, hmarker, rfl⟩
          exact ⟨t :: tokens, rfl, by simp [Ne.symm ht, hmarker], rfl⟩
        · rintro ⟨tokens, hitems, hmarker, rfl⟩
          cases tokens with
          | nil => cases hitems
          | cons t' tokens =>
            cases hitems
            exact ⟨tokens, rfl, fun h => hmarker (List.mem_cons_of_mem _ h), rfl⟩

theorem literalSet_eq_ok_iff {form : Form} {literals : TokenSet} :
    literalSet s form = .ok literals ↔
      ∃ tokens : List String, form = .list (tokens.map .atom) ∧ s.ellipsis ∉ tokens ∧
        literals = .ofList tokens := by
  cases form with
  | atom t => simp [literalSet]
  | list items => simp [literalSet, addLiterals_eq_ok_iff, TokenSet.ofList]

/-! ## Rules -/

/-- The clause `(pattern template)` of a rule. -/
def Rule.clause (rule : Rule) : Form :=
  .list [rule.pattern, rule.template]

theorem ruleOfClause_eq_ok_iff {clause : Form} {rule : Rule} :
    ruleOfClause s clause = .ok rule ↔
      clause = rule.clause ∧ rule.pattern.Unnested s.ellipsis := by
  constructor
  · intro h
    unfold ruleOfClause at h
    split at h
    · obtain ⟨⟨⟩, hpattern, heq⟩ := bind_eq_ok_iff.mp h
      cases heq
      exact ⟨rfl, checkPattern_eq_ok_iff_unnested.mp hpattern⟩
    · cases h
  · rintro ⟨rfl, hpattern⟩
    rw [Rule.clause, ruleOfClause, checkPattern_eq_ok_iff_unnested.mpr hpattern]
    rfl

theorem mapM_ruleOfClause_eq_ok_iff {clauses : List Form} {rules : List Rule} :
    clauses.mapM (ruleOfClause s) = .ok rules ↔
      clauses = rules.map Rule.clause ∧ ∀ rule ∈ rules, rule.pattern.Unnested s.ellipsis := by
  rw [mapM_eq_ok_iff]
  induction rules generalizing clauses with
  | nil => simp
  | cons rule rules ih =>
    rw [List.forall₂_cons_right_iff]
    constructor
    · rintro ⟨clause, rest, hclause, hrest, rfl⟩
      obtain ⟨rfl, hrule⟩ := ruleOfClause_eq_ok_iff.mp hclause
      obtain ⟨rfl, hrules⟩ := ih.mp hrest
      exact ⟨rfl, List.forall_mem_cons.mpr ⟨hrule, hrules⟩⟩
    · rintro ⟨rfl, hall⟩
      obtain ⟨hrule, hrules⟩ := List.forall_mem_cons.mp hall
      exact ⟨_, _, ruleOfClause_eq_ok_iff.mpr ⟨rfl, hrule⟩, ih.mpr ⟨rfl, hrules⟩, rfl⟩

/-! ## Rule sets -/

/-- The form `(syntax-rules literals clause ...)`. -/
def rulesForm (literals : Form) (clauses : List Form) : Form :=
  .list (.atom rulesKeyword :: literals :: clauses)

/-- The form `(define-syntax name (syntax-rules literals clause ...))`. -/
def definitionForm (name : String) (literals : Form) (clauses : List Form) : Form :=
  .list [.atom definitionKeyword, .atom name, rulesForm literals clauses]

theorem ofForm_rulesForm {literals : Form} {clauses : List Form} :
    RuleSet.ofForm s (rulesForm literals clauses) = RuleSet.build s literals clauses := by
  rw [rulesForm, RuleSet.ofForm, if_pos rfl]

theorem bundleOfForm_list {literals : Form} {clauses : List Form} (form : Form) :
    bundleOfForm s (.list (form :: literals :: clauses)) =
      (RuleSet.build s literals clauses).map fun rules => (form, rules) := by
  rw [bundleOfForm]
  cases RuleSet.build s literals clauses <;> rfl

/-- The form lists the tokens as literals, none of them the ellipsis marker, and has a clause for
    each of the rules in order, none of whose patterns nests repetitions. -/
structure IsRulesForm (s : MatchSettings) (tokens : List String) (rules : List Rule)
    (form : Form) : Prop where
  form_eq : form = rulesForm (.list (tokens.map .atom)) (rules.map Rule.clause)
  ellipsis_notMem : s.ellipsis ∉ tokens
  unnested : ∀ rule ∈ rules, rule.pattern.Unnested s.ellipsis

theorem build_eq_ok_iff {literals : Form} {clauses : List Form} {r : RuleSet} :
    RuleSet.build s literals clauses = .ok r ↔
      ∃ tokens : List String, IsRulesForm s tokens r.rules (rulesForm literals clauses) ∧
        r = ⟨.ofList tokens, r.rules, s⟩ := by
  rw [RuleSet.build, bind_eq_ok_iff]
  constructor
  · rintro ⟨set, hliterals, h⟩
    obtain ⟨rules, hrules, heq⟩ := bind_eq_ok_iff.mp h
    cases heq
    obtain ⟨tokens, rfl, hmarker, rfl⟩ := literalSet_eq_ok_iff.mp hliterals
    obtain ⟨rfl, hunnested⟩ := mapM_ruleOfClause_eq_ok_iff.mp hrules
    exact ⟨tokens, ⟨rfl, hmarker, hunnested⟩, rfl⟩
  · rintro ⟨tokens, ⟨hform, hmarker, hunnested⟩, hr⟩
    obtain ⟨rfl, rfl⟩ : literals = .list (tokens.map .atom) ∧ clauses = r.rules.map Rule.clause :=
      by simpa [rulesForm] using hform
    refine ⟨_, literalSet_eq_ok_iff.mpr ⟨tokens, rfl, hmarker, rfl⟩, ?_⟩
    rw [mapM_ruleOfClause_eq_ok_iff.mpr ⟨rfl, hunnested⟩, hr]
    rfl

/-- A form is a rule set exactly when the grammar allows it, and holds its literals and rules. -/
theorem ofForm_eq_ok_iff {form : Form} {r : RuleSet} :
    RuleSet.ofForm s form = .ok r ↔
      ∃ tokens : List String, IsRulesForm s tokens r.rules form ∧
        r = ⟨.ofList tokens, r.rules, s⟩ := by
  constructor
  · intro h
    unfold RuleSet.ofForm at h
    split at h
    · next keyword rest =>
      split at h
      · next hkeyword =>
        subst hkeyword
        split at h
        · cases h
        · exact build_eq_ok_iff.mp h
      · cases h
    · cases h
  · rintro ⟨tokens, hform, hr⟩
    have heq := hform.form_eq
    subst heq
    rw [ofForm_rulesForm]
    exact build_eq_ok_iff.mpr ⟨tokens, hform, hr⟩

/-- A form is a definition exactly when its keyword is followed by a name and a rule set. -/
theorem definitionOfForm_eq_ok_iff {form : Form} {name : String} {r : RuleSet} :
    definitionOfForm s form = .ok (name, r) ↔
      ∃ body, form = .list [.atom definitionKeyword, .atom name, body] ∧
        RuleSet.ofForm s body = .ok r := by
  constructor
  · intro h
    unfold definitionOfForm at h
    split at h
    · next keyword name' body =>
      split at h
      · next hkeyword =>
        subst hkeyword
        split at h
        · obtain ⟨rules, hrules, heq⟩ := bind_eq_ok_iff.mp h
          cases heq
          exact ⟨body, rfl, hrules⟩
        · cases h
      · cases h
    · cases h
  · rintro ⟨body, rfl, hbody⟩
    rw [definitionOfForm, if_pos rfl]
    simp only [hbody]
    rfl

/-- **What the loader accepts.** A form is a rule set exactly when it is
`(syntax-rules (literal ...) (pattern template) ...)`, its literals being atoms other than the
ellipsis marker and none of its patterns having, at any depth, an item that contains the marker with
the marker right behind it; the rule set then holds these literals and no others, these rules in
order and the given settings. The definitions are the forms `(define-syntax name body)` whose body is
a rule set, which they name. A bundle holds the form it starts with and the rule set that is written
by its other items, or fails with the same error. -/
theorem loads_iff (s : MatchSettings) :
    (∀ form, (∃ r, RuleSet.ofForm s form = .ok r) ↔
      ∃ tokens rules, IsRulesForm s tokens rules form) ∧
    (∀ form r, RuleSet.ofForm s form = .ok r ↔
      ∃ tokens, IsRulesForm s tokens r.rules form ∧
        (∀ t, r.literals.contains t = true ↔ t ∈ tokens) ∧ r.settings = s) ∧
    (∀ form name r, definitionOfForm s form = .ok (name, r) ↔
      ∃ body, form = .list [.atom definitionKeyword, .atom name, body] ∧
        RuleSet.ofForm s body = .ok r) ∧
    ∀ form literals clauses, bundleOfForm s (.list (form :: literals :: clauses)) =
      (RuleSet.ofForm s (rulesForm literals clauses)).map fun r => (form, r) := by
  refine ⟨?accepts, ?result, fun _ _ _ => definitionOfForm_eq_ok_iff, ?bundle⟩
  case accepts =>
    intro form
    constructor
    · rintro ⟨r, hr⟩
      obtain ⟨tokens, hform, -⟩ := ofForm_eq_ok_iff.mp hr
      exact ⟨tokens, r.rules, hform⟩
    · rintro ⟨tokens, rules, hform⟩
      exact ⟨⟨.ofList tokens, rules, s⟩, ofForm_eq_ok_iff.mpr ⟨tokens, hform, rfl⟩⟩
  case result =>
    intro form r
    rw [ofForm_eq_ok_iff]
    refine exists_congr fun tokens => and_congr_right fun _ => ?_
    constructor
    · intro hr
      rw [hr]
      exact ⟨fun t => by simp, rfl⟩
    · rintro ⟨hliterals, rfl⟩
      have hset : r.literals = .ofList tokens := by
        apply TokenSet.ext_contains
        intro t
        rw [TokenSet.contains_ofList, Bool.eq_iff_iff, hliterals, decide_eq_true_iff]
      rw [← hset]
  case bundle =>
    intro form literals clauses
    rw [bundleOfForm_list, ofForm_rulesForm]

end MacroByExample
