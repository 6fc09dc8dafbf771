import MacroByExample.Proofs.Rules.RoundTrip

/-!
# Repeated rules

A rule whose pattern and template are both repeated maps the rule that it repeats over the items of
a list: it matches if that rule matches every item, and expands to the list of its expansions. That
the variables are marked as repeated in the one rule and not in the other makes no difference, also
for the repeated parts inside the template.

* `exists_rounds_of_repeated`: the rounds of a repeated pattern, and the bindings of all of them.
* `repeated_rule_eq_mapM`: a repeated rule maps the rule that it repeats.
-/

namespace MacroByExample

variable {literals : TokenSet} {s : MatchSettings} {p q : Form}

/-- A repeated pattern matches a list if the pattern matches each of its items. -/
theorem exists_matchWhole_repeated_iff {forms : List Form} :
    (∃ b, matchWhole literals s (.list [p, .atom s.ellipsis]) (.list forms) = .ok b) ↔
      ∀ form ∈ forms, ∃ round, matchWhole literals s p form = .ok round := by
  constructor
  · rintro ⟨b, h⟩ form hform
    obtain ⟨forms', rounds, d, heq, hrounds, -, -⟩ := matchWhole_repeated_iff.mp h
    cases heq
    obtain ⟨round, -, hround⟩ := exists_of_forall₂_of_mem hrounds.flip hform
    exact ⟨round, hround⟩
  · intro h
    obtain ⟨rounds, hrounds⟩ : ∃ rounds, List.Forall₂
        (fun form round => matchWhole literals s p form = .ok round) forms rounds := by
      induction forms with
      | nil => exact ⟨[], .nil⟩
      | cons form forms ih =>
        obtain ⟨round, hround⟩ := h form List.mem_cons_self
        obtain ⟨rounds, hrounds⟩ := ih fun form hform => h form (List.mem_cons_of_mem _ hform)
        exact ⟨round :: rounds, .cons hround hrounds⟩
    exact ⟨_, matchWhole_repeated_iff.mpr
      ⟨forms, rounds, .empty, rfl, hrounds, matchWhole_nil_iff.mpr ⟨.inl rfl, rfl⟩, rfl⟩⟩

/-- The bindings of a repeated pattern are those of its rounds, in order, with all variables
    declared. -/
theorem exists_rounds_of_repeated {forms : List Form} {b : Bindings}
    (h : matchWhole literals s (.list [p, .atom s.ellipsis]) (.list forms) = .ok b) :
    ∃ rounds, List.Forall₂ (fun form round => matchWhole literals s p form = .ok round)
        forms rounds ∧
      b = declareVariables literals s p .empty ++ Bindings.concat rounds := by
  obtain ⟨forms', rounds, d, heq, hrounds, hd, rfl⟩ := matchWhole_repeated_iff.mp h
  cases heq
  obtain ⟨-, rfl⟩ := matchWhole_nil_iff.mp hd
  exact ⟨rounds, hrounds, by rw [Bindings.append_empty]⟩

section Template

variable {rounds : List Bindings} (hp : s.ellipsis ∉ p.atoms)
  (hlinear : (p.vars literals s.ellipsis).Nodup)
  (hshapes : ∀ round ∈ rounds, round.Shape (p.vars literals s.ellipsis) [])
include hp hlinear hshapes

/-- A template that mentions a variable is repeated once for each round. -/
theorem repetitions_of_rounds (mentions : ∃ t ∈ q.atoms, t ∈ p.vars literals s.ellipsis) :
    repetitions (declareVariables literals s p .empty ++ Bindings.concat rounds) q =
      .ok rounds.length := by
  have hshape := shape_of_rounds hp hshapes
  obtain ⟨t, ht, hvar⟩ := mentions
  refine repetitions_eq_ok (drivers_ne_nil ht ((hshape.contains_iff t).mpr hvar)) fun u hu => ?_
  have huvar : u ∈ p.vars literals s.ellipsis := (hshape.contains_iff u).mp (mem_drivers.mp hu).2.1
  have hone : ∀ round ∈ rounds, (round.captured u).length = 1 := by
    intro round hround
    rw [(hshapes round hround).length_captured u (by simp), List.count_eq_one_of_mem hlinear huvar]
  rw [captured_declareVariables_append, length_captured_concat hone, Nat.mul_one]

/-- A repeated template expands in each round as it does with the bindings of that round alone. -/
theorem expandForm_repeated_of_rounds
    (mentions : ∃ t ∈ q.atoms, t ∈ p.vars literals s.ellipsis) :
    expandForm s (.list [q, .atom s.ellipsis])
        (declareVariables literals s p .empty ++ Bindings.concat rounds) =
      (rounds.mapM (expandForm s q)).map .list := by
  have hshape := shape_of_rounds hp hshapes
  have hround : (List.range rounds.length).mapM (fun round => expandForm s q
      (narrow (declareVariables literals s p .empty ++ Bindings.concat rounds)
        (drivers (declareVariables literals s p .empty ++ Bindings.concat rounds) q) round)) =
      rounds.mapM (expandForm s q) := by
    refine mapM_range_eq rounds fun i hi => ?_
    refine expandForm_narrow_of_rounds hlinear hshapes (fun t _ => hshape.contains_iff t)
      (fun t ht => ?_) (fun t _ => captured_declareVariables_append _ t) hi
    exact (hshape.isRepeated_iff t).mpr ⟨_, List.mem_singleton_self _, ht⟩
  rw [expandForm, expandItems_repeated, repetitions_of_rounds hp hlinear hshapes mentions,
    Except.bind, hround]
  cases rounds.mapM (expandForm s q) with
  | error e => rfl
  | ok forms => simp [Except.bind, Except.map, expandItems]

end Template

/-- **A repeated rule maps the rule that it repeats.** Let a pattern be without the marker and let
    none of its variables occur twice, and let a template mention one of them. The repeated pattern
    matches a list if the pattern matches each item; and then the repeated template expands to the
    list of the expansions for the items, or fails as the first of them that fails. -/
theorem repeated_rule_eq_mapM (markerFree : s.ellipsis ∉ p.atoms)
    (linear : (p.vars literals s.ellipsis).Nodup)
    (mentions : ∃ t ∈ q.atoms, t ∈ p.vars literals s.ellipsis) (forms : List Form) :
    ((∃ b, matchWhole literals s (.list [p, .atom s.ellipsis]) (.list forms) = .ok b) ↔
      ∀ form ∈ forms, ∃ round, matchWhole literals s p form = .ok round) ∧
    ∀ b, matchWhole literals s (.list [p, .atom s.ellipsis]) (.list forms) = .ok b →
      ∃ rounds, List.Forall₂ (fun form round => matchWhole literals s p form = .ok round)
          forms rounds ∧
        expandForm s (.list [q, .atom s.ellipsis]) b =
          (rounds.mapM (expandForm s q)).map .list := by
  refine ⟨exists_matchWhole_repeated_iff, fun b matched => ?_⟩
  obtain ⟨rounds, hrounds, rfl⟩ := exists_rounds_of_repeated matched
  have hshapes : ∀ round ∈ rounds, round.Shape (p.vars literals s.ellipsis) [] := by
    intro round hround
    obtain ⟨form, -, hform⟩ := exists_of_forall₂_of_mem hrounds hround
    have hshape := shape_of_matchWhole (.of_notMem markerFree) hform
    rwa [Form.repeatedParts_eq_nil markerFree, List.map_nil] at hshape
  exact ⟨rounds, hrounds, expandForm_repeated_of_rounds markerFree linear hshapes mentions⟩

/-- The pattern `(k (v =>))` under the lenient policy, and the template `(put k ((v k) ...) end)`,
    which has a repeated part of its own. -/
theorem repeated_rule_eq_mapM_put :
    let s : MatchSettings := { trailing := .lenient }
    let literals : TokenSet := .ofList ["=>"]
    let p : Form := .list [.atom "k", .list [.atom "v", .atom "=>"]]
    let q : Form := .list [.atom "put", .atom "k",
      .list [.list [.atom "v", .atom "k"], .atom "..."], .atom "end"]
    let forms : List Form := [.list [.atom "a", .list [.atom "1", .atom "=>"]],
      .list [.atom "b", .list [.list [.atom "2"], .atom "=>", .atom "3"], .atom "4"]]
    s.ellipsis ∉ p.atoms ∧ (∃ t ∈ q.atoms, t ∈ p.vars literals s.ellipsis) ∧
      ∃ b, matchWhole literals s (.list [p, .atom s.ellipsis]) (.list forms) = .ok b ∧
        ∃ rounds, List.Forall₂ (fun form round => matchWhole literals s p form = .ok round)
            forms rounds ∧
          expandForm s (.list [q, .atom s.ellipsis]) b =
            (rounds.mapM (expandForm s q)).map .list := by
  intro s literals p q forms
  have markerFree : s.ellipsis ∉ p.atoms := by decide +kernel
  have mentions : ∃ t ∈ q.atoms, t ∈ p.vars literals s.ellipsis := by decide +kernel
  obtain ⟨b, matched⟩ :
      ∃ b, matchWhole literals s (.list [p, .atom s.ellipsis]) (.list forms) = .ok b := ⟨_, rfl⟩
  obtain ⟨-, maps⟩ := repeated_rule_eq_mapM markerFree (by decide +kernel) mentions forms
  exact ⟨markerFree, mentions, b, matched, maps b matched⟩

end MacroByExample
