import MacroByExample.Proofs.Rules.Extension
import MacroByExample.Proofs.Rules.Precedence

/-!
# Strict and lenient matching

Under the lenient policy a list pattern that has run out takes whatever is left of a list, and an
empty list pattern takes an atom. What is let through in this way is captured by no variable. So a
match that succeeds under the strict policy succeeds under the lenient one with the same bindings,
and a match that succeeds under the lenient policy succeeds under the strict one, again with the
same bindings, once what was let through is pruned away.

* `Form.PruningOf`: a form that has lost the ends of some lists and the tokens of some atoms.
* `matchWhole_lenient`, `matchRule_lenient`: matches under the lenient policy.
* `exists_pruning_of_matchWhole`, `exists_pruning_of_matchRule`: matches under the strict policy.
* `matchRule_trailing`: how the two policies compare, for patterns and for lists of rules.
-/

namespace MacroByExample

/-! ## Pruning -/

/-- What is left of a form after pruning: some lists have lost items at their end, and some atoms
    have become empty lists. -/
inductive Form.PruningOf : Form → Form → Prop where
  /-- An atom stays as it is. -/
  | kept (t : String) : PruningOf (.atom t) (.atom t)
  /-- An atom becomes the empty list. -/
  | emptied (t : String) : PruningOf (.list []) (.atom t)
  /-- A list keeps prunings of its first items and loses the items behind them. -/
  | cut {items first dropped : List Form} (h : List.Forall₂ PruningOf items first) :
    PruningOf (.list items) (.list (first ++ dropped))

namespace Form.PruningOf

/-- A list may keep all its items. -/
theorem of_forall₂ {items all : List Form} (h : List.Forall₂ PruningOf items all) :
    (Form.list items).PruningOf (.list all) := by
  rw [← List.append_nil all]
  exact cut h

theorem refl (f : Form) : f.PruningOf f := by
  induction f using structuralInduction with
  | atom t => exact .kept t
  | list items ih =>
    exact of_forall₂ (List.forall₂_same.mpr ih)

/-- Everything can be pruned away but an empty list. -/
theorem nil (f : Form) : (Form.list []).PruningOf f := by
  cases f with
  | atom t => exact .emptied t
  | list items =>
    have hcut : (Form.list []).PruningOf (.list ([] ++ items)) := cut .nil
    exact hcut

/-- A pruning of a list is a list. -/
theorem exists_of_list {pruned : Form} {items : List Form} (h : pruned.PruningOf (.list items)) :
    ∃ kept first dropped, pruned = .list kept ∧ items = first ++ dropped ∧
      List.Forall₂ PruningOf kept first := by
  generalize hlist : Form.list items = form at h
  cases h with
  | kept t => cases hlist
  | emptied t => cases hlist
  | cut h =>
    cases hlist
    exact ⟨_, _, _, rfl, rfl, h⟩

theorem eq_of_nil {pruned : Form} (h : pruned.PruningOf (.list [])) : pruned = .list [] := by
  obtain ⟨kept, first, dropped, rfl, hnil, hkept⟩ := exists_of_list h
  rw [(List.append_eq_nil_iff.mp hnil.symm).1, List.forall₂_nil_right_iff] at hkept
  rw [hkept]

/-- A list with one more item in front is pruned item by item. -/
theorem cons {item pruned : Form} {items kept : List Form} (hitem : pruned.PruningOf item)
    (h : (Form.list kept).PruningOf (.list items)) :
    (Form.list (pruned :: kept)).PruningOf (.list (item :: items)) := by
  obtain ⟨_, first, dropped, heq, rfl, hkept⟩ := exists_of_list h
  cases heq
  exact cut (.cons hitem hkept)

end Form.PruningOf

/-! ## Policies -/

/-- The settings with another policy for what is left of a list. -/
def MatchSettings.withTrailing (s : MatchSettings) (policy : TrailingPolicy) : MatchSettings :=
  { s with trailing := policy }

section Trailing

variable {literals : TokenSet} {s : MatchSettings} {pattern form : Form} {b : Bindings}

/-! ## The lenient policy -/

/-- A pattern that matches under some policy matches under the lenient one. -/
theorem matchWhole_lenient (h : matchWhole literals s pattern form = .ok b) :
    matchWhole literals (s.withTrailing .lenient) pattern form = .ok b := by
  induction pattern using Form.markerInduction s.ellipsis generalizing form b with
  | atom t => exact h
  | nil =>
    obtain ⟨-, rfl⟩ := matchWhole_nil_iff.mp h
    exact matchWhole_nil_iff.mpr ⟨.inr rfl, rfl⟩
  | repeated item rest ih ihRest =>
    obtain ⟨forms, rounds, d, rfl, hrounds, hd, rfl⟩ := matchWhole_repeated_iff.mp h
    have hlenient := hrounds.imp fun form round (hround : matchWhole _ _ item form = .ok round) =>
      ih hround
    exact matchWhole_repeated_iff.mpr ⟨forms, rounds, d, rfl, hlenient, ihRest hd, rfl⟩
  | single item rest hmarker ih ihRest =>
    obtain ⟨first, others, c, d, rfl, hc, hd, rfl⟩ := (matchWhole_single_iff hmarker).mp h
    exact (matchWhole_single_iff (s := s.withTrailing .lenient) hmarker).mpr
      ⟨first, others, c, d, rfl, ih hc, ihRest hd, rfl⟩

theorem matchRule_lenient (h : matchRule literals s pattern form = .ok b) :
    matchRule literals (s.withTrailing .lenient) pattern form = .ok b := by
  cases hkeyword : s.ignoreKeyword with
  | false =>
    rw [matchRule_of_whole hkeyword] at h
    rw [matchRule_of_whole (s := s.withTrailing .lenient) hkeyword]
    exact matchWhole_lenient h
  | true =>
    obtain ⟨keyword, patterns, first, forms, rfl, rfl, hforms⟩ :=
      (matchRule_keyword_iff hkeyword).mp h
    exact (matchRule_keyword_iff (s := s.withTrailing .lenient) hkeyword).mpr
      ⟨keyword, patterns, first, forms, rfl, rfl, matchWhole_lenient hforms⟩

/-! ## The strict policy -/

/-- A pattern that matches under some policy matches a pruning of the form under the strict one. -/
theorem exists_pruning_of_matchWhole (h : matchWhole literals s pattern form = .ok b) :
    ∃ pruned : Form, pruned.PruningOf form ∧
      matchWhole literals (s.withTrailing .strict) pattern pruned = .ok b := by
  induction pattern using Form.markerInduction s.ellipsis generalizing form b with
  | atom t => exact ⟨form, .refl form, h⟩
  | nil =>
    obtain ⟨-, rfl⟩ := matchWhole_nil_iff.mp h
    exact ⟨.list [], .nil form, matchWhole_nil_iff.mpr ⟨.inl rfl, rfl⟩⟩
  | repeated item rest ih ihRest =>
    obtain ⟨forms, rounds, d, rfl, hrounds, hd, rfl⟩ := matchWhole_repeated_iff.mp h
    obtain ⟨kept, hkept, hstrict⟩ := exists_forall₂_of_forall₂
      (fun form round (hround : matchWhole _ _ item form = .ok round) => ih hround) hrounds
    obtain ⟨pruned, hpruned, hrest⟩ := ihRest hd
    -- the rest is matched against no items, so there is nothing to prune
    rw [hpruned.eq_of_nil] at hrest
    exact ⟨.list kept, .of_forall₂ hkept,
      matchWhole_repeated_iff.mpr ⟨kept, rounds, d, rfl, hstrict, hrest, rfl⟩⟩
  | single item rest hmarker ih ihRest =>
    obtain ⟨first, others, c, d, rfl, hc, hd, rfl⟩ := (matchWhole_single_iff hmarker).mp h
    obtain ⟨prunedFirst, hfirst, hstrictFirst⟩ := ih hc
    obtain ⟨prunedOthers, hothers, hstrictOthers⟩ := ihRest hd
    obtain ⟨kept, _, _, rfl, -, -⟩ := hothers.exists_of_list
    refine ⟨.list (prunedFirst :: kept), hfirst.cons hothers, ?_⟩
    exact (matchWhole_single_iff (s := s.withTrailing .strict) hmarker).mpr
      ⟨prunedFirst, kept, c, d, rfl, hstrictFirst, hstrictOthers, rfl⟩

theorem exists_pruning_of_matchRule (h : matchRule literals s pattern form = .ok b) :
    ∃ pruned : Form, pruned.PruningOf form ∧
      matchRule literals (s.withTrailing .strict) pattern pruned = .ok b := by
  cases hkeyword : s.ignoreKeyword with
  | false =>
    rw [matchRule_of_whole hkeyword] at h
    obtain ⟨pruned, hpruned, hstrict⟩ := exists_pruning_of_matchWhole h
    rw [← matchRule_of_whole (s := s.withTrailing .strict) hkeyword] at hstrict
    exact ⟨pruned, hpruned, hstrict⟩
  | true =>
    obtain ⟨keyword, patterns, first, forms, rfl, rfl, hforms⟩ :=
      (matchRule_keyword_iff hkeyword).mp h
    obtain ⟨pruned, hpruned, hstrict⟩ := exists_pruning_of_matchWhole hforms
    obtain ⟨kept, _, _, rfl, -, -⟩ := hpruned.exists_of_list
    refine ⟨.list (first :: kept), (Form.PruningOf.refl first).cons hpruned, ?_⟩
    exact (matchRule_keyword_iff (s := s.withTrailing .strict) hkeyword).mpr
      ⟨keyword, patterns, first, kept, rfl, rfl, hstrict⟩

/-! ## Both policies -/

/-- The first rule that matches under the lenient policy is no later than under any other. -/
theorem exists_firstMatch?_lenient {rules : List Rule} {i : Nat}
    (h : firstMatch? literals s form rules = some i) :
    ∃ j ≤ i, firstMatch? literals (s.withTrailing .lenient) form rules = some j := by
  refine List.findIdx?_eq_some_le_of_findIdx?_eq_some (fun rule _ hrule => ?_) h
  obtain ⟨b, hb⟩ := isOk_iff.mp hrule
  exact isOk_iff.mpr ⟨b, matchRule_lenient hb⟩

end Trailing

/-- **Strict and lenient matching.** A pattern that matches a form under the strict policy matches
it under the lenient one with the same bindings. A pattern that matches a form under the lenient
policy matches a pruning of the form under the strict one, again with the same bindings. So the
first of several rules that matches, which is the rule that decides, is under the lenient policy no
later than under the strict one. -/
theorem matchRule_trailing (literals : TokenSet) (s : MatchSettings) :
    (∀ pattern form b, matchRule literals (s.withTrailing .strict) pattern form = .ok b →
      matchRule literals (s.withTrailing .lenient) pattern form = .ok b) ∧
    (∀ pattern form b, matchRule literals (s.withTrailing .lenient) pattern form = .ok b →
      ∃ pruned : Form, pruned.PruningOf form ∧
        matchRule literals (s.withTrailing .strict) pattern pruned = .ok b) ∧
    ∀ form rules i, firstMatch? literals (s.withTrailing .strict) form rules = some i →
      (dispatch literals (s.withTrailing .strict) rules form).decider? = some i ∧
      ∃ j ≤ i, firstMatch? literals (s.withTrailing .lenient) form rules = some j ∧
        (dispatch literals (s.withTrailing .lenient) rules form).decider? = some j := by
  refine ⟨fun _ _ _ => matchRule_lenient, fun _ _ _ => exists_pruning_of_matchRule, ?_⟩
  intro form rules i hi
  obtain ⟨j, hji, hj⟩ := exists_firstMatch?_lenient hi
  have hlenient : firstMatch? literals (s.withTrailing .lenient) form rules = some j := hj
  exact ⟨(decider?_dispatch _ _ _ _).trans hi, j, hji, hlenient,
    (decider?_dispatch _ _ _ _).trans hlenient⟩

/-- The pattern `(let () ((name => value) ...) body)`, with its keyword left out, against a form with
an atom for the empty list and surplus items in the repeated part and at the end. The strict policy
leaves the form to a rule behind it. -/
theorem matchRule_trailing_let :
    let literals : TokenSet := .ofList ["=>"]
    let s : MatchSettings := { ignoreKeyword := true }
    let pattern : Form := .list [.atom "let", .list [],
      .list [.list [.atom "name", .atom "=>", .atom "value"], .atom "..."], .atom "body"]
    let exact : Form := .list [.atom "m", .list [],
      .list [.list [.atom "a", .atom "=>", .atom "1"]], .list [.atom "a"]]
    let surplus : Form := .list [.atom "m", .atom "z",
      .list [.list [.atom "a", .atom "=>", .atom "1", .atom "2"],
        .list [.atom "b", .atom "=>", .list [], .list [.atom "c"]]], .list [.atom "a"], .atom "d"]
    let rules : List Rule := [⟨pattern, .atom "body"⟩, ⟨.list [.atom "_", .atom "x", .atom "..."],
      .list [.atom "x", .atom "..."]⟩]
    (∃ b, matchRule literals (s.withTrailing .strict) pattern exact = .ok b ∧
      matchRule literals (s.withTrailing .lenient) pattern exact = .ok b) ∧
    (∃ b, matchRule literals (s.withTrailing .lenient) pattern surplus = .ok b ∧
      ∃ pruned : Form, pruned.PruningOf surplus ∧
        matchRule literals (s.withTrailing .strict) pattern pruned = .ok b) ∧
    firstMatch? literals (s.withTrailing .strict) surplus rules = some 1 ∧
    (dispatch literals (s.withTrailing .strict) rules surplus).decider? = some 1 ∧
    ∃ j ≤ 1, firstMatch? literals (s.withTrailing .lenient) surplus rules = some j ∧
      (dispatch literals (s.withTrailing .lenient) rules surplus).decider? = some j := by
  intro literals s pattern exact surplus rules
  obtain ⟨lenient, pruned, first⟩ := matchRule_trailing literals s
  have matchedStrict : ∃ b, matchRule literals (s.withTrailing .strict) pattern exact = .ok b :=
    ⟨_, rfl⟩
  have matchedLenient : ∃ b, matchRule literals (s.withTrailing .lenient) pattern surplus = .ok b :=
    ⟨_, rfl⟩
  have second : firstMatch? literals (s.withTrailing .strict) surplus rules = some 1 := by decide
  obtain ⟨b, hb⟩ := matchedStrict
  obtain ⟨c, hc⟩ := matchedLenient
  exact ⟨⟨b, hb, lenient _ _ _ hb⟩, ⟨c, hc, pruned _ _ _ hc⟩, second, first _ _ _ second⟩

end MacroByExample
