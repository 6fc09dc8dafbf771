import MacroByExample.Proofs.Rules.Extension
import MacroByExample.Proofs.Rules.Precedence

/-!
# General and special patterns

A pattern becomes more special when forms are put in the place of some of its variables. Such a form
may hold lists, literals, variables and repetitions of its own; only the marker alone may not stand
for a variable, because there it would repeat the item in front. So lists keep their length and are
cut at the same places, and what matches the special pattern matches the general one. Behind a rule
with the general pattern, a rule with the special one has no effect.

* `Form.InstanceOf`: a pattern with forms in the place of some of its variables.
* `Form.InstanceOf.head?_ne`: instances of a list are cut where the list is.
* `Form.RuleInstanceOf`: the same for the patterns of rules, whose keyword may be left out.
* `exists_matchWhole_of_instanceOf`, `exists_matchRule_of_ruleInstanceOf`: the general pattern
  matches.
* `general_shadows_special`: the special rule never decides.
-/

namespace MacroByExample

/-! ## Instances -/

/-- What a pattern becomes when forms are put in the place of some occurrences of its variables.
    Each occurrence may be replaced by another form. -/
inductive Form.InstanceOf (literals : TokenSet) (marker : String) : Form → Form → Prop where
  /-- A token stays. -/
  | kept (t : String) : InstanceOf literals marker (.atom t) (.atom t)
  /-- A variable is replaced by a form other than the marker. -/
  | replaced {var : String} {f : Form} (hvar : literals.contains var = false)
      (hmarker : f ≠ .atom marker) : InstanceOf literals marker f (.atom var)
  | nil : InstanceOf literals marker (.list []) (.list [])
  /-- A marker behind an item is no variable. -/
  | repeated {item special : Form} {rest others : List Form}
      (hitem : InstanceOf literals marker special item)
      (hrest : InstanceOf literals marker (.list others) (.list rest)) :
      InstanceOf literals marker (.list (special :: .atom marker :: others))
        (.list (item :: .atom marker :: rest))
  | single {item special : Form} {rest others : List Form}
      (hmarker : rest.head? ≠ some (.atom marker))
      (hitem : InstanceOf literals marker special item)
      (hrest : InstanceOf literals marker (.list others) (.list rest)) :
      InstanceOf literals marker (.list (special :: others)) (.list (item :: rest))

namespace Form.InstanceOf

variable {literals : TokenSet} {marker : String} {special general : Form}

/-- A pattern is an instance of itself. -/
theorem refl (literals : TokenSet) (marker : String) (p : Form) :
    p.InstanceOf literals marker p := by
  induction p using markerInduction marker with
  | atom t => exact .kept t
  | nil => exact .nil
  | repeated item rest ih ihRest => exact .repeated ih ihRest
  | single item rest hmarker ih ihRest => exact .single hmarker ih ihRest

/-- Only the marker becomes the marker. -/
theorem ne_marker (h : special.InstanceOf literals marker general)
    (hgeneral : general ≠ .atom marker) : special ≠ .atom marker := by
  cases h with
  | kept t => exact hgeneral
  | replaced hvar hmarker => exact hmarker
  | nil => nofun
  | repeated hitem hrest => nofun
  | single hmarker hitem hrest => nofun

/-- No marker appears in front of the items of an instance. -/
theorem head?_ne {rest others : List Form}
    (h : (Form.list others).InstanceOf literals marker (.list rest))
    (hmarker : rest.head? ≠ some (.atom marker)) : others.head? ≠ some (.atom marker) := by
  cases h with
  | nil => exact hmarker
  | repeated hitem hrest =>
    rw [List.head?_cons, Ne, Option.some_inj] at hmarker ⊢
    exact hitem.ne_marker hmarker
  | single hnext hitem hrest =>
    rw [List.head?_cons, Ne, Option.some_inj] at hmarker ⊢
    exact hitem.ne_marker hmarker

end Form.InstanceOf

/-- The pattern of a rule with forms in the place of some variables of its matched part. A keyword
    that is left out of the match stays. -/
inductive Form.RuleInstanceOf (literals : TokenSet) (s : MatchSettings) : Form → Form → Prop where
  /-- The whole pattern is matched. -/
  | whole {special general : Form} (hkeyword : s.ignoreKeyword = false)
      (h : special.InstanceOf literals s.ellipsis general) :
      RuleInstanceOf literals s special general
  /-- The pattern is matched behind its keyword. -/
  | behindKeyword (hkeyword : s.ignoreKeyword = true) (keyword : Form) {rest others : List Form}
      (h : (Form.list others).InstanceOf literals s.ellipsis (.list rest)) :
      RuleInstanceOf literals s (.list (keyword :: others)) (.list (keyword :: rest))
  /-- There is neither a keyword nor a variable. -/
  | noKeyword (hkeyword : s.ignoreKeyword = true) : RuleInstanceOf literals s (.list []) (.list [])

section Generality

variable {literals : TokenSet} {s : MatchSettings} {special general form : Form} {b : Bindings}

/-! ## Matching -/

/-- A form that matches an instance of a pattern matches the pattern. -/
theorem exists_matchWhole_of_instanceOf (h : special.InstanceOf literals s.ellipsis general)
    (hspecial : matchWhole literals s special form = .ok b) :
    ∃ c, matchWhole literals s general form = .ok c := by
  induction h generalizing form b with
  | kept t => exact ⟨b, hspecial⟩
  | @replaced var f hvar hmarker =>
    refine ⟨Bindings.empty.capture var form, ?_⟩
    rw [matchWhole, matchForm, matchToken, hvar]
    rfl
  | nil => exact ⟨b, hspecial⟩
  | repeated hitem hrest ih ihRest =>
    obtain ⟨forms, rounds, d, rfl, hrounds, hd, -⟩ := matchWhole_repeated_iff.mp hspecial
    have hround : ∀ form round, matchWhole literals s _ form = .ok round →
        ∃ c, matchWhole literals s _ form = .ok c ∧ True :=
      fun _ _ hround => (ih hround).imp fun _ hc => ⟨hc, trivial⟩
    obtain ⟨rounds', hrounds', -⟩ := exists_forall₂_of_forall₂ (Q := fun _ _ => True) hround hrounds
    obtain ⟨d', hd'⟩ := ihRest hd
    exact ⟨_, matchWhole_repeated_iff.mpr ⟨forms, rounds', d', rfl, hrounds'.flip, hd', rfl⟩⟩
  | single hmarker hitem hrest ih ihRest =>
    obtain ⟨first, others, c, d, rfl, hc, hd, -⟩ :=
      (matchWhole_single_iff (hrest.head?_ne hmarker)).mp hspecial
    obtain ⟨c', hc'⟩ := ih hc
    obtain ⟨d', hd'⟩ := ihRest hd
    exact ⟨_, (matchWhole_single_iff hmarker).mpr ⟨first, others, c', d', rfl, hc', hd', rfl⟩⟩

theorem exists_matchRule_of_ruleInstanceOf (h : special.RuleInstanceOf literals s general)
    (hspecial : matchRule literals s special form = .ok b) :
    ∃ c, matchRule literals s general form = .ok c := by
  cases h with
  | whole hkeyword h =>
    rw [matchRule_of_whole hkeyword] at hspecial ⊢
    exact exists_matchWhole_of_instanceOf h hspecial
  | behindKeyword hkeyword keyword h =>
    obtain ⟨_, _, first, forms, heq, rfl, hforms⟩ := (matchRule_keyword_iff hkeyword).mp hspecial
    cases heq
    obtain ⟨c, hc⟩ := exists_matchWhole_of_instanceOf h hforms
    exact ⟨c, (matchRule_keyword_iff hkeyword).mpr ⟨_, _, first, forms, rfl, rfl, hc⟩⟩
  | noKeyword hkeyword => exact ⟨b, hspecial⟩

/-! ## Rules -/

/-- A rule does not decide on a form that a rule in front of it matches as well. -/
theorem decider?_ne_of_earlier {rules : List Rule} {earlier rule : Rule} {i j : Nat} (hij : i < j)
    (hearlier : rules[i]? = some earlier) (hrule : rules[j]? = some rule)
    (h : ∀ b, matchRule literals s rule.pattern form = .ok b →
      ∃ c, matchRule literals s earlier.pattern form = .ok c) :
    (dispatch literals s rules form).decider? ≠ some j := by
  rw [decider?_dispatch, firstMatch?]
  intro hfirst
  obtain ⟨hj, hmatch, hbefore⟩ := List.findIdx?_eq_some_iff_getElem.mp hfirst
  obtain ⟨hi, rfl⟩ := List.getElem?_eq_some_iff.mp hearlier
  obtain ⟨_, rfl⟩ := List.getElem?_eq_some_iff.mp hrule
  obtain ⟨b, hb⟩ := isOk_iff.mp hmatch
  exact hbefore i hij (isOk_iff.mpr (h b hb))

/-- **General patterns shadow special ones.** If a pattern of a rule comes from another by putting
    forms other than the marker in the place of variables, then every form that matches it matches
    the other one too. So a rule with the special pattern that stands anywhere behind a rule with
    the general one never decides: for no form does it fire, nor does its template fail. -/
theorem general_shadows_special (h : special.RuleInstanceOf literals s general) :
    (∀ form b, matchRule literals s special form = .ok b →
      ∃ c, matchRule literals s general form = .ok c) ∧
    ∀ (rules : List Rule) (i j : Nat) (earlier later : Rule), i < j →
      rules[i]? = some earlier → rules[j]? = some later →
      earlier.pattern = general → later.pattern = special →
        ∀ form, (dispatch literals s rules form).decider? ≠ some j := by
  have hmatch : ∀ form b, matchRule literals s special form = .ok b →
      ∃ c, matchRule literals s general form = .ok c :=
    fun _ _ => exists_matchRule_of_ruleInstanceOf h
  refine ⟨hmatch, ?_⟩
  rintro rules i j earlier later hij hearlier hlater rfl rfl form
  exact decider?_ne_of_earlier hij hearlier hlater (hmatch form)

end Generality

/-- The pattern `(let ((name value) ...) body body)`, with its keyword left out, behind which a rule
    asks for `=>` and a repetition in each pair and for a list in one place of the body. -/
theorem general_shadows_special_let :
    let literals : TokenSet := .ofList ["=>"]
    let s : MatchSettings := { ignoreKeyword := true }
    let general : Form := .list [.atom "let", .list [.list [.atom "name", .atom "value"],
      .atom "..."], .atom "body", .atom "body"]
    let special : Form := .list [.atom "let", .list [.list [.list [.atom "a", .atom "=>",
      .atom "b"], .list [.atom "f", .atom "x", .atom "..."]], .atom "..."], .list [.atom "body"],
      .atom "body"]
    let form : Form := .list [.atom "m", .list [.list [.list [.atom "1", .atom "=>", .atom "2"],
      .list [.atom "g", .atom "3", .atom "4"]]], .list [.atom "5"], .atom "6"]
    let rules : List Rule := [⟨general, .atom "name"⟩, ⟨.list [], .list []⟩, ⟨special, .atom "a"⟩]
    special.RuleInstanceOf literals s general ∧
      (∃ b, matchRule literals s special form = .ok b) ∧
      (∃ c, matchRule literals s general form = .ok c) ∧
      (dispatch literals s rules form).decider? ≠ some 2 := by
  intro literals s general special form rules
  have name : (Form.list [.atom "a", .atom "=>", .atom "b"]).InstanceOf literals s.ellipsis
      (.atom "name") := .replaced (by decide) nofun
  have value : (Form.list [.atom "f", .atom "x", .atom "..."]).InstanceOf literals s.ellipsis
      (.atom "value") := .replaced (by decide) nofun
  have body : (Form.list [.atom "body"]).InstanceOf literals s.ellipsis (.atom "body") :=
    .replaced (by decide) nofun
  have pairs := Form.InstanceOf.repeated (.single (by decide) name (.single (by decide) value .nil))
    .nil
  have h : special.RuleInstanceOf literals s general :=
    .behindKeyword rfl _ (.single (by decide) pairs (.single (by decide) body (.refl _ _ _)))
  obtain ⟨accepts, shadows⟩ := general_shadows_special h
  have matched : ∃ b, matchRule literals s special form = .ok b := ⟨_, rfl⟩
  obtain ⟨b, hb⟩ := matched
  exact ⟨h, ⟨b, hb⟩, accepts form b hb,
    shadows rules 0 2 _ _ (by decide) rfl rfl rfl rfl form⟩

end MacroByExample
