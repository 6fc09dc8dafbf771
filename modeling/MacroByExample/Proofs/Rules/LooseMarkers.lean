import MacroByExample.Proofs.Rules.Firing
import MacroByExample.Proofs.Rules.Loading
import MacroByExample.Proofs.Rules.Shape

/-!
# Markers that repeat nothing

The ellipsis marker is a marker only behind the item that it repeats. At any other place of a
pattern, at the front of a list or as the whole pattern, it is a token like others. The loader keeps
it out of the literals and out of repeated parts, but not from these places: there it is a variable.
So a rule binds the marker exactly when its pattern has a marker that repeats nothing.

* `Form.count_marker_readTokens`: in a pattern that passes the check, the markers outside marker
  position stand outside every repeated part.
* `RuleSet.Loaded.contains_ellipsis`: the marker is no literal.
* `matchRule_marker`: what a match does with the marker.
* `contains_ellipsis_iff_of_tryRules`: when an expansion binds the marker.
* `not_forall_contains_ellipsis_eq_false`: there are expansions that do.
-/

namespace MacroByExample

/-! ## Markers of a pattern -/

namespace Form

variable {literals : TokenSet} {marker : String}

/-- A pattern that repeats on one level has as many markers outside marker position as it has
    outside of repeated parts too. -/
theorem count_marker_readTokens {f : Form} (h : f.OneLevel marker) :
    (f.readTokens marker).count marker = (f.looseTokens marker).count marker := by
  induction f using markerInduction marker with
  | atom t => rfl
  | nil => rfl
  | repeated item rest ih ihRest =>
    obtain ⟨hitem, hrest⟩ := oneLevel_repeated.mp h
    have hfree : marker ∉ item.readTokens marker := fun hmem =>
      hitem (readTokens_subset_atoms item hmem)
    rw [readTokens_repeated, looseTokens_repeated, List.count_append,
      List.count_eq_zero_of_not_mem hfree, Nat.zero_add, ihRest hrest]
  | single item rest hmarker ih ihRest =>
    obtain ⟨hitem, hrest⟩ := (oneLevel_single hmarker).mp h
    rw [readTokens_single hmarker, looseTokens_single hmarker, List.count_append,
      List.count_append, ih hitem, ihRest hrest]

/-- The marker is no variable of a repeated part. -/
theorem OneLevel.not_ellipsisBound_marker {f : Form} (h : f.OneLevel marker) :
    ¬ f.EllipsisBound literals marker marker := by
  rintro ⟨part, hpart, hvar⟩
  exact h part hpart (readTokens_subset_atoms part (mem_vars.mp hvar).1)

end Form

/-! ## Bindings of the marker -/

section Marker

variable {literals : TokenSet} {s : MatchSettings} {r : RuleSet}

/-- The marker is no literal of a loaded rule set. -/
theorem RuleSet.Loaded.contains_ellipsis (h : r.Loaded s) :
    r.literals.contains s.ellipsis = false := by
  obtain ⟨literals, clauses, hbuild⟩ := h.exists_build
  obtain ⟨tokens, hform, hr⟩ := build_eq_ok_iff.mp hbuild
  rw [hr, TokenSet.contains_ofList, decide_eq_false_iff_not]
  exact hform.ellipsis_notMem

/-- A match never marks the ellipsis marker as repeated, and captures a form for each marker of the
    matched part that repeats nothing. -/
theorem matchRule_marker {pattern form : Form} {b : Bindings}
    (accepted : checkPattern s pattern = .ok ()) (hliteral : literals.contains s.ellipsis = false)
    (matched : matchRule literals s pattern form = .ok b) :
    b.isRepeated s.ellipsis = false ∧
      (b.captured s.ellipsis).length =
        ((s.matchedPart pattern).looseTokens s.ellipsis).count s.ellipsis ∧
      (b.contains s.ellipsis = true ↔
        s.ellipsis ∈ (s.matchedPart pattern).looseTokens s.ellipsis) := by
  have hlevel := oneLevel_matchedPart accepted
  have hlaid := (shape_of_matchWhole hlevel (matchWhole_of_matchRule matched)).laidDownBy
  have hfree : ¬ (s.matchedPart pattern).EllipsisBound literals s.ellipsis s.ellipsis :=
    hlevel.not_ellipsisBound_marker
  have hcount : ((s.matchedPart pattern).vars literals s.ellipsis).count s.ellipsis =
      ((s.matchedPart pattern).looseTokens s.ellipsis).count s.ellipsis := by
    rw [Form.vars, List.count_filter (by simpa using hliteral),
      Form.count_marker_readTokens hlevel]
  refine ⟨?_, ?_, ?_⟩
  · rw [← Bool.not_eq_true, hlaid.isRepeated_iff]
    exact hfree
  · rw [hlaid.length_captured s.ellipsis hfree, hcount]
  · rw [hlaid.contains_iff, ← List.count_pos_iff, hcount, List.count_pos_iff]

/-- **When the marker is bound.** Whenever a loaded rule set, under any settings, answers a form, the
bindings have an entry for the ellipsis marker exactly when the matched part of the pattern of the
rule that fired has a marker that stands neither in marker position nor in a repeated part. The
entry is not marked as repeated and holds a form for each such marker. -/
theorem contains_ellipsis_iff_of_tryRules {form : Form} {e : Expansion} (loaded : r.Loaded s)
    (fired : r.tryRules form = .ok e) :
    ∃ rule, r.rules[e.index]? = some rule ∧
      (e.bindings.contains s.ellipsis = true ↔
        s.ellipsis ∈ (s.matchedPart rule.pattern).looseTokens s.ellipsis) ∧
      e.bindings.isRepeated s.ellipsis = false ∧
      (e.bindings.captured s.ellipsis).length =
        ((s.matchedPart rule.pattern).looseTokens s.ellipsis).count s.ellipsis := by
  obtain ⟨rule, hrule, hfired⟩ := exists_firedBy_of_tryRules fired
  have hmatched := hfired.matched
  rw [loaded.settings_eq] at hmatched
  have accepted := loaded.accepted (List.mem_of_getElem? hrule)
  obtain ⟨hplain, hlength, hcontains⟩ :=
    matchRule_marker accepted loaded.contains_ellipsis hmatched
  exact ⟨rule, hrule, hcontains, hplain, hlength⟩

/-- The pattern `(_ ... x (... y) z ...)` without its keyword has two markers that repeat nothing,
    the first of them because the item that it would repeat is left out. -/
theorem contains_ellipsis_iff_of_tryRules_keyword :
    let s : MatchSettings := { ignoreKeyword := true }
    let rule : Rule :=
      { pattern := .list [.atom "_", .atom "...", .atom "x", .list [.atom "...", .atom "y"],
          .atom "z", .atom "..."]
        template := .list [.atom "x", .atom "z", .atom "..."] }
    let r : RuleSet := ⟨.empty, [rule], s⟩
    let form : Form := .list [.atom "m", .atom "1", .atom "2", .list [.list [], .atom "3"],
      .atom "4", .atom "5"]
    ∃ e : Expansion, e.bindings.captured "..." = [.atom "1", .list []] ∧
      r.Loaded s ∧ r.tryRules form = .ok e ∧
      ∃ rule, r.rules[e.index]? = some rule ∧
        (e.bindings.contains s.ellipsis = true ↔
          s.ellipsis ∈ (s.matchedPart rule.pattern).looseTokens s.ellipsis) ∧
        e.bindings.isRepeated s.ellipsis = false ∧
        (e.bindings.captured s.ellipsis).length =
          ((s.matchedPart rule.pattern).looseTokens s.ellipsis).count s.ellipsis := by
  intro s rule r form
  have defined : RuleSet.ofForm s (.list [.atom "syntax-rules", .list [],
      .list [rule.pattern, rule.template]]) = .ok r := by decide +kernel
  obtain ⟨e, fired, captured⟩ : ∃ e, r.tryRules form = .ok e ∧
      e.bindings.captured "..." = [.atom "1", .list []] := ⟨_, rfl, by decide +kernel⟩
  have loaded : r.Loaded s := .ofForm defined
  exact ⟨e, captured, loaded, fired, contains_ellipsis_iff_of_tryRules loaded fired⟩

/-- It is not so that the marker is never bound: a rule with the pattern `(... x)` binds it. -/
theorem not_forall_contains_ellipsis_eq_false :
    ¬ ∀ (s : MatchSettings) (r : RuleSet) (form : Form) (e : Expansion), r.Loaded s →
      r.tryRules form = .ok e → e.bindings.contains s.ellipsis = false := by
  intro h
  have defined : RuleSet.ofForm {} (.list [.atom "syntax-rules", .list [],
      .list [.list [.atom "...", .atom "x"], .atom "x"]]) =
      .ok ⟨.empty, [⟨.list [.atom "...", .atom "x"], .atom "x"⟩], {}⟩ := by decide +kernel
  obtain ⟨e, fired, bound⟩ : ∃ e : Expansion,
      (RuleSet.mk .empty [⟨.list [.atom "...", .atom "x"], .atom "x"⟩] {}).tryRules
        (.list [.atom "a", .atom "b"]) = .ok e ∧ e.bindings.contains "..." = true :=
    ⟨_, rfl, by decide +kernel⟩
  have unbound : e.bindings.contains "..." = false := h {} _ _ e (.ofForm defined) fired
  rw [bound] at unbound
  cases unbound

end Marker

end MacroByExample
