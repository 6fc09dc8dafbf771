import MacroByExample.Proofs.Rules.Extension

/-!
# The shape of match results

What a match binds is laid down by the pattern: its variables, whatever the form. Variables
outside every repeated part capture once for each of their occurrences, and variables that share a
repeated part capture equally often.

* `Bindings.Shape`: the shape of bindings, given occurrences of variables and groups of them.
* `Bindings.Shape.append`: shapes of bindings that are put one after the other.
* `shape_of_matchWhole`: the bindings of a match have the shape that the pattern lays down.
* `matchRule_laidDownBy`: the same for a rule's pattern, in terms of its matched part.
-/

namespace MacroByExample

/-! ## Shapes -/

/-- The shape of bindings: `vars` lists the occurrences of variables, `groups` the variables of
    each repeated part. -/
structure Bindings.Shape (vars : List String) (groups : List (List String)) (b : Bindings) :
    Prop where
  subset : ∀ group ∈ groups, group ⊆ vars
  contains_iff : ∀ var, b.contains var = true ↔ var ∈ vars
  isRepeated_iff : ∀ var, b.isRepeated var = true ↔ ∃ group ∈ groups, var ∈ group
  length_captured : ∀ var, (∀ group ∈ groups, var ∉ group) →
    (b.captured var).length = vars.count var
  length_group : ∀ group ∈ groups, ∃ n, ∀ var ∈ group, vars.count var = 1 →
    (b.captured var).length = n

namespace Bindings.Shape

variable {vars vars' : List String} {groups groups' : List (List String)} {b c : Bindings}

theorem contains_eq_false (h : Shape vars groups b) {var : String} (hvar : var ∉ vars) :
    b.contains var = false :=
  Bool.eq_false_iff.mpr (mt (h.contains_iff var).mp hvar)

theorem captured_eq_nil (h : Shape vars groups b) {var : String} (hvar : var ∉ vars) :
    b.captured var = [] :=
  captured_of_contains_eq_false (h.contains_eq_false hvar)

theorem isRepeated_eq_false (h : Shape vars groups b) {var : String} (hvar : var ∉ vars) :
    b.isRepeated var = false := by
  rw [Bool.eq_false_iff, Ne, h.isRepeated_iff]
  rintro ⟨group, hgroup, hmem⟩
  exact hvar (h.subset group hgroup hmem)

theorem empty : Shape [] [] Bindings.empty where
  subset := by simp
  contains_iff := by simp [contains_empty]
  isRepeated_iff := by simp
  length_captured := by simp [captured_empty]
  length_group := by simp

theorem capture (var : String) (form : Form) :
    Shape [var] [] (Bindings.empty.capture var form) where
  subset := by simp
  contains_iff := by simp [contains_capture, contains_empty]
  isRepeated_iff := by simp
  length_captured := by
    intro v _
    by_cases h : v = var <;>
      simp [captured_capture, captured_empty, h, List.count_eq_zero_of_not_mem]
  length_group := by simp

theorem append (hb : Shape vars groups b) (hc : Shape vars' groups' c) :
    Shape (vars ++ vars') (groups ++ groups') (b ++ c) where
  subset := by
    intro group hgroup
    rcases List.mem_append.mp hgroup with hg | hg
    · exact List.subset_append_of_subset_left _ (hb.subset group hg)
    · exact List.subset_append_of_subset_right _ (hc.subset group hg)
  contains_iff := by simp [hb.contains_iff, hc.contains_iff]
  isRepeated_iff := by
    intro var
    simp [hb.isRepeated_iff, hc.isRepeated_iff, or_and_right, exists_or]
  length_captured := by
    intro var h
    rw [captured_append, List.length_append, List.count_append,
      hb.length_captured var fun group hg => h group (List.mem_append_left _ hg),
      hc.length_captured var fun group hg => h group (List.mem_append_right _ hg)]
  length_group := by
    intro group hgroup
    -- a variable of the group that occurs once does not occur on the other side
    rcases List.mem_append.mp hgroup with hg | hg
    · obtain ⟨n, hn⟩ := hb.length_group group hg
      refine ⟨n, fun var hvar hcount => ?_⟩
      have hpos := List.count_pos_iff.mpr (hb.subset group hg hvar)
      rw [List.count_append] at hcount
      have hother : var ∉ vars' := List.count_eq_zero.mp (by omega)
      rw [captured_append, hc.captured_eq_nil hother, List.append_nil, hn var hvar (by omega)]
    · obtain ⟨n, hn⟩ := hc.length_group group hg
      refine ⟨n, fun var hvar hcount => ?_⟩
      have hpos := List.count_pos_iff.mpr (hc.subset group hg hvar)
      rw [List.count_append] at hcount
      have hother : var ∉ vars := List.count_eq_zero.mp (by omega)
      rw [captured_append, hb.captured_eq_nil hother, List.nil_append, hn var hvar (by omega)]

/-- Bindings put behind others leave the tokens alone that they do not bind. -/
theorem agree_left (hc : Shape vars groups c) {t : String} (ht : t ∉ vars) :
    (b ++ c).get? t = b.get? t ∧ (b ++ c).isRepeated t = b.isRepeated t := by
  rw [get?_append_of_left (hc.contains_eq_false ht), isRepeated_append, hc.isRepeated_eq_false ht,
    Bool.or_false]
  exact ⟨rfl, rfl⟩

theorem agree_right (hb : Shape vars groups b) {t : String} (ht : t ∉ vars) :
    (b ++ c).get? t = c.get? t ∧ (b ++ c).isRepeated t = c.isRepeated t := by
  rw [get?_append_of_right (hb.contains_eq_false ht), isRepeated_append, hb.isRepeated_eq_false ht,
    Bool.false_or]
  exact ⟨rfl, rfl⟩

end Bindings.Shape

/-! ## Repetition -/

section Repetition

variable {literals : TokenSet} {s : MatchSettings} {item : Form} {rounds : List Bindings}

/-- The captures of a variable that each round captures equally often. -/
theorem length_captured_concat {var : String} {n : Nat}
    (h : ∀ round ∈ rounds, (round.captured var).length = n) :
    ((Bindings.concat rounds).captured var).length = rounds.length * n := by
  rw [Bindings.captured_concat, List.length_flatMap, List.map_congr_left h, List.map_const',
    List.sum_replicate, smul_eq_mul]

/-- The rounds of a repeated item, behind its declared variables, have the shape of one group. -/
theorem shape_of_rounds (hitem : s.ellipsis ∉ item.atoms)
    (h : ∀ round ∈ rounds, round.Shape (item.vars literals s.ellipsis) []) :
    (declareVariables literals s item .empty ++ Bindings.concat rounds).Shape
      (item.vars literals s.ellipsis) [item.vars literals s.ellipsis] where
  subset := by simp
  contains_iff := by
    intro var
    rw [Bindings.contains_append, Bool.or_eq_true, contains_declareVariables hitem,
      Bindings.contains_concat, List.any_eq_true, or_iff_left_iff_imp]
    rintro ⟨round, hround, hvar⟩
    exact ((h round hround).contains_iff var).mp hvar
  isRepeated_iff := by
    intro var
    have hplain : ∀ round ∈ rounds, round.isRepeated var = false := by
      intro round hround
      simpa using (h round hround).isRepeated_iff var
    rw [Bindings.isRepeated_append, Bool.or_eq_true, isRepeated_declareVariables hitem,
      Bindings.isRepeated_concat, List.any_eq_true]
    simp only [List.mem_singleton, exists_eq_left, or_iff_left_iff_imp]
    rintro ⟨round, hround, hvar⟩
    simp [hplain round hround] at hvar
  length_captured := by
    intro var hvar
    have hvar : var ∉ item.vars literals s.ellipsis := hvar _ (by simp)
    have hnone : ∀ round ∈ rounds, (round.captured var).length = 0 := fun round hround => by
      rw [(h round hround).captured_eq_nil hvar, List.length_nil]
    rw [captured_declareVariables_append, length_captured_concat hnone,
      List.count_eq_zero_of_not_mem hvar, Nat.mul_zero]
  length_group := by
    intro group hgroup
    refine ⟨rounds.length, fun var _ hcount => ?_⟩
    have hone : ∀ round ∈ rounds, (round.captured var).length = 1 := fun round hround => by
      rw [(h round hround).length_captured var (by simp), hcount]
    rw [captured_declareVariables_append, length_captured_concat hone, Nat.mul_one]

end Repetition

/-! ## Matching -/

section Matching

variable {literals : TokenSet} {s : MatchSettings} {pattern form : Form} {b : Bindings}

theorem shape_of_matchToken {token : String} (h : matchToken literals token form .empty = .ok b) :
    b.Shape ((Form.atom token).vars literals s.ellipsis) [] := by
  unfold matchToken at h
  split at h
  · next hlit =>
    split at h
    · cases h
      simpa [Form.vars, hlit] using Bindings.Shape.empty
    · cases h
  · next hlit =>
    cases h
    simpa [Form.vars, hlit] using Bindings.Shape.capture token form

/-- The bindings of a match have the shape that the pattern lays down. -/
theorem shape_of_matchWhole (hp : pattern.OneLevel s.ellipsis)
    (h : matchWhole literals s pattern form = .ok b) :
    b.Shape (pattern.vars literals s.ellipsis)
      ((pattern.repeatedParts s.ellipsis).map (Form.vars literals s.ellipsis)) := by
  induction pattern using Form.markerInduction s.ellipsis generalizing form b with
  | atom t => exact shape_of_matchToken (by simpa [matchWhole, matchForm] using h)
  | nil =>
    obtain ⟨-, rfl⟩ := matchWhole_nil_iff.mp h
    exact Bindings.Shape.empty
  | repeated item rest ih ihRest =>
    obtain ⟨hitem, hrest⟩ := Form.oneLevel_repeated.mp hp
    obtain ⟨forms, rounds, d, rfl, hrounds, hd, rfl⟩ := matchWhole_repeated_iff.mp h
    have hshapes : ∀ round ∈ rounds, round.Shape (item.vars literals s.ellipsis) [] := by
      intro round hround
      obtain ⟨form, -, hform⟩ := exists_of_forall₂_of_mem hrounds hround
      simpa [Form.repeatedParts_eq_nil hitem] using ih (.of_notMem hitem) hform
    rw [Form.vars_repeated, Form.repeatedParts_repeated, Form.repeatedParts_eq_nil hitem]
    exact (shape_of_rounds hitem hshapes).append (ihRest hrest hd)
  | single item rest hmarker ih ihRest =>
    obtain ⟨hitem, hrest⟩ := (Form.oneLevel_single hmarker).mp hp
    obtain ⟨first, others, c, d, rfl, hc, hd, rfl⟩ := (matchWhole_single_iff hmarker).mp h
    rw [Form.vars_single hmarker, Form.repeatedParts_single hmarker, List.map_append]
    exact (ih hitem hc).append (ihRest hrest hd)

end Matching

/-! ## Rules -/

/-- What a pattern lays down about the bindings of its matches. -/
structure Bindings.LaidDownBy (literals : TokenSet) (marker : String) (pattern : Form)
    (b : Bindings) : Prop where
  /-- Exactly the variables of the pattern are bound. -/
  mem_domain_iff : ∀ var, var ∈ b.domain ↔ var ∈ pattern.vars literals marker
  /-- Exactly the variables with an occurrence in a repeated part are marked. -/
  isRepeated_iff : ∀ var, b.isRepeated var = true ↔ pattern.EllipsisBound literals marker var
  /-- A variable outside every repeated part captures once for each of its occurrences. -/
  length_captured : ∀ var, ¬ pattern.EllipsisBound literals marker var →
    (b.captured var).length = (pattern.vars literals marker).count var
  /-- Variables that occur once and share a repeated part capture equally often. -/
  length_aligned : ∀ part ∈ pattern.repeatedParts marker,
    ∀ u ∈ part.vars literals marker, ∀ v ∈ part.vars literals marker,
      (pattern.vars literals marker).count u = 1 → (pattern.vars literals marker).count v = 1 →
        (b.captured u).length = (b.captured v).length
  /-- A variable that is not marked captures something. -/
  captured_ne_nil : ∀ var ∈ b.domain, b.isRepeated var = false → b.captured var ≠ []

theorem Bindings.Shape.laidDownBy {literals : TokenSet} {marker : String} {pattern : Form}
    {b : Bindings}
    (h : b.Shape (pattern.vars literals marker)
      ((pattern.repeatedParts marker).map (Form.vars literals marker))) :
    b.LaidDownBy literals marker pattern := by
  have hmarked : ∀ var, b.isRepeated var = true ↔ pattern.EllipsisBound literals marker var := by
    intro var
    rw [h.isRepeated_iff, Form.EllipsisBound]
    simp
  have hlength : ∀ var, ¬ pattern.EllipsisBound literals marker var →
      (b.captured var).length = (pattern.vars literals marker).count var := by
    intro var hvar
    apply h.length_captured
    intro group hgroup hmem
    obtain ⟨part, hpart, rfl⟩ := List.mem_map.mp hgroup
    exact hvar ⟨part, hpart, hmem⟩
  refine ⟨fun var => Bindings.mem_domain_iff.trans (h.contains_iff var), hmarked, hlength, ?_, ?_⟩
  · intro part hpart u hu v hv hcu hcv
    obtain ⟨n, hn⟩ := h.length_group _ (List.mem_map_of_mem hpart)
    rw [hn u hu hcu, hn v hv hcv]
  · intro var hvar hplain hnil
    have hmem := (h.contains_iff var).mp (Bindings.mem_domain_iff.mp hvar)
    have hcount := hlength var fun hbound => by simp [(hmarked var).mpr hbound] at hplain
    rw [hnil, List.length_nil] at hcount
    exact List.count_eq_zero.mp hcount.symm hmem

namespace Bindings.LaidDownBy

variable {literals : TokenSet} {marker : String} {pattern : Form} {b c : Bindings}

theorem contains_iff (h : b.LaidDownBy literals marker pattern) {var : String} :
    b.contains var = true ↔ var ∈ pattern.vars literals marker :=
  Bindings.mem_domain_iff.symm.trans (h.mem_domain_iff var)

/-- Bindings that one pattern lays down are determined by the captures of its variables. -/
theorem ext (hb : b.LaidDownBy literals marker pattern) (hc : c.LaidDownBy literals marker pattern)
    (hcaptured : ∀ var ∈ pattern.vars literals marker, b.captured var = c.captured var) :
    b = c := by
  have hcontains : ∀ var, b.contains var = c.contains var := fun var => by
    rw [Bool.eq_iff_iff, hb.contains_iff, hc.contains_iff]
  refine Bindings.ext_captured hcontains (fun var => ?_) fun var => ?_
  · by_cases hvar : var ∈ pattern.vars literals marker
    · exact hcaptured var hvar
    · have hnone : b.contains var = false := Bool.eq_false_iff.mpr (mt hb.contains_iff.mp hvar)
      rw [captured_of_contains_eq_false hnone, captured_of_contains_eq_false (by rwa [← hcontains])]
  · rw [Bool.eq_iff_iff, hb.isRepeated_iff, hc.isRepeated_iff]

section Linear

variable (h : b.LaidDownBy literals marker pattern) (hlinear : (pattern.vars literals marker).Nodup)
include h hlinear

/-- If no variable occurs twice, each variable that is not marked captures one form. -/
theorem length_captured_eq_one {var : String} (hbound : b.contains var = true)
    (hplain : b.isRepeated var = false) : (b.captured var).length = 1 := by
  have hfree : ¬ pattern.EllipsisBound literals marker var := by
    rw [← h.isRepeated_iff, hplain]
    exact Bool.false_ne_true
  rw [h.length_captured var hfree, List.count_eq_one_of_mem hlinear (h.contains_iff.mp hbound)]

/-- If no variable occurs twice, the variables of a repeated part capture equally often. -/
theorem length_captured_eq {part : Form} (hpart : part ∈ pattern.repeatedParts marker)
    {u v : String} (hu : u ∈ part.vars literals marker) (hv : v ∈ part.vars literals marker) :
    (b.captured u).length = (b.captured v).length := by
  have hsub : part.vars literals marker ⊆ pattern.vars literals marker :=
    Form.vars_subset_of_mem_repeatedParts hpart
  exact h.length_aligned part hpart u hu v hv (List.count_eq_one_of_mem hlinear (hsub hu))
    (List.count_eq_one_of_mem hlinear (hsub hv))

end Linear

/-- If no variable occurs twice, bindings are laid down once each variable outside the repeated
    parts has captured one form, and the variables of each repeated part equally many. -/
theorem of_linear (hlinear : (pattern.vars literals marker).Nodup)
    (hdomain : ∀ var, var ∈ b.domain ↔ var ∈ pattern.vars literals marker)
    (hrepeated : ∀ var, b.isRepeated var = true ↔ pattern.EllipsisBound literals marker var)
    (hsingle : ∀ var ∈ pattern.vars literals marker, ¬ pattern.EllipsisBound literals marker var →
      ∃ form, b.captured var = [form])
    (haligned : ∀ part ∈ pattern.repeatedParts marker, ∀ u ∈ part.vars literals marker,
      ∀ v ∈ part.vars literals marker, (b.captured u).length = (b.captured v).length) :
    b.LaidDownBy literals marker pattern := by
  refine ⟨hdomain, hrepeated, fun var hfree => ?_,
    fun part hpart u hu v hv _ _ => haligned part hpart u hu v hv, fun var hvar hplain => ?_⟩
  · by_cases hvar : var ∈ pattern.vars literals marker
    · obtain ⟨form, hform⟩ := hsingle var hvar hfree
      rw [hform, List.count_eq_one_of_mem hlinear hvar, List.length_singleton]
    · have hnone : b.contains var = false := by
        rw [Bool.eq_false_iff, Ne, ← Bindings.mem_domain_iff, hdomain]
        exact hvar
      rw [captured_of_contains_eq_false hnone, List.count_eq_zero_of_not_mem hvar, List.length_nil]
  · have hfree : ¬ pattern.EllipsisBound literals marker var := by
      rw [← hrepeated, hplain]
      exact Bool.false_ne_true
    obtain ⟨form, hform⟩ := hsingle var ((hdomain var).mp hvar) hfree
    rw [hform]
    exact List.cons_ne_nil form []

end Bindings.LaidDownBy

/-- **The bindings of a match are laid down by the pattern.** Whenever a rule's pattern that passes
    the check matches a form, under any settings and literals, the matched part of the pattern
    determines the bound variables, the marks and, up to the number of repetitions of each repeated
    part, the numbers of captures. -/
theorem matchRule_laidDownBy {literals : TokenSet} {s : MatchSettings} {pattern form : Form}
    {b : Bindings} (accepted : checkPattern s pattern = .ok ())
    (matched : matchRule literals s pattern form = .ok b) :
    b.LaidDownBy literals s.ellipsis (s.matchedPart pattern) :=
  (shape_of_matchWhole (oneLevel_matchedPart accepted) (matchWhole_of_matchRule matched)).laidDownBy

/-- The pattern `(bind x x ((name value) ...))` without its keyword, under the lenient policy. -/
theorem matchRule_laidDownBy_bind :
    let s : MatchSettings := { trailing := .lenient, ignoreKeyword := true }
    let pattern : Form := .list [.atom "bind", .atom "x", .atom "x",
      .list [.list [.atom "name", .atom "value"], .atom "..."]]
    let form : Form := .list [.atom "m", .atom "1", .list [],
      .list [.list [.atom "a", .atom "2"], .list [.atom "b", .atom "3", .atom "4"]], .atom "5"]
    let b := (((((Bindings.empty.capture "x" (.atom "1")).capture "x" (.list [])).declareRepeated
      "name").declareRepeated "value").capture "name" (.atom "a")).capture "value" (.atom "2")
    let b := (b.capture "name" (.atom "b")).capture "value" (.atom "3")
    checkPattern s pattern = .ok () ∧ matchRule .empty s pattern form = .ok b ∧
      b.LaidDownBy .empty s.ellipsis (s.matchedPart pattern) := by
  intro s pattern form b₀ b
  have accepted : checkPattern s pattern = .ok () := by decide +kernel
  have matched : matchRule .empty s pattern form = .ok b := by decide +kernel
  exact ⟨accepted, matched, matchRule_laidDownBy accepted matched⟩

end MacroByExample
