import MacroByExample.Proofs.Rules.Expansion
import MacroByExample.Proofs.Rules.Shape

/-!
# Matching and expansion are inverse

A linear pattern with one level of repetition, each of whose repeated parts has a variable, is its
own template: matching and expansion undo each other.

* `expandForm_self_of_matchWhole`: the pattern expands with the bindings of a strict match to the
  form that was matched.
* `matchWhole_expandForm_self`: for all bindings of the variables of the pattern, it expands to a
  form that matches it with just these bindings.
-/

namespace MacroByExample

/-! ## Agreement on patterns -/

section Agreement

variable {s : MatchSettings} {b c : Bindings} {p : Form}

theorem expandForm_congr_of_oneLevel (hp : p.OneLevel s.ellipsis)
    (h : ∀ t ∈ p.readTokens s.ellipsis, b.get? t = c.get? t ∧ b.isRepeated t = c.isRepeated t) :
    expandForm s p b = expandForm s p c :=
  expandForm_congr (fun t ht => (h t ht).1) fun _ hpart t ht => h t (hp.atoms_subset hpart ht)

end Agreement

/-! ## Rounds of a repeated item -/

section Rounds

variable {literals : TokenSet} {s : MatchSettings} {item : Form} {rounds : List Bindings}
  {b : Bindings}

/-- If each round captures once, the captures of all rounds list the rounds. -/
theorem getElem?_captured_concat {var : String}
    (h : ∀ round ∈ rounds, (round.captured var).length = 1) (i : Nat) :
    ((Bindings.concat rounds).captured var)[i]? =
      rounds[i]?.bind fun round => (round.captured var)[0]? := by
  induction rounds generalizing i with
  | nil => simp [Bindings.captured_empty]
  | cons round rounds ih =>
    obtain ⟨form, hform⟩ := List.length_eq_one_iff.mp (h round List.mem_cons_self)
    rw [Bindings.concat_cons, Bindings.captured_append, hform, List.singleton_append]
    cases i with
    | zero => simp [hform]
    | succ i =>
      rw [List.getElem?_cons_succ, List.getElem?_cons_succ]
      exact ih (fun round hround => h round (List.mem_cons_of_mem _ hround)) i

/-- A template expands in a round as it does with the bindings of that round alone, provided that its
    bound tokens are variables that every round captures once, and that all of them are marked. -/
theorem expandForm_narrow_of_rounds {template : Form} {vars : List String} (hlinear : vars.Nodup)
    (hshapes : ∀ round ∈ rounds, round.Shape vars [])
    (hcontains : ∀ t ∈ template.atoms, b.contains t = true ↔ t ∈ vars)
    (hmarked : ∀ t ∈ vars, b.isRepeated t = true)
    (hcaptured : ∀ t ∈ vars, b.captured t = (Bindings.concat rounds).captured t)
    {i : Nat} (hi : i < rounds.length) :
    expandForm s template (narrow b (drivers b template) i) = expandForm s template rounds[i] := by
  have hround := hshapes rounds[i] (List.getElem_mem hi)
  have hall : ∀ t ∈ template.atoms, b.contains t = true → b.isRepeated t = true :=
    fun t ht hbound => hmarked t ((hcontains t ht).mp hbound)
  have hbound : ∀ t ∈ template.atoms, b.contains t = rounds[i].contains t := fun t ht => by
    rw [Bool.eq_iff_iff, hcontains t ht, hround.contains_iff]
  have hget : ∀ t ∈ template.atoms,
      (narrow b (drivers b template) i).get? t = rounds[i].get? t := by
    intro t ht
    by_cases hvar : t ∈ vars
    · have hone : ∀ round ∈ rounds, (round.captured t).length = 1 := by
        intro round hmem
        rw [(hshapes round hmem).length_captured t (by simp),
          List.count_eq_one_of_mem hlinear hvar]
      obtain ⟨form, hform⟩ := List.length_eq_one_iff.mp (hone rounds[i] (List.getElem_mem hi))
      have hround_get : (b.captured t)[i]? = some form := by
        rw [hcaptured t hvar, getElem?_captured_concat hone, List.getElem?_eq_getElem hi]
        simp [hform]
      have hdriver : t ∈ drivers b template :=
        (mem_drivers_of_marked hall).mpr ⟨ht, (hcontains t ht).mpr hvar⟩
      rw [get?_narrow_of_mem hdriver hround_get, Bindings.get?_eq_ite,
        if_pos ((hround.contains_iff t).mpr hvar), hform]
    · have hfree : b.contains t = false := Bool.eq_false_iff.mpr (mt (hcontains t ht).mp hvar)
      have hdriver : t ∉ drivers b template := fun hmem => by
        rw [(mem_drivers.mp hmem).2.1] at hfree
        cases hfree
      rw [get?_narrow_of_notMem hdriver, Bindings.get?_eq_ite, Bindings.get?_eq_ite, hfree,
        hround.contains_eq_false hvar]
      rfl
  -- within the template, all bound tokens are marked on one side and none on the other
  refine expandForm_congr_of_drivers
    (fun t ht => hget t (Form.readTokens_subset_atoms template ht)) fun part hpart => ?_
  have hatoms := Form.atoms_subset_of_mem_repeatedParts hpart
  have hnone : ∀ t ∈ part.atoms, rounds[i].contains t = true → rounds[i].isRepeated t = false :=
    fun t _ _ => by simpa using hround.isRepeated_iff t
  refine ⟨?_, fun t ht => hget t (hatoms ht)⟩
  rw [drivers_narrow, drivers_eq_boundVariables fun t ht => hall t (hatoms ht),
    drivers_eq_boundVariables hnone, boundVariables, boundVariables,
    List.filter_congr fun t ht => hbound t (hatoms ht)]

/-- If the rounds capture the forms of a list one by one, together they capture the list. -/
theorem captured_concat_map {var : String} {n : Nat} {round : Nat → Bindings} {forms : List Form}
    (hlength : forms.length = n)
    (h : ∀ i < n, ∃ form, forms[i]? = some form ∧ (round i).captured var = [form]) :
    (Bindings.concat ((List.range n).map round)).captured var = forms := by
  have hone : ∀ r ∈ (List.range n).map round, (r.captured var).length = 1 := by
    intro r hr
    obtain ⟨i, hi, rfl⟩ := List.mem_map.mp hr
    obtain ⟨form, -, hform⟩ := h i (List.mem_range.mp hi)
    rw [hform, List.length_singleton]
  apply List.ext_getElem?
  intro i
  rw [getElem?_captured_concat hone]
  by_cases hi : i < n
  · obtain ⟨form, hget, hform⟩ := h i hi
    simp [hi, hget, hform]
  · simp [hi, hlength]

/-- The bindings repeat a marker-free item `n` times: exactly its variables are bound among its
    tokens, and all of them are marked and captured `n` forms. -/
structure Bindings.Repeats (literals : TokenSet) (marker : String) (b : Bindings) (item : Form)
    (n : Nat) : Prop where
  contains_iff : ∀ t ∈ item.atoms, b.contains t = true ↔ t ∈ item.vars literals marker
  isRepeated : ∀ var ∈ item.vars literals marker, b.isRepeated var = true
  length_captured : ∀ var ∈ item.vars literals marker, (b.captured var).length = n

section Repeats

variable {n : Nat} (hb : b.Repeats literals s.ellipsis item n)
include hb

theorem Bindings.Repeats.mem_drivers_iff {var : String} :
    var ∈ drivers b item ↔ var ∈ item.vars literals s.ellipsis := by
  have hmarked : ∀ t ∈ item.atoms, b.contains t = true → b.isRepeated t = true := fun t ht hbound =>
    hb.isRepeated t ((hb.contains_iff t ht).mp hbound)
  rw [mem_drivers_of_marked hmarked]
  constructor
  · rintro ⟨hmem, hbound⟩
    exact (hb.contains_iff var hmem).mp hbound
  · intro hvar
    have hmem := Form.readTokens_subset_atoms item (Form.mem_vars.mp hvar).1
    exact ⟨hmem, (hb.contains_iff var hmem).mpr hvar⟩

theorem Bindings.Repeats.repetitions_eq_ok (hvars : item.vars literals s.ellipsis ≠ []) :
    repetitions b item = .ok n := by
  obtain ⟨var, hvar⟩ := List.exists_mem_of_ne_nil _ hvars
  refine MacroByExample.repetitions_eq_ok
    (List.ne_nil_of_mem (hb.mem_drivers_iff.mpr hvar)) fun u hu => ?_
  exact hb.length_captured u (hb.mem_drivers_iff.mp hu)

theorem Bindings.Repeats.get?_narrow_var {var : String} {round : Nat} {form : Form}
    (hvar : var ∈ item.vars literals s.ellipsis) (hform : (b.captured var)[round]? = some form) :
    (narrow b (drivers b item) round).get? var = some [form] :=
  get?_narrow_of_mem (hb.mem_drivers_iff.mpr hvar) hform

theorem Bindings.Repeats.get?_narrow_other {t : String} (round : Nat) (ht : t ∈ item.atoms)
    (hother : t ∉ item.vars literals s.ellipsis) :
    (narrow b (drivers b item) round).get? t = none := by
  rw [get?_narrow_of_notMem (mt hb.mem_drivers_iff.mp hother), Bindings.get?_eq_ite,
    if_neg (mt (hb.contains_iff t ht).mp hother)]

/-- If the captures are those of the rounds of a match, the item expands in each round as it does
    with the bindings of that round alone. -/
theorem Bindings.Repeats.expandForm_narrow (hlinear : (item.vars literals s.ellipsis).Nodup)
    (hshapes : ∀ round ∈ rounds, round.Shape (item.vars literals s.ellipsis) [])
    (hcaptured : ∀ var ∈ item.vars literals s.ellipsis,
      b.captured var = (Bindings.concat rounds).captured var)
    {i : Nat} (hi : i < rounds.length) :
    expandForm s item (narrow b (drivers b item) i) = expandForm s item rounds[i] :=
  expandForm_narrow_of_rounds hlinear hshapes hb.contains_iff hb.isRepeated hcaptured hi

end Repeats

end Rounds

/-! ## Expansion after matching -/

section ExpandMatch

variable {literals : TokenSet} {s : MatchSettings} {pattern form : Form} {b : Bindings}

/-- The rounds of a repeated item, with bindings of the rest of its list behind them, repeat it. -/
theorem repeats_of_rounds {item : Form} {rest : List Form} {rounds : List Bindings} {d : Bindings}
    {groups : List (List String)} (hitem : s.ellipsis ∉ item.atoms)
    (hlinear : (item.vars literals s.ellipsis ++ (Form.list rest).vars literals s.ellipsis).Nodup)
    (hshapes : ∀ round ∈ rounds, round.Shape (item.vars literals s.ellipsis) [])
    (hd : d.Shape ((Form.list rest).vars literals s.ellipsis) groups) :
    (declareVariables literals s item .empty ++ Bindings.concat rounds ++ d).Repeats literals
      s.ellipsis item rounds.length := by
  have hgroup := shape_of_rounds hitem hshapes
  have hother : ∀ t ∈ item.atoms, t ∉ (Form.list rest).vars literals s.ellipsis := fun t ht =>
    Form.notMem_vars_of_nodup hlinear (by rwa [Form.readTokens_eq_atoms hitem])
  have hatoms : ∀ var ∈ item.vars literals s.ellipsis, var ∈ item.atoms := fun var hvar =>
    Form.readTokens_subset_atoms item (Form.mem_vars.mp hvar).1
  refine ⟨fun t ht => ?_, fun var hvar => ?_, fun var hvar => ?_⟩
  · rw [Bindings.contains_append, hd.contains_eq_false (hother t ht), Bool.or_false,
      hgroup.contains_iff]
  · rw [Bindings.isRepeated_append, Bool.or_eq_true, hgroup.isRepeated_iff]
    exact .inl ⟨_, List.mem_singleton_self _, hvar⟩
  · have hone : ∀ round ∈ rounds, (round.captured var).length = 1 := by
      intro round hmem
      rw [(hshapes round hmem).length_captured var (by simp),
        List.count_eq_one_of_mem (List.Nodup.of_append_left hlinear) hvar]
    rw [Bindings.captured_append, hd.captured_eq_nil (hother var (hatoms var hvar)),
      List.append_nil, captured_declareVariables_append, length_captured_concat hone, Nat.mul_one]

/-- A pattern expands with the bindings of a strict match to the form that was matched. -/
theorem expandForm_of_matchWhole (strict : s.trailing = .strict) (hp : pattern.OneLevel s.ellipsis)
    (hlinear : (pattern.vars literals s.ellipsis).Nodup)
    (hparts : ∀ part ∈ pattern.repeatedParts s.ellipsis, part.vars literals s.ellipsis ≠ [])
    (h : matchWhole literals s pattern form = .ok b) : expandForm s pattern b = .ok form := by
  induction pattern using Form.markerInduction s.ellipsis generalizing form b with
  | atom t =>
    rw [matchWhole, matchForm, matchToken] at h
    rw [expandForm, expandToken]
    split at h
    · split at h
      · next hform => cases h; simp [hform]
      · cases h
    · cases h; simp [Bindings.get?_capture, Bindings.captured_empty]
  | nil =>
    obtain ⟨hform, rfl⟩ := matchWhole_nil_iff.mp h
    obtain rfl := hform.resolve_right (by simp [strict])
    exact expandForm_nil
  | repeated item rest ih ihRest =>
    obtain ⟨hitem, hrest⟩ := Form.oneLevel_repeated.mp hp
    rw [Form.vars_repeated] at hlinear
    rw [Form.repeatedParts_repeated, Form.repeatedParts_eq_nil hitem, List.nil_append] at hparts
    obtain ⟨forms, rounds, d, rfl, hrounds, hd, rfl⟩ := matchWhole_repeated_iff.mp h
    have hshapes : ∀ round ∈ rounds, round.Shape (item.vars literals s.ellipsis) [] := by
      intro round hround
      obtain ⟨form, -, hform⟩ := exists_of_forall₂_of_mem hrounds hround
      simpa [Form.repeatedParts_eq_nil hitem] using shape_of_matchWhole (.of_notMem hitem) hform
    have hdShape := shape_of_matchWhole hrest hd
    have hrepeats := repeats_of_rounds hitem hlinear hshapes hdShape
    have hlinearItem := List.Nodup.of_append_left hlinear
    rw [← List.append_nil forms]
    refine expandForm_repeated ?_ ?_ ?_
    · rw [hrounds.length_eq]
      exact hrepeats.repetitions_eq_ok (hparts item List.mem_cons_self)
    · intro i hi
      have hi' : i < rounds.length := hrounds.length_eq ▸ hi
      rw [hrepeats.expandForm_narrow hlinearItem hshapes ?_ hi']
      · exact ih (.of_notMem hitem) hlinearItem (by simp [Form.repeatedParts_eq_nil hitem])
          (hrounds.get hi hi')
      · intro var hvar
        have hother := Form.notMem_vars_of_nodup hlinear (Form.mem_vars.mp hvar).1
        rw [Bindings.captured_append, hdShape.captured_eq_nil hother, List.append_nil,
          captured_declareVariables_append]
    · rw [expandForm_congr_of_oneLevel hrest (c := d)]
      · exact ihRest hrest (List.Nodup.of_append_right hlinear)
          (fun part hpart => hparts part (List.mem_cons_of_mem _ hpart)) hd
      · intro t ht
        exact (shape_of_rounds hitem hshapes).agree_right
          (Form.notMem_vars_of_nodup (List.nodup_append_comm.mp hlinear) ht)
  | single item rest hmarker ih ihRest =>
    obtain ⟨hitem, hrest⟩ := (Form.oneLevel_single hmarker).mp hp
    rw [Form.vars_single hmarker] at hlinear
    rw [Form.repeatedParts_single hmarker] at hparts
    obtain ⟨first, others, c, d, rfl, hc, hd, rfl⟩ := (matchWhole_single_iff hmarker).mp h
    have hfirst := ih hitem (List.Nodup.of_append_left hlinear)
      (fun part hpart => hparts part (List.mem_append_left _ hpart)) hc
    have hothers := ihRest hrest (List.Nodup.of_append_right hlinear)
      (fun part hpart => hparts part (List.mem_append_right _ hpart)) hd
    refine expandForm_single hmarker ?_ ?_
    · rw [← hfirst]
      refine expandForm_congr_of_oneLevel hitem fun t ht => ?_
      exact (shape_of_matchWhole hrest hd).agree_left (Form.notMem_vars_of_nodup hlinear ht)
    · rw [← hothers]
      refine expandForm_congr_of_oneLevel hrest fun t ht => ?_
      exact (shape_of_matchWhole hitem hc).agree_right
        (Form.notMem_vars_of_nodup (List.nodup_append_comm.mp hlinear) ht)

end ExpandMatch

/-! ## Matching after expansion -/

/-- The bindings assign forms to the variables of a pattern and to none of its other tokens: one
    form to each variable outside its repeated parts, as many as to each other to those of one
    part. -/
structure Bindings.Assigns (literals : TokenSet) (marker : String) (p : Form) (b : Bindings) :
    Prop where
  literal : ∀ t ∈ p.readTokens marker, literals.contains t = true → b.contains t = false
  loose : ∀ var ∈ p.vars literals marker, ¬ p.EllipsisBound literals marker var →
    ∃ form, b.get? var = some [form]
  repeats : ∀ part ∈ p.repeatedParts marker, ∃ n, b.Repeats literals marker part n

namespace Bindings.Assigns

variable {literals : TokenSet} {s : MatchSettings} {item : Form} {rest : List Form} {b : Bindings}

theorem left (hmarker : rest.head? ≠ some (.atom s.ellipsis))
    (hlinear : (item.vars literals s.ellipsis ++ (Form.list rest).vars literals s.ellipsis).Nodup)
    (h : b.Assigns literals s.ellipsis (.list (item :: rest))) :
    b.Assigns literals s.ellipsis item := by
  refine ⟨fun t ht => h.literal t ?_, fun var hvar hfree => h.loose var ?_ ?_,
    fun part hpart => h.repeats part ?_⟩
  · exact Form.readTokens_single hmarker ▸ List.mem_append_left _ ht
  · exact Form.vars_single hmarker ▸ List.mem_append_left _ hvar
  · rw [Form.ellipsisBound_single hmarker]
    rintro (hbound | hbound)
    · exact hfree hbound
    · exact List.disjoint_of_nodup_append hlinear hvar hbound.mem_vars
  · exact Form.repeatedParts_single hmarker ▸ List.mem_append_left _ hpart

theorem right (hmarker : rest.head? ≠ some (.atom s.ellipsis))
    (hlinear : (item.vars literals s.ellipsis ++ (Form.list rest).vars literals s.ellipsis).Nodup)
    (h : b.Assigns literals s.ellipsis (.list (item :: rest))) :
    b.Assigns literals s.ellipsis (.list rest) := by
  refine ⟨fun t ht => h.literal t ?_, fun var hvar hfree => h.loose var ?_ ?_,
    fun part hpart => h.repeats part ?_⟩
  · exact Form.readTokens_single hmarker ▸ List.mem_append_right _ ht
  · exact Form.vars_single hmarker ▸ List.mem_append_right _ hvar
  · rw [Form.ellipsisBound_single hmarker]
    rintro (hbound | hbound)
    · exact List.disjoint_of_nodup_append hlinear hbound.mem_vars hvar
    · exact hfree hbound
  · exact Form.repeatedParts_single hmarker ▸ List.mem_append_right _ hpart

/-- In a round, bindings that repeat an item assign one form to each of its variables. -/
theorem narrow {n i : Nat} (hitem : s.ellipsis ∉ item.atoms)
    (h : b.Repeats literals s.ellipsis item n) (hi : i < n) :
    (narrow b (drivers b item) i).Assigns literals s.ellipsis item := by
  refine ⟨fun t ht hlit => ?_, fun var hvar _ => ?_, ?_⟩
  · have hother : t ∉ item.vars literals s.ellipsis := fun hvar => by
      simpa [hlit] using (Form.mem_vars.mp hvar).2
    rw [contains_eq_isSome, h.get?_narrow_other i (Form.readTokens_subset_atoms item ht) hother]
    rfl
  · have hlt : i < (b.captured var).length := by rwa [h.length_captured var hvar]
    exact ⟨_, h.get?_narrow_var hvar (List.getElem?_eq_getElem hlt)⟩
  · simp [Form.repeatedParts_eq_nil hitem]

end Bindings.Assigns

section MatchExpand

variable {literals : TokenSet} {s : MatchSettings} {pattern : Form} {b : Bindings}

/-- A pattern expands to a form that it matches, and the match captures what was assigned. -/
theorem exists_matchWhole_of_assigns (hp : pattern.OneLevel s.ellipsis)
    (hlinear : (pattern.vars literals s.ellipsis).Nodup)
    (hparts : ∀ part ∈ pattern.repeatedParts s.ellipsis, part.vars literals s.ellipsis ≠ [])
    (hlast : pattern.markersLast s.ellipsis = true) (h : b.Assigns literals s.ellipsis pattern) :
    ∃ form, expandForm s pattern b = .ok form ∧ ∃ c, matchWhole literals s pattern form = .ok c ∧
      ∀ var ∈ pattern.vars literals s.ellipsis, c.captured var = b.captured var := by
  induction pattern using Form.markerInduction s.ellipsis generalizing b with
  | atom t =>
    rw [expandForm, expandToken]
    by_cases hlit : literals.contains t = true
    · have hnone : b.get? t = none := by
        rw [Bindings.get?_eq_ite, h.literal t (by simp) hlit]
        rfl
      exact ⟨.atom t, by rw [hnone], .empty, by simp [matchWhole, matchForm, matchToken, hlit],
        by simp [Form.vars, hlit]⟩
    · obtain ⟨form, hform⟩ := h.loose t (by simp [Form.vars, hlit]) (by simp [Form.EllipsisBound])
      refine ⟨form, by rw [hform], Bindings.empty.capture t form,
        by simp [matchWhole, matchForm, matchToken, hlit], ?_⟩
      simp [Form.vars, hlit, Bindings.captured_capture, Bindings.captured_empty,
        Bindings.captured_of_get? hform]
  | nil => exact ⟨.list [], expandForm_nil, .empty, matchWhole_nil_iff.mpr ⟨.inl rfl, rfl⟩, by simp⟩
  | repeated item rest ih ihRest =>
    obtain ⟨hitem, -⟩ := Form.oneLevel_repeated.mp hp
    rw [Form.markersLast_repeated, Bool.and_eq_true, List.isEmpty_iff] at hlast
    obtain ⟨hlastItem, rfl⟩ := hlast
    rw [Form.vars_repeated, Form.vars_nil, List.append_nil] at hlinear ⊢
    have hvars := hparts item (by simp)
    obtain ⟨n, hrepeats⟩ := h.repeats item (by simp)
    have hround : ∀ i, i < n → ∃ form, expandForm s item (narrow b (drivers b item) i) = .ok form ∧
        ∃ c, matchWhole literals s item form = .ok c ∧ ∀ var ∈ item.vars literals s.ellipsis,
          c.captured var = (narrow b (drivers b item) i).captured var := fun i hi =>
      ih (.of_notMem hitem) hlinear (by simp [Form.repeatedParts_eq_nil hitem]) hlastItem
        (.narrow hitem hrepeats hi)
    choose! form hform round hmatch hcaptured using hround
    have hgroup : ((List.range n).map form).length = n := by simp
    refine ⟨.list ((List.range n).map form ++ []), expandForm_repeated ?_ ?_ expandForm_nil,
      declareVariables literals s item .empty ++ Bindings.concat ((List.range n).map round) ++
        .empty,
      matchWhole_repeated_iff.mpr
        ⟨_, _, _, rfl, ?_, matchWhole_nil_iff.mpr ⟨.inl rfl, rfl⟩, rfl⟩, ?_⟩
    · rw [hgroup]
      exact hrepeats.repetitions_eq_ok hvars
    · intro i hi
      rw [hgroup] at hi
      simpa using hform i hi
    · rw [List.append_nil, List.forall₂_map_left_iff, List.forall₂_map_right_iff, List.forall₂_same]
      exact fun i hi => hmatch i (List.mem_range.mp hi)
    · intro var hvar
      rw [Bindings.append_empty, captured_declareVariables_append]
      -- each round captures the form that the variable holds for it
      refine captured_concat_map (hrepeats.length_captured var hvar) fun i hi => ?_
      have hlt : i < (b.captured var).length := by rwa [hrepeats.length_captured var hvar]
      have hform := List.getElem?_eq_getElem hlt
      refine ⟨_, hform, ?_⟩
      rw [hcaptured i hi var hvar]
      exact Bindings.captured_of_get? (hrepeats.get?_narrow_var hvar hform)
  | single item rest hmarker ih ihRest =>
    obtain ⟨hitem, hrest⟩ := (Form.oneLevel_single hmarker).mp hp
    rw [Form.vars_single hmarker] at hlinear
    rw [Form.repeatedParts_single hmarker] at hparts
    rw [Form.markersLast_single hmarker, Bool.and_eq_true] at hlast
    obtain ⟨first, hfirst, c, hc, hcaptured⟩ := ih hitem (List.Nodup.of_append_left hlinear)
      (fun part hpart => hparts part (List.mem_append_left _ hpart)) hlast.1
      (h.left hmarker hlinear)
    obtain ⟨form, hform, d, hd, hcaptured'⟩ := ihRest hrest (List.Nodup.of_append_right hlinear)
      (fun part hpart => hparts part (List.mem_append_right _ hpart)) hlast.2
      (h.right hmarker hlinear)
    obtain ⟨others, rfl⟩ := exists_of_expandForm_list hform
    refine ⟨_, expandForm_single hmarker hfirst hform, c ++ d,
      (matchWhole_single_iff hmarker).mpr ⟨first, others, c, d, rfl, hc, hd, rfl⟩, ?_⟩
    intro var hvar
    rw [Form.vars_single hmarker, List.mem_append] at hvar
    rw [Bindings.captured_append]
    rcases hvar with hvar | hvar
    · have hother := List.disjoint_of_nodup_append hlinear hvar
      rw [(shape_of_matchWhole hrest hd).captured_eq_nil hother, List.append_nil,
        hcaptured var hvar]
    · have hother := (List.disjoint_of_nodup_append hlinear).symm hvar
      rw [(shape_of_matchWhole hitem hc).captured_eq_nil hother, List.nil_append,
        hcaptured' var hvar]

theorem Bindings.LaidDownBy.assigns (hp : pattern.OneLevel s.ellipsis)
    (hlinear : (pattern.vars literals s.ellipsis).Nodup)
    (h : b.LaidDownBy literals s.ellipsis pattern) : b.Assigns literals s.ellipsis pattern := by
  refine ⟨fun t _ hlit => ?_, fun var hvar hfree => ?_, fun part hpart => ?_⟩
  · rw [Bool.eq_false_iff, Ne, h.contains_iff, Form.mem_vars, hlit]
    simp
  · have hbound := h.contains_iff.mpr hvar
    have hplain : b.isRepeated var = false :=
      Bool.eq_false_iff.mpr (mt (h.isRepeated_iff var).mp hfree)
    obtain ⟨form, hform⟩ := List.length_eq_one_iff.mp
      (h.length_captured_eq_one hlinear hbound hplain)
    exact ⟨form, by rw [Bindings.get?_eq_ite, if_pos hbound, hform]⟩
  · obtain ⟨n, hn⟩ : ∃ n, ∀ var ∈ part.vars literals s.ellipsis, (b.captured var).length = n := by
      cases hvars : part.vars literals s.ellipsis with
      | nil => exact ⟨0, by simp⟩
      | cons u us =>
        rw [← hvars]
        have hu : u ∈ part.vars literals s.ellipsis := by simp [hvars]
        exact ⟨(b.captured u).length, fun var hvar => h.length_captured_eq hlinear hpart hvar hu⟩
    refine ⟨n, fun t ht => ?_, fun var hvar => (h.isRepeated_iff var).mpr ⟨part, hpart, hvar⟩, hn⟩
    rw [h.contains_iff, Form.mem_vars, Form.mem_vars, Form.readTokens_eq_atoms (hp part hpart)]
    exact and_congr_left fun _ => ⟨fun _ => ht, fun _ => hp.atoms_subset hpart ht⟩

end MatchExpand

/-! ## Main theorems -/

section Main

variable {literals : TokenSet} {s : MatchSettings} {pattern form : Form} {b : Bindings}

/-- **Expansion undoes a match.** Let a pattern pass the check, let none of its variables occur
    twice, and let each of its repeated parts have a variable. If a form matches it under the
    strict policy, then the pattern, taken as a template, expands to that form with the bindings
    of the match. -/
theorem expandForm_self_of_matchWhole (strict : s.trailing = .strict)
    (accepted : checkPattern s pattern = .ok ())
    (linear : (pattern.vars literals s.ellipsis).Nodup)
    (bound : ∀ part ∈ pattern.repeatedParts s.ellipsis, part.vars literals s.ellipsis ≠ [])
    (matched : matchWhole literals s pattern form = .ok b) :
    expandForm s pattern b = .ok form :=
  expandForm_of_matchWhole strict (oneLevel_of_checkPattern accepted) linear bound matched

/-- The pattern `(let (... x) ((name (value =>)) ...) body ...)` with the literal `=>`. -/
theorem expandForm_self_of_matchWhole_let :
    let s : MatchSettings := {}
    let literals : TokenSet := .ofList ["=>"]
    let pattern : Form := .list [.atom "let", .list [.atom "...", .atom "x"],
      .list [.list [.atom "name", .list [.atom "value", .atom "=>"]], .atom "..."],
      .atom "body", .atom "..."]
    let form : Form := .list [.list [], .list [.atom "1", .atom "x"],
      .list [.list [.atom "a", .list [.atom "2", .atom "=>"]],
        .list [.atom "b", .list [.list [.atom "3"], .atom "=>"]]]]
    checkPattern s pattern = .ok () ∧
      ∃ b, matchWhole literals s pattern form = .ok b ∧ expandForm s pattern b = .ok form := by
  intro s literals pattern form
  have accepted : checkPattern s pattern = .ok () := by decide +kernel
  obtain ⟨b, matched⟩ : ∃ b, matchWhole literals s pattern form = .ok b := ⟨_, rfl⟩
  exact ⟨accepted, b, matched, expandForm_self_of_matchWhole rfl accepted (by decide +kernel)
    (by decide +kernel) matched⟩

/-- **A match undoes an expansion.** Let a pattern be as before, and let every marker that repeats
    an item be the last of its list. For all bindings of exactly the variables of the pattern that
    mark those of the repeated parts, hold one form for each other variable, and equally many for
    the variables of one part, the pattern expands to a form, and that form matches the pattern
    with exactly these bindings, under either policy. -/
theorem matchWhole_expandForm_self (accepted : checkPattern s pattern = .ok ())
    (linear : (pattern.vars literals s.ellipsis).Nodup)
    (bound : ∀ part ∈ pattern.repeatedParts s.ellipsis, part.vars literals s.ellipsis ≠ [])
    (last : pattern.markersLast s.ellipsis = true)
    (domain : ∀ var, var ∈ b.domain ↔ var ∈ pattern.vars literals s.ellipsis)
    (repeated : ∀ var, b.isRepeated var = true ↔ pattern.EllipsisBound literals s.ellipsis var)
    (single : ∀ var ∈ pattern.vars literals s.ellipsis,
      ¬ pattern.EllipsisBound literals s.ellipsis var → ∃ form, b.captured var = [form])
    (aligned : ∀ part ∈ pattern.repeatedParts s.ellipsis, ∀ u ∈ part.vars literals s.ellipsis,
      ∀ v ∈ part.vars literals s.ellipsis, (b.captured u).length = (b.captured v).length) :
    ∃ form, expandForm s pattern b = .ok form ∧
      ∀ policy, matchWhole literals { s with trailing := policy } pattern form = .ok b := by
  have assigned : b.LaidDownBy literals s.ellipsis pattern :=
    .of_linear linear domain repeated single aligned
  have hp := oneLevel_of_checkPattern accepted
  have hassigns := assigned.assigns hp linear
  obtain ⟨form, hform, -⟩ := exists_matchWhole_of_assigns hp linear bound last hassigns
  refine ⟨form, hform, fun policy => ?_⟩
  obtain ⟨form', hform', c, hc, hcaptured⟩ := exists_matchWhole_of_assigns
    (s := { s with trailing := policy }) hp linear bound last hassigns
  obtain rfl : form = form' := by
    have hmarker : { s with trailing := policy }.ellipsis = s.ellipsis := rfl
    have hsame := expandForm_congr_settings hmarker pattern b
    rw [hsame, hform] at hform'
    exact Except.ok.inj hform'
  have hlaid := (shape_of_matchWhole (s := { s with trailing := policy }) hp hc).laidDownBy
  rw [← hlaid.ext assigned hcaptured]
  exact hc

/-- The pattern `(let (* x) ((name (value =>)) *) body *)` with the literal `=>` and the marker
    `*`, and an assignment in which a form that was captured contains the literal and the marker. -/
theorem matchWhole_expandForm_self_let :
    let s : MatchSettings := { ellipsis := "*" }
    let literals : TokenSet := .ofList ["=>"]
    let pattern : Form := .list [.atom "let", .list [.atom "*", .atom "x"],
      .list [.list [.atom "name", .list [.atom "value", .atom "=>"]], .atom "*"],
      .atom "body", .atom "*"]
    ∃ b : Bindings, b.captured "value" = [.atom "=>", .list [.atom "*"]] ∧
      (∀ var, var ∈ b.domain ↔ var ∈ pattern.vars literals s.ellipsis) ∧
        ∃ form, expandForm s pattern b = .ok form ∧
          ∀ policy, matchWhole literals { s with trailing := policy } pattern form = .ok b := by
  intro s literals pattern
  have accepted : checkPattern s pattern = .ok () := by decide +kernel
  have linear : (pattern.vars literals s.ellipsis).Nodup := by decide +kernel
  obtain ⟨b, matched, hvalue⟩ : ∃ b, matchWhole literals s pattern (.list [.list [],
      .list [.atom "1", .atom "x"], .list [.list [.atom "a", .list [.atom "=>", .atom "=>"]],
        .list [.atom "b", .list [.list [.atom "*"], .atom "=>"]]]]) = .ok b ∧
      b.captured "value" = [.atom "=>", .list [.atom "*"]] := ⟨_, rfl, by decide +kernel⟩
  have assigned := (shape_of_matchWhole (oneLevel_of_checkPattern accepted) matched).laidDownBy
  have single : ∀ var ∈ pattern.vars literals s.ellipsis,
      ¬ pattern.EllipsisBound literals s.ellipsis var → ∃ form, b.captured var = [form] := by
    intro var hvar hfree
    rw [← List.length_eq_one_iff, assigned.length_captured var hfree,
      List.count_eq_one_of_mem linear hvar]
  exact ⟨b, hvalue, assigned.mem_domain_iff,
    matchWhole_expandForm_self accepted linear (by decide +kernel) (by decide +kernel)
      assigned.mem_domain_iff assigned.isRepeated_iff single
      fun part hpart u hu v hv => assigned.length_captured_eq linear hpart hu hv⟩

end Main

end MacroByExample
