import MacroByExample.Proofs.Rules.Extension

/-!
# The steps of an expansion

A list template expands item by item, a repeated item in as many rounds as its drivers have
captures. What a template expands to depends only on the bindings of the tokens it reads, and on
the marks of the tokens of its repeated parts.

* `expandForm_single`, `expandForm_repeated`: the expansion of a list template, and with `exists_of`
  in front of their names when it succeeds.
* `repetitions`, `get?_narrow`: the number of rounds of a repetition, and their bindings.
* `expandForm_congr_of_drivers`, `expandForm_congr`: bindings that agree on what a template reads
  and repeats give the same expansion.
* `expandForm_eq_of_agreeOn`: so do bindings that agree on the tokens of a template.
-/

namespace MacroByExample

/-! ## Items -/

/-- How often a template is repeated: as often as its first driver captured, provided that the
    others captured equally often. -/
def repetitions (b : Bindings) (template : Form) : Except ExpandError Nat :=
  match drivers b template with
  | [] => .error (.unboundEllipsis template)
  | first :: others =>
    let count := (b.captured first).length
    match others.find? fun var => (b.captured var).length != count with
    | some other => .error (.lengthMismatch template first count other (b.captured other).length)
    | none => .ok count

section Items

variable {s : MatchSettings} {item : Form} {rest : List Form} {b : Bindings}

theorem iterations_eq_map (b : Bindings) (item : Form) :
    iterations b item =
      (repetitions b item).map fun n => (List.range n).map (narrow b (drivers b item)) := by
  unfold iterations repetitions
  cases drivers b item with
  | nil => rfl
  | cons first others =>
    simp only
    cases others.find? fun var => (b.captured var).length != (b.captured first).length <;> rfl

theorem expandItems_repeated :
    expandItems s (item :: .atom s.ellipsis :: rest) b =
      (repetitions b item).bind fun n =>
        ((List.range n).mapM fun round =>
          expandForm s item (narrow b (drivers b item) round)).bind fun group =>
            (expandItems s rest b).map (group ++ ·) := by
  rw [expandItems.eq_def]
  simp only [MatchSettings.isEllipsis_atom, beq_self_eq_true, ite_true, iterations_eq_map]
  cases repetitions b item with
  | error e => rfl
  | ok n =>
    have hmap : ((List.range n).map (narrow b (drivers b item))).mapM (expandForm s item) =
        (List.range n).mapM fun round => expandForm s item (narrow b (drivers b item) round) :=
      List.mapM_map
    rw [Except.bind, ← hmap]
    rfl

theorem expandItems_single (hmarker : rest.head? ≠ some (.atom s.ellipsis)) :
    expandItems s (item :: rest) b =
      (expandForm s item b).bind fun form => (expandItems s rest b).map (form :: ·) := by
  cases rest with
  | nil =>
    rw [expandItems, expandItems]
    cases expandForm s item b <;> rfl
  | cons next rest =>
    rw [expandItems.eq_def]
    simp only [s.isEllipsis_eq_false hmarker, Bool.false_eq_true, ite_false]
    rfl

theorem expandForm_list_eq_ok_iff {templates forms : List Form} :
    expandForm s (.list templates) b = .ok (.list forms) ↔
      expandItems s templates b = .ok forms := by
  rw [expandForm]
  cases expandItems s templates b <;> simp [Except.map]

theorem expandForm_list_congr_iff {s' : MatchSettings} {templates templates' : List Form}
    {c : Bindings} :
    expandForm s (.list templates) b = expandForm s' (.list templates') c ↔
      expandItems s templates b = expandItems s' templates' c := by
  rw [expandForm, expandForm]
  cases expandItems s templates b <;> cases expandItems s' templates' c <;> simp [Except.map]

/-- A list template expands to a list. -/
theorem exists_of_expandForm_list {templates : List Form} {out : Form}
    (h : expandForm s (.list templates) b = .ok out) : ∃ forms, out = .list forms := by
  rw [expandForm] at h
  cases hitems : expandItems s templates b with
  | error e => simp [hitems, Except.map] at h
  | ok forms =>
    rw [hitems] at h
    exact ⟨forms, (Except.ok.inj h).symm⟩

theorem expandForm_nil : expandForm s (.list []) b = .ok (.list []) := by
  rw [expandForm, expandItems]
  rfl

theorem expandForm_single (hmarker : rest.head? ≠ some (.atom s.ellipsis)) {form : Form}
    {forms : List Form} (hitem : expandForm s item b = .ok form)
    (hrest : expandForm s (.list rest) b = .ok (.list forms)) :
    expandForm s (.list (item :: rest)) b = .ok (.list (form :: forms)) := by
  rw [expandForm_list_eq_ok_iff] at hrest ⊢
  rw [expandItems_single hmarker, hitem, hrest]
  rfl

theorem expandForm_repeated {group forms : List Form}
    (hcount : repetitions b item = .ok group.length)
    (hgroup : ∀ (round : Nat) (h : round < group.length),
      expandForm s item (narrow b (drivers b item) round) = .ok group[round])
    (hrest : expandForm s (.list rest) b = .ok (.list forms)) :
    expandForm s (.list (item :: .atom s.ellipsis :: rest)) b = .ok (.list (group ++ forms)) := by
  have hrounds : (List.range group.length).mapM (fun round =>
      expandForm s item (narrow b (drivers b item) round)) = .ok group := by
    rw [mapM_eq_ok_iff, List.forall₂_iff_get]
    refine ⟨List.length_range, fun round hrange hround => ?_⟩
    simpa using hgroup round hround
  rw [expandForm_list_eq_ok_iff] at hrest ⊢
  rw [expandItems_repeated, hcount, Except.bind, hrounds, hrest]
  rfl

/-- When a list template that starts with a single item expands, and to what. -/
theorem exists_of_expandForm_single (hmarker : rest.head? ≠ some (.atom s.ellipsis)) {out : Form}
    (h : expandForm s (.list (item :: rest)) b = .ok out) :
    ∃ form forms, expandForm s item b = .ok form ∧
      expandForm s (.list rest) b = .ok (.list forms) ∧ out = .list (form :: forms) := by
  obtain ⟨items, rfl⟩ := exists_of_expandForm_list h
  rw [expandForm_list_eq_ok_iff, expandItems_single hmarker] at h
  obtain ⟨form, hform, h⟩ := bind_eq_ok_iff.mp h
  obtain ⟨forms, hforms, rfl⟩ := map_eq_ok_iff.mp h
  exact ⟨form, forms, hform, expandForm_list_eq_ok_iff.mpr hforms, rfl⟩

/-- When a list template that starts with a repeated item expands, and to what. -/
theorem exists_of_expandForm_repeated {out : Form}
    (h : expandForm s (.list (item :: .atom s.ellipsis :: rest)) b = .ok out) :
    ∃ n group forms, repetitions b item = .ok n ∧
      List.Forall₂ (fun round form =>
        expandForm s item (narrow b (drivers b item) round) = .ok form) (List.range n) group ∧
      expandForm s (.list rest) b = .ok (.list forms) ∧ out = .list (group ++ forms) := by
  obtain ⟨items, rfl⟩ := exists_of_expandForm_list h
  rw [expandForm_list_eq_ok_iff, expandItems_repeated] at h
  obtain ⟨n, hn, h⟩ := bind_eq_ok_iff.mp h
  obtain ⟨group, hgroup, h⟩ := bind_eq_ok_iff.mp h
  obtain ⟨forms, hforms, rfl⟩ := map_eq_ok_iff.mp h
  exact ⟨n, group, forms, hn, mapM_eq_ok_iff.mp hgroup, expandForm_list_eq_ok_iff.mpr hforms, rfl⟩

end Items

/-! ## Rounds -/

section Rounds

variable {b c : Bindings} {item : Form}

theorem mem_boundVariables {var : String} :
    var ∈ boundVariables b item ↔ var ∈ item.atoms ∧ b.contains var = true := by
  rw [boundVariables, List.mem_eraseDups, List.mem_filter]

/-- The drivers of a template are its bound tokens, the marked ones if there are any. -/
theorem mem_drivers {var : String} :
    var ∈ drivers b item ↔ var ∈ item.atoms ∧ b.contains var = true ∧
      ((∃ u ∈ item.atoms, b.contains u = true ∧ b.isRepeated u = true) →
        b.isRepeated var = true) := by
  have hany : (boundVariables b item).any b.isRepeated = true ↔
      ∃ u ∈ item.atoms, b.contains u = true ∧ b.isRepeated u = true := by
    simp only [List.any_eq_true, mem_boundVariables, and_assoc]
  rw [drivers]
  by_cases h : (boundVariables b item).any b.isRepeated = true
  · simp only [h, if_true, List.mem_filter, mem_boundVariables, hany.mp h, true_implies, and_assoc]
  · simp [h, mem_boundVariables, mt hany.mpr h]

/-- If the bound tokens of a template are marked alike, all of them drive its repetition. -/
theorem drivers_eq_boundVariables {mark : Bool}
    (h : ∀ t ∈ item.atoms, b.contains t = true → b.isRepeated t = mark) :
    drivers b item = boundVariables b item := by
  have hmark : ∀ t ∈ boundVariables b item, b.isRepeated t = mark := fun t ht =>
    h t (mem_boundVariables.mp ht).1 (mem_boundVariables.mp ht).2
  rw [drivers]
  split
  · next hany =>
    obtain ⟨t, ht, hmarked⟩ := List.any_eq_true.mp hany
    have htrue : mark = true := by rw [← hmark t ht, hmarked]
    rw [List.filter_eq_self]
    intro u hu
    rw [hmark u hu, htrue]
  · rfl

/-- If every bound token of a template is marked, all of them drive its repetition. -/
theorem mem_drivers_of_marked
    (h : ∀ var ∈ item.atoms, b.contains var = true → b.isRepeated var = true) {var : String} :
    var ∈ drivers b item ↔ var ∈ item.atoms ∧ b.contains var = true := by
  rw [drivers_eq_boundVariables h, mem_boundVariables]

/-- A bound token of a template drives its repetition, unless it is not marked. -/
theorem mem_drivers_or {var : String} (hvar : var ∈ item.atoms) (hbound : b.contains var = true) :
    var ∈ drivers b item ∨ b.isRepeated var = false := by
  cases hmark : b.isRepeated var with
  | false => exact .inr rfl
  | true => exact .inl (mem_drivers.mpr ⟨hvar, hbound, fun _ => hmark⟩)

/-- The drivers of a template are its bound tokens with the mark of any one of them. -/
theorem mem_drivers_iff_of_mem {var t : String} (hvar : var ∈ drivers b item) :
    t ∈ drivers b item ↔
      t ∈ item.atoms ∧ b.contains t = true ∧ b.isRepeated t = b.isRepeated var := by
  obtain ⟨hatom, hbound, hmark⟩ := mem_drivers.mp hvar
  rw [mem_drivers]
  refine and_congr_right fun ht => and_congr_right fun htbound => ⟨fun htmark => ?_, ?_⟩
  · rw [Bool.eq_iff_iff]
    exact ⟨fun h => hmark ⟨t, ht, htbound, h⟩, fun h => htmark ⟨var, hatom, hbound, h⟩⟩
  · intro hsame hmarked
    rw [hsame, hmark hmarked]

theorem drivers_ne_nil {var : String} (hvar : var ∈ item.atoms) (hbound : b.contains var = true) :
    drivers b item ≠ [] := by
  by_cases hmarked : ∃ u ∈ item.atoms, b.contains u = true ∧ b.isRepeated u = true
  · obtain ⟨u, hu, hubound, humark⟩ := hmarked
    exact List.ne_nil_of_mem (mem_drivers.mpr ⟨hu, hubound, fun _ => humark⟩)
  · exact List.ne_nil_of_mem (mem_drivers.mpr ⟨hvar, hbound, fun h => absurd h hmarked⟩)

theorem get?_foldl_narrow (vars : List String) (round : Nat) (acc : Bindings) (var : String) :
    (vars.foldl (fun acc var =>
      match (b.captured var)[round]? with
      | some form => acc.withSingle var form
      | none => acc) acc).get? var =
      match (if var ∈ vars then (b.captured var)[round]? else none) with
      | some form => some [form]
      | none => acc.get? var := by
  induction vars generalizing acc with
  | nil => simp
  | cons v vars ih =>
    rw [List.foldl_cons, ih]
    by_cases hv : var = v
    · subst hv
      cases (b.captured var)[round]? <;> by_cases hvars : var ∈ vars <;>
        simp [hvars, Bindings.get?_withSingle]
    · cases h : (b.captured v)[round]? <;> simp [hv, Bindings.get?_withSingle]

/-- In a round, a driver has captured the form of that round alone; nothing else changes. -/
theorem get?_narrow (b : Bindings) (vars : List String) (round : Nat) (var : String) :
    (narrow b vars round).get? var =
      match (if var ∈ vars then (b.captured var)[round]? else none) with
      | some form => some [form]
      | none => b.get? var :=
  get?_foldl_narrow vars round b var

theorem get?_narrow_of_mem {vars : List String} {round : Nat} {var : String} {form : Form}
    (hvar : var ∈ vars) (hform : (b.captured var)[round]? = some form) :
    (narrow b vars round).get? var = some [form] := by
  rw [get?_narrow, if_pos hvar, hform]

/-- In a round, a driver that captured a form for it is left with one form. -/
theorem length_captured_narrow_of_mem {vars : List String} {round : Nat} {var : String}
    (hvar : var ∈ vars) (hround : round < (b.captured var).length) :
    ((narrow b vars round).captured var).length = 1 := by
  have hget := get?_narrow_of_mem hvar (List.getElem?_eq_getElem hround)
  rw [Bindings.captured_of_get? hget, List.length_singleton]

theorem get?_narrow_of_notMem {vars : List String} {round : Nat} {var : String}
    (hvar : var ∉ vars) : (narrow b vars round).get? var = b.get? var := by
  rw [get?_narrow, if_neg hvar]

theorem contains_narrow (b : Bindings) (vars : List String) (round : Nat) (var : String) :
    (narrow b vars round).contains var = b.contains var := by
  rw [Bindings.contains_eq_isSome, get?_narrow]
  split
  · next form hform =>
    split at hform
    · cases hbound : b.contains var
      · simp [Bindings.captured_of_contains_eq_false hbound] at hform
      · rfl
    · cases hform
  · rfl

theorem isRepeated_foldl_narrow (vars : List String) (round : Nat) (acc : Bindings)
    (var : String) :
    (vars.foldl (fun acc var =>
      match (b.captured var)[round]? with
      | some form => acc.withSingle var form
      | none => acc) acc).isRepeated var = acc.isRepeated var := by
  induction vars generalizing acc with
  | nil => rfl
  | cons v vars ih =>
    rw [List.foldl_cons, ih]
    split <;> rfl

theorem isRepeated_narrow (b : Bindings) (vars : List String) (round : Nat) (var : String) :
    (narrow b vars round).isRepeated var = b.isRepeated var :=
  isRepeated_foldl_narrow vars round b var

/-- Drivers that captured equally often repeat a template that often. -/
theorem repetitions_eq_ok {n : Nat} (hdrivers : drivers b item ≠ [])
    (hlength : ∀ var ∈ drivers b item, (b.captured var).length = n) :
    repetitions b item = .ok n := by
  unfold repetitions
  cases h : drivers b item with
  | nil => exact absurd h hdrivers
  | cons first others =>
    rw [h] at hlength
    have hothers : others.find? (fun var => (b.captured var).length != n) = none := by
      rw [List.find?_eq_none]
      intro var hvar
      simp [hlength var (List.mem_cons_of_mem _ hvar)]
    simp only [hlength first List.mem_cons_self, hothers]

/-- All drivers of a template captured as often as it is repeated. -/
theorem length_captured_of_repetitions {n : Nat} (h : repetitions b item = .ok n) {var : String}
    (hvar : var ∈ drivers b item) : (b.captured var).length = n := by
  unfold repetitions at h
  cases hdrivers : drivers b item with
  | nil =>
    rw [hdrivers] at hvar
    cases hvar
  | cons first others =>
    simp only [hdrivers] at h
    split at h
    · cases h
    · next hnone =>
      cases h
      rw [hdrivers] at hvar
      rcases List.mem_cons.mp hvar with rfl | hvar
      · rfl
      · simpa using List.find?_eq_none.mp hnone var hvar

/-- Why a template cannot be repeated: it has no drivers, or two that captured different numbers of
    forms. -/
theorem repetitions_eq_error {e : ExpandError} (h : repetitions b item = .error e) :
    (drivers b item = [] ∧ e = .unboundEllipsis item) ∨
      ∃ first ∈ drivers b item, ∃ other ∈ drivers b item,
        (b.captured first).length ≠ (b.captured other).length ∧
          e = .lengthMismatch item first (b.captured first).length other
            (b.captured other).length := by
  unfold repetitions at h
  cases hdrivers : drivers b item with
  | nil =>
    simp only [hdrivers] at h
    exact .inl ⟨rfl, (Except.error.inj h).symm⟩
  | cons first others =>
    simp only [hdrivers] at h
    split at h
    · next other hother =>
      have hne : (b.captured other).length ≠ (b.captured first).length := by
        simpa using List.find?_some hother
      exact .inr ⟨first, List.mem_cons_self, other,
        List.mem_cons_of_mem _ (List.mem_of_find?_eq_some hother), hne.symm,
        (Except.error.inj h).symm⟩
    · cases h

end Rounds

/-! ## Agreement -/

section Agreement

variable {s : MatchSettings} {b c : Bindings}

theorem captured_congr {var : String} (h : b.get? var = c.get? var) :
    b.captured var = c.captured var := by
  rw [Bindings.captured, Bindings.captured, h]

theorem contains_congr {var : String} (h : b.get? var = c.get? var) :
    b.contains var = c.contains var := by
  rw [Bindings.contains_eq_isSome, Bindings.contains_eq_isSome, h]

theorem drivers_congr {item : Form} (hcontains : ∀ t ∈ item.atoms, b.contains t = c.contains t)
    (hmark : ∀ t ∈ item.atoms, b.isRepeated t = c.isRepeated t) :
    drivers b item = drivers c item := by
  have hbound : boundVariables b item = boundVariables c item := by
    rw [boundVariables, boundVariables, List.filter_congr hcontains]
  have hatoms : ∀ t ∈ boundVariables c item, t ∈ item.atoms := fun t ht =>
    (mem_boundVariables.mp ht).1
  have hfilter : (boundVariables c item).filter b.isRepeated =
      (boundVariables c item).filter c.isRepeated :=
    List.filter_congr fun t ht => hmark t (hatoms t ht)
  have hany : (boundVariables c item).any b.isRepeated =
      (boundVariables c item).any c.isRepeated := by
    rw [Bool.eq_iff_iff, List.any_eq_true, List.any_eq_true]
    exact exists_congr fun t => and_congr_right fun ht => by rw [hmark t (hatoms t ht)]
  rw [drivers, drivers, hbound, hfilter, hany]

/-- Bindings with the same drivers, and with the same captures of them, repeat a template equally
    often. -/
theorem repetitions_congr_of_drivers {item : Form} (hdrivers : drivers b item = drivers c item)
    (hcaptured : ∀ t ∈ drivers c item, b.captured t = c.captured t) :
    repetitions b item = repetitions c item := by
  unfold repetitions
  rw [hdrivers]
  cases h : drivers c item with
  | nil => rfl
  | cons first others =>
    rw [h] at hcaptured
    have hfind : others.find? (fun t => (b.captured t).length != (c.captured first).length) =
        others.find? (fun t => (c.captured t).length != (c.captured first).length) := by
      rw [← List.head?_filter, ← List.head?_filter, List.filter_congr]
      intro t ht
      rw [hcaptured t (List.mem_cons_of_mem _ ht)]
    simp only [hcaptured first List.mem_cons_self, hfind]
    cases hother : others.find? (fun t => (c.captured t).length != (c.captured first).length) with
    | none => rfl
    | some other =>
      simp only [hcaptured other (List.mem_cons_of_mem _ (List.mem_of_find?_eq_some hother))]

/-- A round does not change what drives a template. -/
theorem drivers_narrow (b : Bindings) (vars : List String) (round : Nat) (item : Form) :
    drivers (narrow b vars round) item = drivers b item :=
  drivers_congr (fun t _ => contains_narrow b vars round t)
    fun t _ => isRepeated_narrow b vars round t

theorem get?_narrow_congr {var : String} (h : b.get? var = c.get? var) (vars : List String)
    (round : Nat) : (narrow b vars round).get? var = (narrow c vars round).get? var := by
  rw [get?_narrow, get?_narrow, captured_congr h, h]

/-- Bindings that agree on the tokens a template reads, and on the drivers and the tokens of its
    repeated parts, give the same expansion. -/
theorem expandForm_congr_of_drivers {template : Form}
    (hget : ∀ t ∈ template.readTokens s.ellipsis, b.get? t = c.get? t)
    (hparts : ∀ part ∈ template.repeatedParts s.ellipsis,
      drivers b part = drivers c part ∧ ∀ t ∈ part.atoms, b.get? t = c.get? t) :
    expandForm s template b = expandForm s template c := by
  induction template using Form.markerInduction s.ellipsis generalizing b c with
  | atom t => simp [expandForm, expandToken, hget t (by simp)]
  | nil => rw [expandForm_nil, expandForm_nil]
  | repeated item rest ih ihRest =>
    rw [Form.readTokens_repeated] at hget
    rw [Form.repeatedParts_repeated] at hparts
    obtain ⟨hdrivers, hitem⟩ := hparts item List.mem_cons_self
    have hrest : expandForm s (.list rest) b = expandForm s (.list rest) c :=
      ihRest (fun t ht => hget t (List.mem_append_right _ ht))
        fun part hpart => hparts part (by simp [hpart])
    have hround : ∀ vars round,
        expandForm s item (narrow b vars round) = expandForm s item (narrow c vars round) := by
      intro vars round
      refine ih (fun t ht => ?_) fun part hpart => ⟨?_, fun t ht => ?_⟩
      · exact get?_narrow_congr (hget t (List.mem_append_left _ ht)) vars round
      · rw [drivers_narrow, drivers_narrow]
        exact (hparts part (by simp [hpart])).1
      · exact get?_narrow_congr ((hparts part (by simp [hpart])).2 t ht) vars round
    have hcount : repetitions b item = repetitions c item :=
      repetitions_congr_of_drivers hdrivers fun t ht =>
        captured_congr (hitem t (mem_drivers.mp ht).1)
    rw [expandForm_list_congr_iff] at hrest ⊢
    rw [expandItems_repeated, expandItems_repeated, hrest, hcount, hdrivers]
    simp only [hround]
  | single item rest hmarker ih ihRest =>
    rw [Form.readTokens_single hmarker] at hget
    rw [Form.repeatedParts_single hmarker] at hparts
    have hitem : expandForm s item b = expandForm s item c :=
      ih (fun t ht => hget t (List.mem_append_left _ ht))
        fun part hpart => hparts part (List.mem_append_left _ hpart)
    have hrest : expandForm s (.list rest) b = expandForm s (.list rest) c :=
      ihRest (fun t ht => hget t (List.mem_append_right _ ht))
        fun part hpart => hparts part (List.mem_append_right _ hpart)
    rw [expandForm_list_congr_iff] at hrest ⊢
    rw [expandItems_single hmarker, expandItems_single hmarker, hitem, hrest]

/-- Bindings that agree on the tokens a template reads, and on the marks of the tokens of its
    repeated parts, give the same expansion. -/
theorem expandForm_congr {template : Form}
    (hget : ∀ t ∈ template.readTokens s.ellipsis, b.get? t = c.get? t)
    (hparts : ∀ part ∈ template.repeatedParts s.ellipsis, ∀ t ∈ part.atoms,
      b.get? t = c.get? t ∧ b.isRepeated t = c.isRepeated t) :
    expandForm s template b = expandForm s template c :=
  expandForm_congr_of_drivers hget fun part hpart =>
    ⟨drivers_congr (fun t ht => contains_congr (hparts part hpart t ht).1)
      fun t ht => (hparts part hpart t ht).2, fun t ht => (hparts part hpart t ht).1⟩

/-- The two bindings treat each of the tokens alike: it is bound in both or in neither, with the
    same captures, and marked in both or in neither. -/
structure Bindings.AgreeOn (tokens : List String) (b c : Bindings) : Prop where
  contains : ∀ t ∈ tokens, b.contains t = c.contains t
  captured : ∀ t ∈ tokens, b.captured t = c.captured t
  isRepeated : ∀ t ∈ tokens, b.isRepeated t = c.isRepeated t

theorem Bindings.AgreeOn.get? {tokens : List String} (h : b.AgreeOn tokens c) {t : String}
    (ht : t ∈ tokens) : b.get? t = c.get? t := by
  rw [get?_eq_ite, get?_eq_ite, h.contains t ht, h.captured t ht]

/-- **Expansions look only at the tokens of the template.** If two bindings agree on every token
that occurs in a template, at whatever depth of repetition, then the template expands with both to
the same form, or fails with both with the same error. -/
theorem expandForm_eq_of_agreeOn {template : Form} (agree : b.AgreeOn template.atoms c) :
    expandForm s template b = expandForm s template c := by
  refine expandForm_congr (fun t ht => ?_) fun part hpart t ht => ?_
  · exact agree.get? (Form.readTokens_subset_atoms template ht)
  · have hatom : t ∈ template.atoms := Form.atoms_subset_of_mem_repeatedParts hpart ht
    exact ⟨agree.get? hatom, agree.isRepeated t hatom⟩

/-- The bindings of a match, and others that differ from them at `let` and `other`. In the first
    template, rounds inside of rounds narrow `value` twice; in the second, `name` and `none` cannot
    drive rounds together. -/
theorem expandForm_eq_of_agreeOn_nested :
    let s : MatchSettings := {}
    let pattern : Form := .list [.atom "let",
      .list [.list [.atom "name", .atom "value"], .atom "..."], .atom "body", .atom "none",
      .atom "..."]
    let form : Form := .list [.atom "let",
      .list [.list [.atom "a", .atom "1"], .list [.atom "b", .list [.atom "2"]]], .atom "end"]
    let b : Bindings := (matchWhole .empty s pattern form).toOption.getD .empty
    let c : Bindings := ((b.capture "let" (.atom "x")).declareRepeated "other").capture "other"
      (.atom "y")
    let pairs : Form := .list [.list [.atom "fun", .list [.atom "name", .atom "..."], .atom "body"],
      .list [.atom "name", .list [.list [.atom "value", .atom "body"], .atom "..."]], .atom "..."]
    let uneven : Form := .list [.atom "body", .list [.atom "name", .atom "none"], .atom "..."]
    let output : Form := .list [
      .list [.atom "fun", .list [.atom "a", .atom "b"], .atom "end"],
      .list [.atom "a", .list [.list [.atom "1", .atom "end"]]],
      .list [.atom "b", .list [.list [.list [.atom "2"], .atom "end"]]]]
    let error : ExpandError :=
      .lengthMismatch (.list [.atom "name", .atom "none"]) "name" 2 "none" 0
    matchWhole .empty s pattern form = .ok b ∧ b ≠ c ∧
      b.AgreeOn pairs.atoms c ∧ b.AgreeOn uneven.atoms c ∧
      expandForm s pairs b = .ok output ∧ expandForm s pairs c = .ok output ∧
      expandForm s uneven b = .error error ∧ expandForm s uneven c = .error error := by
  intro s pattern form b c pairs uneven output error
  have hmatch : matchWhole .empty s pattern form = .ok b := rfl
  have hne : b ≠ c := by decide +kernel
  have hpairs : b.AgreeOn pairs.atoms c :=
    ⟨by decide +kernel, by decide +kernel, by decide +kernel⟩
  have huneven : b.AgreeOn uneven.atoms c :=
    ⟨by decide +kernel, by decide +kernel, by decide +kernel⟩
  have houtput : expandForm s pairs b = .ok output := by decide +kernel
  have herror : expandForm s uneven b = .error error := by decide +kernel
  refine ⟨hmatch, hne, hpairs, huneven, houtput, ?_, herror, ?_⟩
  · rw [← expandForm_eq_of_agreeOn hpairs]
    exact houtput
  · rw [← expandForm_eq_of_agreeOn huneven]
    exact herror

/-- An expansion depends on the marker alone among the settings. -/
theorem expandForm_congr_settings {s' : MatchSettings} (h : s'.ellipsis = s.ellipsis)
    (template : Form) (b : Bindings) : expandForm s' template b = expandForm s template b := by
  induction template using Form.markerInduction s.ellipsis generalizing b with
  | atom t => rfl
  | nil => rw [expandForm_nil, expandForm_nil]
  | repeated item rest ih ihRest =>
    have hrest := expandForm_list_congr_iff.mp (ihRest b)
    have hitems : expandItems s' (item :: .atom s'.ellipsis :: rest) b =
        expandItems s (item :: .atom s.ellipsis :: rest) b := by
      rw [expandItems_repeated, expandItems_repeated, hrest]
      simp only [ih]
    rw [← h] at hitems ⊢
    exact expandForm_list_congr_iff.mpr hitems
  | single item rest hmarker ih ihRest =>
    have hrest := expandForm_list_congr_iff.mp (ihRest b)
    rw [expandForm_list_congr_iff, expandItems_single hmarker,
      expandItems_single (by rwa [h]), hrest, ih]

end Agreement

end MacroByExample
