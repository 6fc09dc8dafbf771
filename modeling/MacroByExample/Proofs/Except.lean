import Mathlib

/-!
# Computations that can fail

When a computation in several steps succeeds or fails, and with what.

* `bind_eq_ok_iff`, `map_eq_ok_iff`, `mapError_eq_ok_iff`, `bind_eq_error_iff`, `map_eq_error_iff`:
  one step after another.
* `mapM_eq_ok_iff`, `exists_of_mapM_eq_error`: a step for each item of a list.
* `isOk_iff`: a computation that succeeds.
* `mapM_range_eq`: a step for each position of a list.
* `mapBoth`, `bind_mapBoth`, `mapM_mapBoth`, `foldlM_mapBoth`: a computation whose results and errors
  are the images of those of another.
-/

namespace MacroByExample

variable {α β ε : Type}

theorem bind_eq_ok_iff {x : Except ε α} {f : α → Except ε β} {b : β} :
    (x >>= f) = .ok b ↔ ∃ a, x = .ok a ∧ f a = .ok b := by
  cases x with
  | error e => simp [bind, Except.bind]
  | ok a => simp [bind, Except.bind]

theorem map_eq_ok_iff {x : Except ε α} {f : α → β} {b : β} :
    x.map f = .ok b ↔ ∃ a, x = .ok a ∧ f a = b := by
  cases x with
  | error e => simp [Except.map]
  | ok a => simp [Except.map]

theorem mapError_eq_ok_iff {ε' : Type} {x : Except ε α} {f : ε → ε'} {a : α} :
    x.mapError f = .ok a ↔ x = .ok a := by
  cases x with
  | error e => simp [Except.mapError]
  | ok b => simp [Except.mapError]

theorem bind_eq_error_iff {x : Except ε α} {f : α → Except ε β} {e : ε} :
    (x >>= f) = .error e ↔ x = .error e ∨ ∃ a, x = .ok a ∧ f a = .error e := by
  cases x with
  | error e' => simp [bind, Except.bind]
  | ok a => simp [bind, Except.bind]

theorem map_eq_error_iff {x : Except ε α} {f : α → β} {e : ε} :
    x.map f = .error e ↔ x = .error e := by
  cases x with
  | error e' => simp [Except.map]
  | ok a => simp [Except.map]

theorem isOk_iff {x : Except ε α} : x.isOk = true ↔ ∃ a, x = .ok a := by
  cases x with
  | error e => simp [Except.isOk, Except.toBool]
  | ok a => simp [Except.isOk, Except.toBool]

/-- A traversal succeeds if every step does. -/
theorem mapM_eq_ok_iff {f : α → Except ε β} {l : List α} {r : List β} :
    l.mapM f = .ok r ↔ List.Forall₂ (fun a b => f a = .ok b) l r := by
  induction l generalizing r with
  | nil => cases r <;> simp [pure, Except.pure]
  | cons a l ih =>
    rw [List.mapM_cons]
    cases r with
    | nil => cases f a <;> cases l.mapM f <;> simp [bind, Except.bind, pure, Except.pure]
    | cons b r =>
      rw [List.forall₂_cons, ← ih]
      cases f a <;> cases l.mapM f <;> simp [bind, Except.bind, pure, Except.pure]

/-- A traversal that fails has a step that fails. -/
theorem exists_of_mapM_eq_error {f : α → Except ε β} {l : List α} {e : ε}
    (h : l.mapM f = .error e) : ∃ a ∈ l, f a = .error e := by
  induction l with
  | nil => cases h
  | cons a l ih =>
    rw [List.mapM_cons] at h
    obtain ha | ⟨b, -, h⟩ := bind_eq_error_iff.mp h
    · exact ⟨a, List.mem_cons_self, ha⟩
    · obtain hl | ⟨r, -, hr⟩ := bind_eq_error_iff.mp h
      · obtain ⟨a', ha', he⟩ := ih hl
        exact ⟨a', List.mem_cons_of_mem _ ha', he⟩
      · cases hr

theorem exists_of_forall₂_of_mem {R : α → β → Prop} {l : List α} {r : List β} {b : β}
    (h : List.Forall₂ R l r) (hb : b ∈ r) : ∃ a ∈ l, R a b := by
  obtain ⟨i, hi, rfl⟩ := List.getElem_of_mem hb
  have hl : i < l.length := h.length_eq ▸ hi
  exact ⟨l[i], List.getElem_mem hl, h.get hl hi⟩

/-- A list related to both sides, from an item related to both for each pair of items. -/
theorem exists_forall₂_of_forall₂ {γ : Type} {R : α → β → Prop} {P : γ → α → Prop}
    {Q : γ → β → Prop} {l : List α} {r : List β} (hR : ∀ a b, R a b → ∃ c, P c a ∧ Q c b)
    (h : List.Forall₂ R l r) : ∃ k, List.Forall₂ P k l ∧ List.Forall₂ Q k r := by
  induction h with
  | nil => exact ⟨[], .nil, .nil⟩
  | cons hab _ ih =>
    obtain ⟨c, hP, hQ⟩ := hR _ _ hab
    obtain ⟨k, hPs, hQs⟩ := ih
    exact ⟨c :: k, .cons hP hPs, .cons hQ hQs⟩

/-- A traversal of the positions of a list is a traversal of the list. -/
theorem mapM_range_eq {f : α → Except ε β} {g : Nat → Except ε β} (l : List α)
    (h : ∀ (i : Nat) (hi : i < l.length), g i = f l[i]) :
    (List.range l.length).mapM g = l.mapM f := by
  induction l generalizing g with
  | nil => rfl
  | cons a l ih =>
    have hfirst : g 0 = f a := h 0 (Nat.succ_pos _)
    have hrest : (List.range l.length).mapM (g ∘ Nat.succ) = l.mapM f :=
      ih fun i hi => h (i + 1) (Nat.succ_lt_succ hi)
    rw [List.length_cons, List.range_succ_eq_map, List.mapM_cons, List.mapM_cons, List.mapM_map,
      hfirst, hrest]

/-! ## Images of computations -/

section Images

variable {α' β' ε' : Type} {f : α → α'} {g : β → β'} {h : ε → ε'}

/-- The computation with its result and its error replaced. -/
def mapBoth (f : α → α') (h : ε → ε') : Except ε α → Except ε' α'
  | .ok a => .ok (f a)
  | .error e => .error (h e)

@[simp]
theorem mapBoth_ok (a : α) : mapBoth f h (.ok a) = .ok (f a) := rfl

@[simp]
theorem mapBoth_error (e : ε) : mapBoth f h (.error e) = .error (h e) := rfl

theorem mapBoth_id_right (x : Except ε α) : mapBoth f id x = x.map f := by
  cases x <;> rfl

/-- If the first steps of two computations are images and the second steps too, so are both. -/
theorem bind_mapBoth {x : Except ε α} {next : α → Except ε β} {next' : α' → Except ε' β'}
    (hnext : ∀ a, next' (f a) = mapBoth g h (next a)) :
    (mapBoth f h x).bind next' = mapBoth g h (x.bind next) := by
  cases x with
  | error e => rfl
  | ok a => exact hnext a

theorem map_mapBoth {x : Except ε α} {next : α → β} {next' : α' → β'}
    (hnext : ∀ a, next' (f a) = g (next a)) :
    (mapBoth f h x).map next' = mapBoth g h (x.map next) := by
  cases x with
  | error e => rfl
  | ok a => exact congrArg Except.ok (hnext a)

theorem mapM_mapBoth {step : α → Except ε β} {step' : α → Except ε' β'} {l : List α}
    (hstep : ∀ a ∈ l, step' a = mapBoth g h (step a)) :
    l.mapM step' = mapBoth (List.map g) h (l.mapM step) := by
  induction l with
  | nil => rfl
  | cons a l ih =>
    rw [List.mapM_cons, List.mapM_cons, hstep a List.mem_cons_self,
      ih fun b hb => hstep b (List.mem_cons_of_mem _ hb)]
    cases step a <;> cases l.mapM step <;> rfl

theorem foldlM_mapBoth {step : β → α → Except ε β} {step' : β' → α → Except ε' β'}
    (hstep : ∀ b a, step' (g b) a = mapBoth g h (step b a)) (l : List α) (b : β) :
    l.foldlM step' (g b) = mapBoth g h (l.foldlM step b) := by
  induction l generalizing b with
  | nil => rfl
  | cons a l ih =>
    rw [List.foldlM_cons, List.foldlM_cons, hstep]
    exact bind_mapBoth ih

end Images

end MacroByExample
