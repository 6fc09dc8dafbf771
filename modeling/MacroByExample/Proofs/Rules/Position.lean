import Mathlib
import MacroByExample.Rules.Definition

/-!
# Marker positions

Matching and expansion cut every list from left to right into items that the ellipsis marker
repeats and single items. A marker that stands behind an item repeats it and is no token of its
own; a marker in first position is a token like any other.

* `Form.readTokens`: the tokens of a form outside marker position.
* `Form.repeatedParts`: the parts that a marker repeats, at any depth.
* `Form.looseTokens`: the tokens outside marker position and outside every repeated part.
* `Form.markersLast`: no list goes on behind a repeated item.
* `Form.vars`, `Form.EllipsisBound`: the variables of a pattern.
* `Form.markerInduction`: induction along the cut.
* `oneLevel_of_checkPattern`: in a pattern that passes the check, no repeated part contains the
  marker.
-/

namespace MacroByExample

namespace Form

/-! ## The cut -/

/-- Induction along the cut of lists: a list is empty, or it starts with a repeated item, or it
    starts with a single item, behind which no marker stands. -/
@[elab_as_elim]
theorem markerInduction (marker : String) {motive : Form → Prop} (atom : ∀ t, motive (.atom t))
    (nil : motive (.list []))
    (repeated : ∀ item rest, motive item → motive (.list rest) →
      motive (.list (item :: .atom marker :: rest)))
    (single : ∀ item rest, rest.head? ≠ some (.atom marker) → motive item → motive (.list rest) →
      motive (.list (item :: rest)))
    (f : Form) : motive f := by
  induction f using structuralInduction with
  | atom t => exact atom t
  | list items ih =>
    induction h : items.length using Nat.strong_induction_on generalizing items with
    | _ n ihLength =>
      subst h
      have shorter : ∀ rest : List Form, rest.length < items.length →
          (∀ f ∈ rest, f ∈ items) → motive (.list rest) := fun rest hlt hsub =>
        ihLength _ hlt rest (fun f hf => ih f (hsub f hf)) rfl
      match items with
      | [] => exact nil
      | item :: rest =>
        have hitem := ih item List.mem_cons_self
        by_cases hmarker : rest.head? = some (.atom marker)
        · obtain ⟨rest, rfl⟩ : ∃ tail, rest = .atom marker :: tail := by
            cases rest with
            | nil => simp at hmarker
            | cons next tail => exact ⟨tail, by simpa using hmarker⟩
          exact repeated item rest hitem
            (shorter rest (by simp) fun f hf => by simp [hf])
        · exact single item rest hmarker hitem
            (shorter rest (by simp) fun f hf => List.mem_cons_of_mem _ hf)

/-! ## Tokens of lists -/

/-- The tokens behind a repeated item are tokens of the list. -/
theorem atoms_subset_repeated (marker : String) (item : Form) (rest : List Form) :
    (Form.list rest).atoms ⊆ (Form.list (item :: .atom marker :: rest)).atoms :=
  atoms_subset_of_subset (List.subset_cons_of_subset _ (List.subset_cons_self _ _))

/-! ## Tokens and repeated parts -/

mutual

/-- The tokens of a form outside marker position, left to right, with repetitions. -/
def readTokens (marker : String) : Form → List String
  | .atom token => [token]
  | .list items => readTokensOfList marker items

/-- The tokens of a list's items outside marker position. -/
def readTokensOfList (marker : String) : List Form → List String
  | [] => []
  | [item] => readTokens marker item
  | item :: next :: rest =>
    if next = .atom marker then readTokens marker item ++ readTokensOfList marker rest
    else readTokens marker item ++ readTokensOfList marker (next :: rest)

end

mutual

/-- The tokens of a form outside marker position and outside every repeated part. -/
def looseTokens (marker : String) : Form → List String
  | .atom token => [token]
  | .list items => looseTokensOfList marker items

/-- The tokens of a list's items outside marker position and outside every repeated part. -/
def looseTokensOfList (marker : String) : List Form → List String
  | [] => []
  | [item] => looseTokens marker item
  | item :: next :: rest =>
    if next = .atom marker then looseTokensOfList marker rest
    else looseTokens marker item ++ looseTokensOfList marker (next :: rest)

end

mutual

/-- The parts of a form that a marker repeats, at any depth. -/
def repeatedParts (marker : String) : Form → List Form
  | .atom _ => []
  | .list items => repeatedPartsOfList marker items

/-- The repeated parts among and inside the items of a list. -/
def repeatedPartsOfList (marker : String) : List Form → List Form
  | [] => []
  | [item] => repeatedParts marker item
  | item :: next :: rest =>
    if next = .atom marker then
      item :: (repeatedParts marker item ++ repeatedPartsOfList marker rest)
    else repeatedParts marker item ++ repeatedPartsOfList marker (next :: rest)

end

mutual

/-- Whether a marker that repeats an item is the last of its list, in every list of the form. -/
def markersLast (marker : String) : Form → Bool
  | .atom _ => true
  | .list items => markersLastOfList marker items

/-- The same for the items of a list. -/
def markersLastOfList (marker : String) : List Form → Bool
  | [] => true
  | [item] => markersLast marker item
  | item :: next :: rest =>
    if next = .atom marker then markersLast marker item && rest.isEmpty
    else markersLast marker item && markersLastOfList marker (next :: rest)

end

section Cut

variable {marker : String} {item : Form} {rest : List Form}

@[simp]
theorem readTokens_atom (t : String) : (Form.atom t).readTokens marker = [t] := rfl

@[simp]
theorem readTokens_nil : (Form.list []).readTokens marker = [] := rfl

@[simp]
theorem readTokens_repeated :
    (Form.list (item :: .atom marker :: rest)).readTokens marker =
      item.readTokens marker ++ (Form.list rest).readTokens marker := by
  simp [readTokens, readTokensOfList]

theorem readTokens_single (h : rest.head? ≠ some (.atom marker)) :
    (Form.list (item :: rest)).readTokens marker =
      item.readTokens marker ++ (Form.list rest).readTokens marker := by
  cases rest with
  | nil => simp [readTokens, readTokensOfList]
  | cons next rest => simp_all [readTokens, readTokensOfList]

@[simp]
theorem looseTokens_atom (t : String) : (Form.atom t).looseTokens marker = [t] := rfl

@[simp]
theorem looseTokens_nil : (Form.list []).looseTokens marker = [] := rfl

@[simp]
theorem looseTokens_repeated :
    (Form.list (item :: .atom marker :: rest)).looseTokens marker =
      (Form.list rest).looseTokens marker := by
  simp [looseTokens, looseTokensOfList]

theorem looseTokens_single (h : rest.head? ≠ some (.atom marker)) :
    (Form.list (item :: rest)).looseTokens marker =
      item.looseTokens marker ++ (Form.list rest).looseTokens marker := by
  cases rest with
  | nil => simp [looseTokens, looseTokensOfList]
  | cons next rest => simp_all [looseTokens, looseTokensOfList]

@[simp]
theorem repeatedParts_atom (t : String) : (Form.atom t).repeatedParts marker = [] := rfl

@[simp]
theorem repeatedParts_nil : (Form.list []).repeatedParts marker = [] := rfl

@[simp]
theorem repeatedParts_repeated :
    (Form.list (item :: .atom marker :: rest)).repeatedParts marker =
      item :: (item.repeatedParts marker ++ (Form.list rest).repeatedParts marker) := by
  simp [repeatedParts, repeatedPartsOfList]

theorem repeatedParts_single (h : rest.head? ≠ some (.atom marker)) :
    (Form.list (item :: rest)).repeatedParts marker =
      item.repeatedParts marker ++ (Form.list rest).repeatedParts marker := by
  cases rest with
  | nil => simp [repeatedParts, repeatedPartsOfList]
  | cons next rest => simp_all [repeatedParts, repeatedPartsOfList]

@[simp]
theorem markersLast_repeated :
    (Form.list (item :: .atom marker :: rest)).markersLast marker =
      (item.markersLast marker && rest.isEmpty) := by
  simp [markersLast, markersLastOfList]

theorem markersLast_single (h : rest.head? ≠ some (.atom marker)) :
    (Form.list (item :: rest)).markersLast marker =
      (item.markersLast marker && (Form.list rest).markersLast marker) := by
  cases rest with
  | nil => simp [markersLast, markersLastOfList]
  | cons next rest => simp_all [markersLast, markersLastOfList]

end Cut

/-! ## Forms without the marker -/

section MarkerFree

variable {marker : String}

theorem readTokens_subset_atoms (f : Form) : f.readTokens marker ⊆ f.atoms := by
  induction f using markerInduction marker with
  | atom t => simp
  | nil => simp
  | repeated item rest ih ihRest =>
    rw [readTokens_repeated]
    exact List.append_subset.mpr
      ⟨List.Subset.trans ih (atoms_subset_of_mem List.mem_cons_self),
        List.Subset.trans ihRest (atoms_subset_repeated marker item rest)⟩
  | single item rest hmarker ih ihRest =>
    rw [readTokens_single hmarker]
    exact List.append_subset.mpr
      ⟨List.Subset.trans ih (atoms_subset_of_mem List.mem_cons_self),
        List.Subset.trans ihRest (atoms_subset_of_subset (List.subset_cons_self _ _))⟩

theorem looseTokens_subset_readTokens (f : Form) :
    f.looseTokens marker ⊆ f.readTokens marker := by
  induction f using markerInduction marker with
  | atom t => simp
  | nil => simp
  | repeated item rest ih ihRest =>
    rw [looseTokens_repeated, readTokens_repeated]
    exact List.subset_append_of_subset_right _ ihRest
  | single item rest hmarker ih ihRest =>
    rw [looseTokens_single hmarker, readTokens_single hmarker]
    exact List.append_subset.mpr
      ⟨List.subset_append_of_subset_left _ ih, List.subset_append_of_subset_right _ ihRest⟩

theorem readTokens_eq_atoms {f : Form} (h : marker ∉ f.atoms) :
    f.readTokens marker = f.atoms := by
  induction f using markerInduction marker with
  | atom t => simp
  | nil => simp
  | repeated item rest ih ihRest => simp at h
  | single item rest hmarker ih ihRest =>
    simp only [atoms_list, List.flatMap_cons, List.mem_append, not_or] at h ih ihRest ⊢
    rw [readTokens_single hmarker, ih h.1, ihRest h.2]

theorem repeatedParts_eq_nil {f : Form} (h : marker ∉ f.atoms) : f.repeatedParts marker = [] := by
  induction f using markerInduction marker with
  | atom t => simp
  | nil => simp
  | repeated item rest ih ihRest => simp at h
  | single item rest hmarker ih ihRest =>
    simp only [atoms_list, List.flatMap_cons, List.mem_append, not_or] at h ih ihRest ⊢
    rw [repeatedParts_single hmarker, ih h.1, ihRest h.2, List.append_nil]

end MarkerFree

theorem readTokens_subset_of_mem_repeatedParts {marker : String} {f part : Form}
    (h : part ∈ f.repeatedParts marker) : part.readTokens marker ⊆ f.readTokens marker := by
  induction f using markerInduction marker with
  | atom t => simp at h
  | nil => simp at h
  | repeated item rest ih ihRest =>
    rw [repeatedParts_repeated, List.mem_cons, List.mem_append] at h
    rw [readTokens_repeated]
    rcases h with rfl | h | h
    · exact List.subset_append_left _ _
    · exact List.subset_append_of_subset_left _ (ih h)
    · exact List.subset_append_of_subset_right _ (ihRest h)
  | single item rest hmarker ih ihRest =>
    rw [repeatedParts_single hmarker, List.mem_append] at h
    rw [readTokens_single hmarker]
    rcases h with h | h
    · exact List.subset_append_of_subset_left _ (ih h)
    · exact List.subset_append_of_subset_right _ (ihRest h)

theorem atoms_subset_of_mem_repeatedParts {marker : String} {f part : Form}
    (h : part ∈ f.repeatedParts marker) : part.atoms ⊆ f.atoms := by
  induction f using markerInduction marker with
  | atom t => simp at h
  | nil => simp at h
  | repeated item rest ih ihRest =>
    rw [repeatedParts_repeated, List.mem_cons, List.mem_append] at h
    rcases h with rfl | h | h
    · exact atoms_subset_of_mem List.mem_cons_self
    · exact List.Subset.trans (ih h) (atoms_subset_of_mem List.mem_cons_self)
    · exact List.Subset.trans (ihRest h) (atoms_subset_repeated marker item rest)
  | single item rest hmarker ih ihRest =>
    rw [repeatedParts_single hmarker, List.mem_append] at h
    rcases h with h | h
    · exact List.Subset.trans (ih h) (atoms_subset_of_mem List.mem_cons_self)
    · exact List.Subset.trans (ihRest h) (atoms_subset_of_subset (List.subset_cons_self _ _))

/-! ## One level of repetition -/

/-- No repeated part of the form contains the marker. -/
def OneLevel (marker : String) (f : Form) : Prop :=
  ∀ part ∈ f.repeatedParts marker, marker ∉ part.atoms

section OneLevel

variable {marker : String} {item : Form} {rest : List Form}

theorem OneLevel.of_notMem {f : Form} (h : marker ∉ f.atoms) : OneLevel marker f := by
  simp [OneLevel, repeatedParts_eq_nil h]

theorem OneLevel.atoms_subset {f part : Form} (h : OneLevel marker f)
    (hpart : part ∈ f.repeatedParts marker) : part.atoms ⊆ f.readTokens marker := by
  rw [← readTokens_eq_atoms (h part hpart)]
  exact readTokens_subset_of_mem_repeatedParts hpart

theorem oneLevel_repeated :
    OneLevel marker (.list (item :: .atom marker :: rest)) ↔
      marker ∉ item.atoms ∧ OneLevel marker (.list rest) := by
  constructor
  · intro h
    exact ⟨h item (by simp), fun part hpart => h part (by simp [hpart])⟩
  · rintro ⟨hitem, hrest⟩ part hpart
    rw [repeatedParts_repeated, repeatedParts_eq_nil hitem, List.nil_append,
      List.mem_cons] at hpart
    rcases hpart with rfl | hpart
    · exact hitem
    · exact hrest part hpart

theorem oneLevel_single (h : rest.head? ≠ some (.atom marker)) :
    OneLevel marker (.list (item :: rest)) ↔
      OneLevel marker item ∧ OneLevel marker (.list rest) := by
  simp only [OneLevel, repeatedParts_single h, List.mem_append]
  constructor
  · intro hparts
    exact ⟨fun part hpart => hparts part (.inl hpart), fun part hpart => hparts part (.inr hpart)⟩
  · rintro ⟨hitem, hrest⟩ part (hpart | hpart)
    · exact hitem part hpart
    · exact hrest part hpart

end OneLevel

/-! ## Variables -/

/-- The variables of a pattern: its tokens outside marker position that are no literals, left to
    right, once for each occurrence. -/
def vars (literals : TokenSet) (marker : String) (p : Form) : List String :=
  (p.readTokens marker).filter fun t => !literals.contains t

/-- The token is a variable of the pattern with an occurrence in a repeated part. -/
def EllipsisBound (literals : TokenSet) (marker : String) (p : Form) (var : String) : Prop :=
  ∃ part ∈ p.repeatedParts marker, var ∈ part.vars literals marker

instance (literals : TokenSet) (marker : String) (p : Form) (var : String) :
    Decidable (p.EllipsisBound literals marker var) :=
  inferInstanceAs (Decidable (∃ part ∈ p.repeatedParts marker, _))

section Variables

variable {literals : TokenSet} {marker : String} {item : Form} {rest : List Form}

theorem mem_vars {p : Form} {var : String} :
    var ∈ p.vars literals marker ↔
      var ∈ p.readTokens marker ∧ literals.contains var = false := by
  simp [vars]

@[simp]
theorem vars_nil : (Form.list []).vars literals marker = [] := rfl

@[simp]
theorem vars_repeated :
    (Form.list (item :: .atom marker :: rest)).vars literals marker =
      item.vars literals marker ++ (Form.list rest).vars literals marker := by
  simp [vars]

theorem vars_single (h : rest.head? ≠ some (.atom marker)) :
    (Form.list (item :: rest)).vars literals marker =
      item.vars literals marker ++ (Form.list rest).vars literals marker := by
  simp [vars, readTokens_single h]

theorem vars_subset_of_mem_repeatedParts {p part : Form} (h : part ∈ p.repeatedParts marker) :
    part.vars literals marker ⊆ p.vars literals marker := fun _ hvar =>
  have hvar := mem_vars.mp hvar
  mem_vars.mpr ⟨readTokens_subset_of_mem_repeatedParts h hvar.1, hvar.2⟩

theorem EllipsisBound.mem_vars {p : Form} {var : String}
    (h : p.EllipsisBound literals marker var) : var ∈ p.vars literals marker := by
  obtain ⟨part, hpart, hvar⟩ := h
  exact vars_subset_of_mem_repeatedParts hpart hvar

theorem ellipsisBound_single (h : rest.head? ≠ some (.atom marker)) {var : String} :
    (Form.list (item :: rest)).EllipsisBound literals marker var ↔
      item.EllipsisBound literals marker var ∨
        (Form.list rest).EllipsisBound literals marker var := by
  simp [EllipsisBound, repeatedParts_single h, or_and_right, exists_or]

/-- In a linear pattern, no token of one part is a variable of another. -/
theorem notMem_vars_of_nodup {p q : Form}
    (h : (p.vars literals marker ++ q.vars literals marker).Nodup) {t : String}
    (ht : t ∈ p.readTokens marker) : t ∉ q.vars literals marker := fun hq =>
  have hp : t ∈ p.vars literals marker := Form.mem_vars.mpr ⟨ht, (Form.mem_vars.mp hq).2⟩
  List.disjoint_of_nodup_append h hp hq

end Variables

end Form

/-! ## The check on patterns -/

section Check

variable {s : MatchSettings} {item : Form} {rest : List Form}

theorem MatchSettings.isEllipsis_eq_false {next : Form}
    (h : (next :: rest).head? ≠ some (.atom s.ellipsis)) : s.isEllipsis next = false := by
  rw [Bool.eq_false_iff, Ne, isEllipsis_iff]
  simpa using h

theorem checkPattern_eq_ok_iff {p : Form} :
    checkPattern s p = .ok () ↔ nestedGroup? s p = none := by
  rw [checkPattern]
  split <;> simp_all

theorem nestedGroup?_repeated
    (h : nestedGroup? s (.list (item :: .atom s.ellipsis :: rest)) = none) :
    s.ellipsis ∉ item.atoms ∧ nestedGroup? s (.list rest) = none := by
  simp only [nestedGroup?, nestedGroupAmong?, List.head?_cons, Option.any_some,
    MatchSettings.isEllipsis_atom, beq_self_eq_true, Bool.true_and] at h
  split at h
  · cases h
  · next hfree =>
    refine ⟨by simpa using hfree, ?_⟩
    split at h
    · cases h
    · split at h
      · cases h
      · exact h

theorem nestedGroup?_single (hmarker : rest.head? ≠ some (.atom s.ellipsis))
    (h : nestedGroup? s (.list (item :: rest)) = none) :
    nestedGroup? s item = none ∧ nestedGroup? s (.list rest) = none := by
  have hnone : rest.head?.any s.isEllipsis = false := by
    cases rest with
    | nil => rfl
    | cons next rest => rw [List.head?_cons, Option.any_some, s.isEllipsis_eq_false hmarker]
  rw [nestedGroup?, nestedGroupAmong?, hnone] at h
  simp only [Bool.false_and, Bool.false_eq_true, ite_false] at h
  split at h
  · cases h
  · next hitem => exact ⟨hitem, h⟩

theorem oneLevel_of_nestedGroup? {p : Form} (h : nestedGroup? s p = none) :
    p.OneLevel s.ellipsis := by
  induction p using Form.markerInduction s.ellipsis with
  | atom t => simp [Form.OneLevel]
  | nil => simp [Form.OneLevel]
  | repeated item rest ih ihRest =>
    obtain ⟨hitem, hrest⟩ := nestedGroup?_repeated h
    exact Form.oneLevel_repeated.mpr ⟨hitem, ihRest hrest⟩
  | single item rest hmarker ih ihRest =>
    obtain ⟨hitem, hrest⟩ := nestedGroup?_single hmarker h
    exact (Form.oneLevel_single hmarker).mpr ⟨ih hitem, ihRest hrest⟩

theorem oneLevel_of_checkPattern {p : Form} (h : checkPattern s p = .ok ()) :
    p.OneLevel s.ellipsis :=
  oneLevel_of_nestedGroup? (checkPattern_eq_ok_iff.mp h)

end Check

/-! ## The matched part -/

/-- The part of a form, or of a rule's pattern, that is matched: all of it, or the list behind its
    first item if the settings leave the keyword out. -/
def MatchSettings.matchedPart (s : MatchSettings) (f : Form) : Form :=
  if s.ignoreKeyword then
    match f with
    | .list (_ :: rest) => .list rest
    | f => f
  else f

theorem nestedGroup?_tail {s : MatchSettings} {item : Form} {rest : List Form}
    (h : nestedGroup? s (.list (item :: rest)) = none) : nestedGroup? s (.list rest) = none := by
  rw [nestedGroup?, nestedGroupAmong?] at h
  split at h
  · cases h
  · split at h
    · cases h
    · exact h

/-- A pattern that passes the check has one level of repetition, also without its keyword. -/
theorem oneLevel_matchedPart {s : MatchSettings} {p : Form} (h : checkPattern s p = .ok ()) :
    (s.matchedPart p).OneLevel s.ellipsis := by
  have hp := checkPattern_eq_ok_iff.mp h
  unfold MatchSettings.matchedPart
  split
  · split
    · exact oneLevel_of_nestedGroup? (nestedGroup?_tail hp)
    · exact oneLevel_of_nestedGroup? hp
  · exact oneLevel_of_nestedGroup? hp

end MacroByExample
