import MacroByExample.Proofs.Rules.Position

/-!
# Substitution in forms

Every token of a form can be replaced by a form, or by another token. A list keeps its items then,
so a form only grows at its atoms; and if different tokens stay different, lists are cut at the
same places as before.

* `Form.subst`, `Form.rename`: replacing tokens by forms, and by tokens.
* `Form.subst_eq_self`: a form whose tokens are replaced by themselves.
* `Form.head?_map_rename_ne`: renaming keeps marker positions.
-/

namespace MacroByExample.Form

/-! ## Tokens by forms -/

mutual

/-- The form with every token replaced by a form. -/
def subst (σ : String → Form) : Form → Form
  | .atom token => σ token
  | .list items => .list (substItems σ items)

/-- The items with every token replaced by a form. -/
def substItems (σ : String → Form) : List Form → List Form
  | [] => []
  | item :: rest => subst σ item :: substItems σ rest

end

theorem substItems_eq_map (σ : String → Form) (items : List Form) :
    substItems σ items = items.map (subst σ) := by
  induction items with
  | nil => rfl
  | cons item rest ih => rw [substItems, ih, List.map_cons]

@[simp]
theorem subst_atom (σ : String → Form) (t : String) : (Form.atom t).subst σ = σ t := rfl

@[simp]
theorem subst_list (σ : String → Form) (items : List Form) :
    (Form.list items).subst σ = .list (items.map (subst σ)) := by
  rw [subst, substItems_eq_map]

/-- A form keeps the tokens that are replaced by themselves. -/
theorem subst_eq_self {σ : String → Form} {f : Form} (h : ∀ t ∈ f.atoms, σ t = .atom t) :
    f.subst σ = f := by
  induction f using structuralInduction with
  | atom t => exact h t (by simp)
  | list items ih =>
    have hitem : ∀ item ∈ items, item.subst σ = id item := fun item hitem =>
      ih item hitem fun t ht => h t (atoms_subset_of_mem hitem ht)
    rw [subst_list, List.map_congr_left hitem, List.map_id]

@[simp]
theorem subst_self (f : Form) : f.subst .atom = f :=
  subst_eq_self fun _ _ => rfl

theorem subst_self_fun : subst .atom = id :=
  funext subst_self

/-! ## Tokens by tokens -/

/-- The form with every token replaced by another. -/
def rename (r : String → String) (f : Form) : Form :=
  f.subst fun t => .atom (r t)

section Rename

variable {r : String → String}

@[simp]
theorem rename_atom (t : String) : (Form.atom t).rename r = .atom (r t) := rfl

@[simp]
theorem rename_list (items : List Form) :
    (Form.list items).rename r = .list (items.map (rename r)) :=
  subst_list _ items

@[simp]
theorem rename_id (f : Form) : f.rename id = f :=
  subst_self f

theorem atoms_rename (f : Form) : (f.rename r).atoms = f.atoms.map r := by
  induction f using structuralInduction with
  | atom t => rfl
  | list items ih =>
    rw [rename_list, atoms_list, atoms_list, List.flatMap_map, List.map_flatMap]
    exact List.flatMap_congr fun item hitem => ih item hitem

theorem rename_eq_atom_iff {f : Form} {t : String} :
    f.rename r = .atom t ↔ ∃ u, f = .atom u ∧ r u = t := by
  cases f <;> simp

/-- If the renaming keeps tokens apart, an item stands in marker position afterwards only if it
    did before. -/
theorem head?_map_rename_ne (hr : Function.Injective r) {marker : String} {rest : List Form}
    (h : rest.head? ≠ some (.atom marker)) :
    (rest.map (rename r)).head? ≠ some (.atom (r marker)) := by
  cases rest with
  | nil => simp
  | cons next rest =>
    rw [List.map_cons, List.head?_cons, Ne, Option.some_inj, rename_eq_atom_iff]
    rintro ⟨t, rfl, ht⟩
    rw [hr ht] at h
    exact h rfl

end Rename

end MacroByExample.Form
