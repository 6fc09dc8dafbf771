/-!
# Forms

A form is an atom, which is a token of any text, or a list of forms. Rules, templates and the
text a program is written in are all forms.

This is the Tree Model of the specification (`SPEC_FULL.md` §3 and §11). Here and in the modules
that build on this one, a docstring names the type or the function that a definition stands for
where it has another name.

Main definitions:
* `Form`: the type, with decidable equality by structure and exact token text.
* `Form.head?`, `Form.token?`, `Form.items?`: what a form is made of.
* `Form.atoms`: every token of a form, left to right.
-/

namespace MacroByExample

/-- An atom or a list of forms (`Tree`). -/
inductive Form where
  /-- A token; two atoms are equal when their texts are. -/
  | atom (token : String)
  /-- The forms between a pair of brackets. -/
  | list (items : List Form)
deriving Repr, Inhabited

namespace Form

/-! ## Equality -/

mutual

/-- Equality of forms is decidable, by structure. -/
def decEq : (a b : Form) → Decidable (a = b)
  | .atom s, .atom t =>
    if h : s = t then isTrue (by rw [h]) else isFalse (fun e => h (Form.atom.inj e))
  | .list xs, .list ys =>
    match decEqList xs ys with
    | isTrue h => isTrue (by rw [h])
    | isFalse h => isFalse (fun e => h (Form.list.inj e))
  | .atom _, .list _ => isFalse nofun
  | .list _, .atom _ => isFalse nofun

/-- Equality of lists of forms is decidable, element by element. -/
def decEqList : (xs ys : List Form) → Decidable (xs = ys)
  | [], [] => isTrue rfl
  | x :: xs, y :: ys =>
    match decEq x y, decEqList xs ys with
    | isTrue h, isTrue k => isTrue (by rw [h, k])
    | isFalse h, _ => isFalse (fun e => h (List.cons.inj e).1)
    | _, isFalse k => isFalse (fun e => k (List.cons.inj e).2)
  | [], _ :: _ => isFalse nofun
  | _ :: _, [] => isFalse nofun

end

instance : DecidableEq Form := decEq

/-! ## Induction -/

mutual

private theorem induct_form {P : Form → Prop} (hatom : ∀ t, P (.atom t))
    (hlist : ∀ items, (∀ f ∈ items, P f) → P (.list items)) : (f : Form) → P f
  | .atom t => hatom t
  | .list items => hlist items (induct_items hatom hlist items)

private theorem induct_items {P : Form → Prop} (hatom : ∀ t, P (.atom t))
    (hlist : ∀ items, (∀ f ∈ items, P f) → P (.list items)) :
    (items : List Form) → ∀ f ∈ items, P f
  | [], _, h => nomatch h
  | g :: rest, f, h => by
    cases h with
    | head => exact induct_form hatom hlist g
    | tail _ h => exact induct_items hatom hlist rest f h

end

/-- Induction in which a list may use the statement for each of its items. -/
@[elab_as_elim]
theorem structuralInduction {motive : Form → Prop} (atom : ∀ t, motive (.atom t))
    (list : ∀ items, (∀ f ∈ items, motive f) → motive (.list items)) (f : Form) : motive f :=
  induct_form atom list f

/-! ## Parts -/

/-- The empty list. -/
def empty : Form := .list []

/-- Whether the form is an atom. -/
def isAtom : Form → Bool
  | .atom _ => true
  | .list _ => false

/-- Whether the form is a list. -/
def isList : Form → Bool
  | .atom _ => false
  | .list _ => true

/-- The token of an atom (`as_atom`). -/
def token? : Form → Option String
  | .atom t => some t
  | .list _ => none

/-- The items of a list (`as_list`). -/
def items? : Form → Option (List Form)
  | .atom _ => none
  | .list items => some items

/-- The first item of a list that has one. -/
def head? : Form → Option Form
  | .list (first :: _) => some first
  | _ => none

/-- The token in first position of a list, which names the rules a form calls. -/
def headToken? (f : Form) : Option String :=
  f.head?.bind token?

/-! ## Atoms -/

mutual

/-- The tokens of a form, left to right, with repetitions: what `for_each_atom` visits. -/
def atoms : Form → List String
  | .atom t => [t]
  | .list items => atomsOfList items

/-- The tokens of several forms, left to right. -/
def atomsOfList : List Form → List String
  | [] => []
  | f :: rest => atoms f ++ atomsOfList rest

end

theorem atomsOfList_eq_flatMap (items : List Form) : atomsOfList items = items.flatMap atoms := by
  induction items with
  | nil => rfl
  | cons f rest ih => simp [atomsOfList, ih]

@[simp]
theorem atoms_atom (t : String) : (Form.atom t).atoms = [t] := rfl

@[simp]
theorem atoms_list (items : List Form) : (Form.list items).atoms = items.flatMap atoms :=
  atomsOfList_eq_flatMap items

/-- The tokens of an item are tokens of the list. -/
theorem atoms_subset_of_mem {f : Form} {items : List Form} (h : f ∈ items) :
    f.atoms ⊆ (Form.list items).atoms := by
  intro t ht
  rw [atoms_list]
  exact List.mem_flatMap.mpr ⟨f, h, ht⟩

/-- The tokens of some of the items are tokens of the list. -/
theorem atoms_subset_of_subset {rest items : List Form} (h : rest ⊆ items) :
    (Form.list rest).atoms ⊆ (Form.list items).atoms := by
  intro t ht
  rw [atoms_list] at ht
  obtain ⟨f, hf, ht⟩ := List.mem_flatMap.mp ht
  exact atoms_subset_of_mem (h hf) ht

end Form

end MacroByExample
