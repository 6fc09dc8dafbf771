import MacroByExample.Json.Token
import MacroByExample.Json.Value
import Mathlib

/-!
# Layouts of JSON values

The texts of a value differ in the white space between its parts: what stands in front of each item
or member and of the closing bracket, and what stands behind each colon. A layout says what that
is; the compact and the pretty text are those of two layouts, so what is proved of the text in
every layout is proved of both.

Main definitions:
* `Layout`: the white space; `Layout.compact` and `Layout.pretty` are the two that are written.
* `Layout.block`, `Layout.member`: how parts are put together.
* `Value.chars`: the characters of a value in a layout.
* `Value.depth`: how many brackets and braces are open at once.

Main results:
* `compactChars_eq_chars`, `prettyChars_eq_chars`: the texts that are written.
-/

namespace MacroByExample.Json

/-- What stands between the parts of a text. -/
structure Layout where
  /-- In front of each item or member on a level, and of the bracket that closes it. -/
  lineBreak : Nat → List Char
  /-- Behind the colon of each member. -/
  gap : List Char
  isBlank_lineBreak : ∀ level, ∀ c ∈ lineBreak level, isBlank c = true
  isBlank_gap : ∀ c ∈ gap, isBlank c = true

namespace Layout

/-- No white space at all. -/
def compact : Layout where
  lineBreak _ := []
  gap := []
  isBlank_lineBreak _ _ h := nomatch h
  isBlank_gap _ h := nomatch h

/-- A line for each item or member, and a space behind each colon. -/
def pretty : Layout where
  lineBreak := Value.newLine
  gap := [' ']
  isBlank_lineBreak level c h := by
    rcases List.mem_cons.1 h with rfl | h
    · rfl
    · rw [List.eq_of_mem_replicate h]
      rfl
  isBlank_gap c h := by
    rw [List.eq_of_mem_singleton h]
    rfl

variable (L : Layout)

/-- What follows a part: the parts after it, each behind a comma, and the closing bracket. -/
def rest (level : Nat) (closer : Char) : List (List Char) → List Char
  | [] => L.lineBreak level ++ [closer]
  | part :: parts => ',' :: (L.lineBreak (level + 1) ++ (part ++ rest level closer parts))

/-- What follows the opening bracket. -/
def inside (level : Nat) (closer : Char) : List (List Char) → List Char
  | [] => [closer]
  | part :: parts => L.lineBreak (level + 1) ++ (part ++ L.rest level closer parts)

/-- The parts between brackets. -/
def block (level : Nat) (opener closer : Char) (parts : List (List Char)) : List Char :=
  opener :: L.inside level closer parts

/-- A key and the characters of its value. -/
def member (m : String × List Char) : List Char :=
  stringChars m.1 ++ ':' :: (L.gap ++ m.2)

end Layout

namespace Value

mutual

/-- The characters of a value on a level of a layout. -/
def chars (L : Layout) (level : Nat) : Value → List Char
  | .boolean b => booleanChars b
  | .natural n => naturalChars n
  | .string s => stringChars s
  | .array items => L.block level '[' ']' (itemChars L (level + 1) items)
  | .object members => L.block level '\x7b' '\x7d' ((memberChars L (level + 1) members).map L.member)

/-- The characters of each item. -/
def itemChars (L : Layout) (level : Nat) : List Value → List (List Char)
  | [] => []
  | v :: rest => chars L level v :: itemChars L level rest

/-- The characters of the value of each member, behind its key. -/
def memberChars (L : Layout) (level : Nat) : List (String × Value) → List (String × List Char)
  | [] => []
  | (key, v) :: rest => (key, chars L level v) :: memberChars L level rest

end

theorem chars_array (L : Layout) (level : Nat) (items : List Value) :
    chars L level (.array items) = L.block level '[' ']' (items.map (chars L (level + 1))) := by
  have hitems : itemChars L (level + 1) items = items.map (chars L (level + 1)) := by
    induction items with
    | nil => rfl
    | cons v rest ih => rw [itemChars, ih, List.map_cons]
  rw [chars, hitems]

theorem chars_object (L : Layout) (level : Nat) (members : List (String × Value)) :
    chars L level (.object members) = L.block level '\x7b' '\x7d'
      ((members.map fun m => (m.1, chars L (level + 1) m.2)).map L.member) := by
  have hmembers : memberChars L (level + 1) members =
      members.map fun m => (m.1, chars L (level + 1) m.2) := by
    induction members with
    | nil => rfl
    | cons m rest ih => rw [memberChars, ih, List.map_cons]
  rw [chars, hmembers]

/-! ## Depth -/

mutual

/-- How many brackets and braces of the text are open at once. -/
def depth : Value → Nat
  | .boolean _ | .natural _ | .string _ => 0
  | .array items => depthOfItems items + 1
  | .object members => depthOfMembers members + 1

/-- The largest depth of an item. -/
def depthOfItems : List Value → Nat
  | [] => 0
  | v :: rest => max (depth v) (depthOfItems rest)

/-- The largest depth of the value of a member. -/
def depthOfMembers : List (String × Value) → Nat
  | [] => 0
  | (_, v) :: rest => max (depth v) (depthOfMembers rest)

end

theorem depth_array_le_iff {items : List Value} {n : Nat} :
    depth (.array items) ≤ n + 1 ↔ ∀ v ∈ items, v.depth ≤ n := by
  rw [depth, Nat.add_le_add_iff_right]
  induction items with
  | nil => simp [depthOfItems]
  | cons v rest ih => rw [depthOfItems, Nat.max_le, ih, List.forall_mem_cons]

theorem depth_object_le_iff {members : List (String × Value)} {n : Nat} :
    depth (.object members) ≤ n + 1 ↔ ∀ m ∈ members, m.2.depth ≤ n := by
  rw [depth, Nat.add_le_add_iff_right]
  induction members with
  | nil => simp [depthOfMembers]
  | cons m rest ih => rw [depthOfMembers, Nat.max_le, ih, List.forall_mem_cons]

/-! ## Induction -/

mutual

private theorem induct_value {P : Value → Prop} (hboolean : ∀ b, P (.boolean b))
    (hnatural : ∀ n, P (.natural n)) (hstring : ∀ s, P (.string s))
    (harray : ∀ items, (∀ v ∈ items, P v) → P (.array items))
    (hobject : ∀ members, (∀ m ∈ members, P m.2) → P (.object members)) : (v : Value) → P v
  | .boolean b => hboolean b
  | .natural n => hnatural n
  | .string s => hstring s
  | .array items => harray items (induct_items hboolean hnatural hstring harray hobject items)
  | .object members =>
    hobject members (induct_members hboolean hnatural hstring harray hobject members)

private theorem induct_items {P : Value → Prop} (hboolean : ∀ b, P (.boolean b))
    (hnatural : ∀ n, P (.natural n)) (hstring : ∀ s, P (.string s))
    (harray : ∀ items, (∀ v ∈ items, P v) → P (.array items))
    (hobject : ∀ members, (∀ m ∈ members, P m.2) → P (.object members)) :
    (items : List Value) → ∀ v ∈ items, P v
  | [], _, h => nomatch h
  | w :: rest, v, h => by
    cases h with
    | head => exact induct_value hboolean hnatural hstring harray hobject w
    | tail _ h => exact induct_items hboolean hnatural hstring harray hobject rest v h

private theorem induct_members {P : Value → Prop} (hboolean : ∀ b, P (.boolean b))
    (hnatural : ∀ n, P (.natural n)) (hstring : ∀ s, P (.string s))
    (harray : ∀ items, (∀ v ∈ items, P v) → P (.array items))
    (hobject : ∀ members, (∀ m ∈ members, P m.2) → P (.object members)) :
    (members : List (String × Value)) → ∀ m ∈ members, P m.2
  | [], _, h => nomatch h
  | (_, w) :: rest, m, h => by
    cases h with
    | head => exact induct_value hboolean hnatural hstring harray hobject w
    | tail _ h => exact induct_members hboolean hnatural hstring harray hobject rest m h

end

/-- Induction in which an array may use the statement for its items and an object for the values
    of its members. -/
@[elab_as_elim]
theorem structuralInduction {motive : Value → Prop} (boolean : ∀ b, motive (.boolean b))
    (natural : ∀ n, motive (.natural n)) (string : ∀ s, motive (.string s))
    (array : ∀ items, (∀ v ∈ items, motive v) → motive (.array items))
    (object : ∀ members, (∀ m ∈ members, motive m.2) → motive (.object members))
    (v : Value) : motive v :=
  induct_value boolean natural string array object v

/-! ## The texts that are written -/

theorem compactItems_append (level : Nat) (v : Value) (items : List Value) :
    compactItems (v :: items) ++ [']'] =
      v.compactChars ++ Layout.compact.rest level ']' (items.map compactChars) := by
  induction items generalizing v with
  | nil => rfl
  | cons w items ih =>
    rw [compactItems, List.append_assoc, List.cons_append, ih]
    rfl

theorem compactMembers_append (level : Nat) (m : String × Value)
    (members : List (String × Value)) :
    compactMembers (m :: members) ++ ['\x7d'] =
      Layout.compact.member (m.1, m.2.compactChars) ++ Layout.compact.rest level '\x7d'
        (members.map fun m => Layout.compact.member (m.1, m.2.compactChars)) := by
  induction members generalizing m with
  | nil => simp [compactMembers, Layout.member, Layout.rest, Layout.compact]
  | cons m' members ih =>
    have hm : compactMembers (m :: m' :: members) =
        Layout.compact.member (m.1, m.2.compactChars) ++ ',' :: compactMembers (m' :: members) := by
      simp [compactMembers, Layout.member, Layout.compact]
    rw [hm, List.append_assoc, List.cons_append, ih]
    rfl

/-- The compact text is the one without white space. -/
theorem compactChars_eq_chars (level : Nat) (v : Value) :
    v.compactChars = v.chars .compact level := by
  induction v using structuralInduction generalizing level with
  | boolean b => rfl
  | natural n => rfl
  | string s => rfl
  | array items ih =>
    rw [chars_array, ← List.map_congr_left fun v hv => ih v hv (level + 1)]
    cases items with
    | nil => rfl
    | cons v items =>
      rw [compactChars, compactItems_append level]
      rfl
  | object members ih =>
    have hmembers : members.map (fun m => (m.1, m.2.chars .compact (level + 1))) =
        members.map fun m => (m.1, m.2.compactChars) :=
      List.map_congr_left fun m hm => by rw [ih m hm (level + 1)]
    rw [chars_object, hmembers, List.map_map]
    cases members with
    | nil => rfl
    | cons m members =>
      rw [compactChars, compactMembers_append level]
      rfl

theorem prettyItems_append (level : Nat) (v : Value) (items : List Value) :
    prettyItems (level + 1) (v :: items) ++ (newLine level ++ [']']) =
      newLine (level + 1) ++ (v.prettyChars (level + 1) ++
        Layout.pretty.rest level ']' (items.map (prettyChars (level + 1)))) := by
  induction items generalizing v with
  | nil => rw [prettyItems, List.append_assoc]; rfl
  | cons w items ih =>
    rw [prettyItems, List.append_assoc, List.append_assoc, List.cons_append, ih]
    rfl

theorem prettyMembers_append (level : Nat) (m : String × Value)
    (members : List (String × Value)) :
    prettyMembers (level + 1) (m :: members) ++ (newLine level ++ ['\x7d']) =
      newLine (level + 1) ++ (Layout.pretty.member (m.1, m.2.prettyChars (level + 1)) ++
        Layout.pretty.rest level '\x7d'
          (members.map fun m => Layout.pretty.member (m.1, m.2.prettyChars (level + 1)))) := by
  induction members generalizing m with
  | nil => simp [prettyMembers, Layout.member, Layout.rest, Layout.pretty]
  | cons m' members ih =>
    have hm : prettyMembers (level + 1) (m :: m' :: members) =
        newLine (level + 1) ++ (Layout.pretty.member (m.1, m.2.prettyChars (level + 1)) ++
          ',' :: prettyMembers (level + 1) (m' :: members)) := by
      simp [prettyMembers, Layout.member, Layout.pretty]
    rw [hm, List.append_assoc, List.append_assoc, List.cons_append, ih]
    rfl

/-- The pretty text is the one with a line for each item or member. -/
theorem prettyChars_eq_chars (level : Nat) (v : Value) :
    v.prettyChars level = v.chars .pretty level := by
  induction v using structuralInduction generalizing level with
  | boolean b => rfl
  | natural n => rfl
  | string s => rfl
  | array items ih =>
    rw [chars_array, ← List.map_congr_left fun v hv => ih v hv (level + 1)]
    cases items with
    | nil => rfl
    | cons v items =>
      rw [prettyChars, List.isEmpty_cons, if_neg Bool.false_ne_true, prettyItems_append]
      rfl
  | object members ih =>
    have hmembers : members.map (fun m => (m.1, m.2.chars .pretty (level + 1))) =
        members.map fun m => (m.1, m.2.prettyChars (level + 1)) :=
      List.map_congr_left fun m hm => by rw [ih m hm (level + 1)]
    rw [chars_object, hmembers, List.map_map]
    cases members with
    | nil => rfl
    | cons m members =>
      rw [prettyChars, List.isEmpty_cons, if_neg Bool.false_ne_true, prettyMembers_append]
      rfl

end Value

end MacroByExample.Json
