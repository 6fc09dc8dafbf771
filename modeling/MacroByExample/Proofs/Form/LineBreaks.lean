import Mathlib.Data.List.Infix
import MacroByExample.Form.Layout
import MacroByExample.Text.Lines

/-!
# The line breaks of a layout

A layout writes what the flat text writes, only that at some separators a line break stands in place
of the space. A list breaks with all its separators or with none, and only if every list around it
breaks; the number of columns decides no more than which lists these are. With more columns fewer
lists break.

* `Form.Separator`, `Form.Segment`, `Form.segments`: the flat text with its separators left open.
* `mem_separators_iff`: the separators are the places between two items of a list.
* `Form.charsWith`: the text with line breaks at some separators.
* `Form.breaks`, `layoutChars_eq`, `length_splitLines_layoutChars`: the line breaks of a layout, and
  how many lines they make.
* `breaks_antitone`: they are the only ones that give the layout, list by list, and no others come
  with more columns.
-/

namespace MacroByExample.Form

/-! ## Separators -/

/-- A place between two items of a list. -/
@[ext]
structure Separator where
  /-- Where the list stands: its index among the items of the list around it, and so on outwards. -/
  path : List Nat
  /-- The index of the item behind the place. -/
  next : Nat
deriving Repr, DecidableEq

/-- How many lists enclose the item behind the place: the list itself and those around it. -/
def Separator.depth (s : Separator) : Nat :=
  s.path.length + 1

/-- A stretch of a text. -/
inductive Segment where
  /-- Characters that every layout writes. -/
  | written (cs : List Char)
  /-- The characters between two items, which are left open. -/
  | between (s : Separator)

/-- The separator that the stretch stands for. -/
def Segment.separator? : Segment → Option Separator
  | .written _ => none
  | .between s => some s

/-- The characters of the stretch, if these are the separators with a line break. -/
def Segment.chars (broken : Separator → Bool) : Segment → List Char
  | .written cs => cs
  | .between s => if broken s then lineBreak s.depth else [' ']

mutual

/-- The text of a form that stands at the path. -/
def segmentsFrom (path : List Nat) : Form → List Segment
  | .atom t => [.written t.toList]
  | .list items => .written ['('] :: (segmentsOfItems path 0 items ++ [.written [')']])

/-- The text of the items of the list at the path, of which the first has the index. -/
def segmentsOfItems (path : List Nat) (i : Nat) : List Form → List Segment
  | [] => []
  | [f] => segmentsFrom (i :: path) f
  | f :: g :: rest =>
    segmentsFrom (i :: path) f ++ .between ⟨path, i + 1⟩ :: segmentsOfItems path (i + 1) (g :: rest)

end

/-- The text of a form. -/
def segments (f : Form) : List Segment :=
  f.segmentsFrom []

/-- The separators of a form, left to right. -/
def separators (f : Form) : List Separator :=
  f.segments.filterMap Segment.separator?

/-- The text of the form with a line break at each of the separators, and with one space at all
    others. -/
def charsWith (f : Form) (broken : List Separator) : List Char :=
  f.segments.flatMap (Segment.chars (· ∈ broken))

/-- The part of a form that stands at the path. -/
def part? (f : Form) : List Nat → Option Form
  | [] => some f
  | i :: path => (f.part? path).bind fun g => g.items?.bind (·[i]?)

/-! ## The separators are the places between items -/

@[simp]
theorem part?_nil (f : Form) : f.part? [] = some f := rfl

theorem part?_append (f : Form) (p q : List Nat) :
    f.part? (p ++ q) = (f.part? q).bind (·.part? p) := by
  induction p with
  | nil => simp
  | cons i p ih => simp only [List.cons_append, part?, ih, Option.bind_assoc]

theorem part?_item {f : Form} {path : List Nat} {items : List Form}
    (h : f.part? path = some (.list items)) (i : Nat) : f.part? (i :: path) = items[i]? := by
  simp [part?, h, items?]

/-- A separator of the items of a list stands between two of them or in one of them. -/
theorem between_mem_segmentsOfItems {s : Separator} {path : List Nat} {items : List Form} (i : Nat) :
    .between s ∈ segmentsOfItems path i items ↔
      (∃ k, k + 1 < items.length ∧ s = ⟨path, i + (k + 1)⟩) ∨
        ∃ k f, items[k]? = some f ∧ .between s ∈ segmentsFrom ((i + k) :: path) f := by
  match items with
  | [] => simp [segmentsOfItems]
  | [f] => simp [segmentsOfItems, List.getElem?_cons]
  | f :: g :: rest =>
    rw [segmentsOfItems, List.mem_append, List.mem_cons, between_mem_segmentsOfItems (i + 1)]
    constructor
    · rintro (h | h | ⟨k, hk, rfl⟩ | ⟨k, f', hf', h⟩)
      · exact .inr ⟨0, f, rfl, h⟩
      · exact .inl ⟨0, by simp, Segment.between.inj h⟩
      · exact .inl ⟨k + 1, by simpa using hk, by congr 1; omega⟩
      · exact .inr ⟨k + 1, f', hf', by rwa [← Nat.add_assoc, Nat.add_right_comm]⟩
    · rintro (⟨_ | k, hk, rfl⟩ | ⟨_ | k, f', hf', h⟩)
      · exact .inr (.inl rfl)
      · exact .inr (.inr (.inl ⟨k, by simpa using hk, by congr 1; omega⟩))
      · obtain rfl := Option.some.inj hf'
        exact .inl h
      · exact .inr (.inr (.inr ⟨k, f', hf', by rwa [Nat.add_right_comm, Nat.add_assoc]⟩))

/-- The separators of a part stand in the lists of the part. -/
theorem between_mem_segmentsFrom {s : Separator} {path : List Nat} {f : Form} :
    .between s ∈ segmentsFrom path f ↔
      ∃ p items, s.path = p ++ path ∧ f.part? p = some (.list items) ∧
        0 < s.next ∧ s.next < items.length := by
  induction f using Form.structuralInduction generalizing path with
  | atom t =>
    have hpart : ∀ p items, (Form.atom t).part? p ≠ some (.list items) := by
      intro p items h
      rcases List.eq_nil_or_concat' p with rfl | ⟨p, i, rfl⟩
      · cases h
      · rw [part?_append] at h
        cases h
    simp [segmentsFrom, hpart]
  | list items ih =>
    have hitems : .between s ∈ segmentsFrom path (.list items) ↔
        .between s ∈ segmentsOfItems path 0 items := by simp [segmentsFrom]
    rw [hitems, between_mem_segmentsOfItems]
    constructor
    · rintro (⟨k, hk, rfl⟩ | ⟨k, f, hf, h⟩)
      · exact ⟨[], items, rfl, rfl, by simp, by simpa using hk⟩
      · rw [Nat.zero_add] at h
        obtain ⟨p, items', hpath, hpart, hnext⟩ := (ih f (List.mem_of_getElem? hf)).mp h
        refine ⟨p ++ [k], items', by simpa using hpath, ?_, hnext⟩
        simp [part?_append, part?, items?, hf, hpart]
    · rintro ⟨p, items', hpath, hpart, hpos, hlt⟩
      rcases List.eq_nil_or_concat' p with rfl | ⟨p, k, rfl⟩
      · obtain rfl : items = items' := by simpa using hpart
        exact .inl ⟨s.next - 1, by omega, Separator.ext hpath (by simp; omega)⟩
      · obtain ⟨f, hf, hpart⟩ : ∃ f, items[k]? = some f ∧ f.part? p = some (.list items') := by
          simpa [part?_append, part?, items?, Option.bind_eq_some_iff] using hpart
        refine .inr ⟨k, f, hf, ?_⟩
        rw [Nat.zero_add, ih f (List.mem_of_getElem? hf)]
        exact ⟨p, items', by simpa using hpath, hpart, hpos, hlt⟩

theorem mem_separators {s : Separator} {f : Form} :
    s ∈ f.separators ↔ .between s ∈ f.segments := by
  rw [separators, List.mem_filterMap]
  constructor
  · rintro ⟨_ | s', hs', h⟩
    · cases h
    · obtain rfl := Option.some.inj h
      exact hs'
  · exact fun h => ⟨_, h, rfl⟩

/-- The separators are the places between two items of a list. -/
theorem mem_separators_iff {s : Separator} {f : Form} :
    s ∈ f.separators ↔
      ∃ items, f.part? s.path = some (.list items) ∧ 0 < s.next ∧ s.next < items.length := by
  simp [mem_separators, segments, between_mem_segmentsFrom]

/-! ## The text determines the line breaks -/

/-- A line break begins with another character than a space, so the text tells at which separators
    it has one. -/
theorem flatMap_chars_eq_iff {broken broken' : Separator → Bool} {segments : List Segment} :
    segments.flatMap (Segment.chars broken) = segments.flatMap (Segment.chars broken') ↔
      ∀ s, .between s ∈ segments → broken s = broken' s := by
  induction segments with
  | nil => simp
  | cons segment rest ih =>
    rw [List.flatMap_cons, List.flatMap_cons]
    cases segment with
    | written cs => simp [Segment.chars, ih]
    | between s =>
      cases h : broken s <;> cases h' : broken' s <;>
        simp [Segment.chars, lineBreak, h, h', ih]

/-- A text has as many line feeds more than the flat text as it has line breaks. -/
theorem count_flatMap_chars (broken : Separator → Bool) (segments : List Segment) :
    (segments.flatMap (Segment.chars broken)).count '\n' =
      (segments.flatMap (Segment.chars fun _ => false)).count '\n' +
        (segments.filterMap Segment.separator?).countP broken := by
  induction segments with
  | nil => rfl
  | cons segment rest ih =>
    rw [List.flatMap_cons, List.flatMap_cons, List.count_append, List.count_append, ih]
    cases segment with
    | written cs =>
      simp only [Segment.chars, Segment.separator?, List.filterMap_cons]
      omega
    | between s =>
      have hbreak : (lineBreak s.depth).count '\n' = 1 := by
        simp [lineBreak, List.count_replicate]
      simp only [Segment.separator?, List.filterMap_cons, List.countP_cons]
      cases h : broken s
      · simp [Segment.chars, h]
      · simp [Segment.chars, h, hbreak]
        omega

/-! ## The text of the items -/

/-- The items of a list with the characters of its separators between any two. -/
theorem flatMap_segmentsOfItems {broken : Separator → Bool} {text : Form → List Char}
    {sep : List Char} {path : List Nat} {items : List Form} (i : Nat)
    (hsep : ∀ next, (Segment.between ⟨path, next⟩).chars broken = sep)
    (h : ∀ k f, items[k]? = some f →
      (segmentsFrom ((i + k) :: path) f).flatMap (Segment.chars broken) = text f) :
    (segmentsOfItems path i items).flatMap (Segment.chars broken) =
      sep.intercalate (items.map text) := by
  match items with
  | [] => rfl
  | [f] =>
    rw [segmentsOfItems, List.map_singleton, List.intercalate_singleton]
    exact h 0 f rfl
  | f :: g :: rest =>
    have hfirst : (segmentsFrom (i :: path) f).flatMap (Segment.chars broken) = text f := h 0 f rfl
    have hrest : (segmentsOfItems path (i + 1) (g :: rest)).flatMap (Segment.chars broken) =
        sep.intercalate ((g :: rest).map text) :=
      flatMap_segmentsOfItems (i + 1) hsep fun k f' hf' => by
        rw [Nat.add_assoc, Nat.add_comm 1]
        exact h (k + 1) f' hf'
    rw [segmentsOfItems, List.flatMap_append, List.flatMap_cons, hsep, hfirst, hrest]
    simp

theorem flatMap_segmentsFrom_flat (path : List Nat) (f : Form) :
    (segmentsFrom path f).flatMap (Segment.chars fun _ => false) = f.chars := by
  induction f using Form.structuralInduction generalizing path with
  | atom t => simp [segmentsFrom, Segment.chars]
  | list items ih =>
    have hitems : (segmentsOfItems path 0 items).flatMap (Segment.chars fun _ => false) =
        [' '].intercalate (items.map chars) :=
      flatMap_segmentsOfItems 0 (fun _ => rfl) fun k f hf => ih f (List.mem_of_getElem? hf) _
    rw [segmentsFrom, List.flatMap_cons, List.flatMap_append, hitems, chars_list,
      charsOfItems_eq_intercalate]
    rfl

/-- Without line breaks the text is the flat text. -/
theorem charsWith_nil (f : Form) : f.charsWith [] = f.chars := by
  rw [← flatMap_segmentsFrom_flat [] f]
  exact flatMap_chars_eq_iff.mpr fun s _ => decide_eq_false List.not_mem_nil

/-! ## The line breaks of a layout -/

/-- Whether there is a part at the path and it does not fit behind as many columns as there are
    lists around it. -/
def overflowsAt (width : Nat) (f : Form) (path : List Nat) : Bool :=
  (f.part? path).any (overflows width path.length)

/-- Whether the list at the path breaks: neither it nor a list around it fits. -/
def breaksAt (width : Nat) (f : Form) (path : List Nat) : Bool :=
  path.tails.all (overflowsAt width f)

/-- The separators at which a layout has a line break. -/
def breaks (width : Nat) (f : Form) : List Separator :=
  f.separators.filter (f.breaksAt width ·.path)

theorem breaksAt_iff {width : Nat} {f : Form} {path : List Nat} :
    f.breaksAt width path = true ↔ ∀ p, p <:+ path → f.overflowsAt width p = true := by
  simp [breaksAt]

theorem breaksAt_of_suffix {width : Nat} {f : Form} {p path : List Nat} (hp : p <:+ path)
    (h : f.breaksAt width path = true) : f.breaksAt width p = true :=
  breaksAt_iff.mpr fun q hq => breaksAt_iff.mp h q (hq.trans hp)

theorem overflowsAt_of_part? {width : Nat} {f g : Form} {path : List Nat}
    (h : f.part? path = some g) : f.overflowsAt width path = g.overflows width path.length := by
  rw [overflowsAt, h, Option.any_some]

/-- The text of a part, if every list around it breaks, is its layout behind as many columns as
    there are such lists. -/
theorem flatMap_segmentsFrom_breaksAt {width : Nat} {f g : Form} {path : List Nat}
    (hpart : f.part? path = some g)
    (haround : ∀ p, p <:+ path → p ≠ path → f.overflowsAt width p = true) :
    (segmentsFrom path g).flatMap (Segment.chars fun s => f.breaksAt width s.path) =
      g.layoutChars width path.length := by
  induction g using Form.structuralInduction generalizing path with
  | atom t => simp [segmentsFrom, Segment.chars, layoutChars]
  | list items ih =>
    rw [layoutChars]
    split
    · next hbroken =>
      -- The list breaks, so the lists around each item are this one and those around it.
      have hbreaks : f.breaksAt width path = true := by
        refine breaksAt_iff.mpr fun p hp => ?_
        by_cases hne : p = path
        · rw [hne, overflowsAt_of_part? hpart]
          exact (Bool.and_eq_true_iff.mp hbroken).1
        · exact haround p hp hne
      have hitems : (segmentsOfItems path 0 items).flatMap
          (Segment.chars fun s => f.breaksAt width s.path) =
            (lineBreak (path.length + 1)).intercalate
              (items.map (layoutChars width (path.length + 1))) := by
        refine flatMap_segmentsOfItems 0 (fun next => if_pos hbreaks) fun k g hg => ?_
        refine ih g (List.mem_of_getElem? hg) ?_ fun p hp hne => ?_
        · rw [part?_item hpart, Nat.zero_add, hg]
        · exact breaksAt_iff.mp hbreaks p ((List.suffix_cons_iff.mp hp).resolve_left hne)
      rw [segmentsFrom, List.flatMap_cons, List.flatMap_append, hitems, layoutItems_eq_intercalate]
      rfl
    · next hflat =>
      -- The list stays flat, and with it every list in it, whether that would fit or not.
      rw [← flatMap_segmentsFrom_flat path]
      refine flatMap_chars_eq_iff.mpr fun s hs => Bool.eq_false_iff.mpr fun hbreaks => ?_
      obtain ⟨p, -, hpath, -⟩ := between_mem_segmentsFrom.mp hs
      have hlong := breaksAt_iff.mp hbreaks path ⟨p, hpath.symm⟩
      rw [overflowsAt_of_part? hpart] at hlong
      obtain rfl : items = [] := by simpa [hlong] using hflat
      simp [segmentsFrom, segmentsOfItems] at hs

theorem layoutChars_eq_flatMap (width : Nat) (f : Form) :
    f.layoutChars width 0 = f.segments.flatMap (Segment.chars fun s => f.breaksAt width s.path) :=
  (flatMap_segmentsFrom_breaksAt (part?_nil f)
    fun _ hp hne => absurd (List.suffix_nil.mp hp) hne).symm

theorem mem_breaks {width : Nat} {f : Form} {s : Separator} :
    s ∈ f.breaks width ↔ s ∈ f.separators ∧ f.breaksAt width s.path = true :=
  List.mem_filter

theorem charsWith_eq_iff {f : Form} {broken broken' : List Separator} :
    f.charsWith broken = f.charsWith broken' ↔
      ∀ s ∈ f.separators, (s ∈ broken ↔ s ∈ broken') := by
  refine flatMap_chars_eq_iff.trans ?_
  simp [mem_separators]

theorem layoutChars_eq (width : Nat) (f : Form) :
    f.layoutChars width 0 = f.charsWith (f.breaks width) := by
  rw [layoutChars_eq_flatMap]
  refine flatMap_chars_eq_iff.mpr fun s hs => ?_
  simp [mem_breaks, mem_separators.mpr hs]

/-- A layout has a line more than the flat text for every line break. -/
theorem length_splitLines_layoutChars (width : Nat) (f : Form) :
    (Text.splitLines (f.layoutChars width 0)).length =
      (Text.splitLines f.chars).length + (f.breaks width).length := by
  have hcount := count_flatMap_chars (fun s => f.breaksAt width s.path) f.segments
  rw [← layoutChars_eq_flatMap, segments, flatMap_segmentsFrom_flat,
    List.countP_eq_length_filter] at hcount
  rw [Text.length_splitLines, Text.length_splitLines, hcount]
  exact Nat.add_right_comm ..

/-! ## More columns -/

theorem overflows_of_le {width width' indent : Nat} (hle : width ≤ width') {f : Form}
    (h : f.overflows width' indent = true) : f.overflows width indent = true := by
  simp only [overflows, decide_eq_true_eq] at h ⊢
  omega

theorem breaksAt_of_le {width width' : Nat} (hle : width ≤ width') {f : Form} {path : List Nat}
    (h : f.breaksAt width' path = true) : f.breaksAt width path = true := by
  refine breaksAt_iff.mpr fun p hp => ?_
  obtain ⟨g, hg, hover⟩ := (Option.any_eq_true _ _).mp (breaksAt_iff.mp h p hp)
  exact (Option.any_eq_true _ _).mpr ⟨g, hg, overflows_of_le hle hover⟩

theorem breaks_sublist_of_le {width width' : Nat} (hle : width ≤ width') (f : Form) :
    (f.breaks width').Sublist (f.breaks width) :=
  List.monotone_filter_right _ fun _ => breaksAt_of_le hle

/-- Whether a list has all its separators among these or none, and if it has, then every list around
    it has. -/
structure ListByList (f : Form) (broken : List Separator) : Prop where
  /-- The separators of one list are in the same case. -/
  all_or_none : ∀ s ∈ f.separators, ∀ s' ∈ f.separators, s.path = s'.path →
    (s ∈ broken ↔ s' ∈ broken)
  /-- A list whose place is an end of the other's path is around that list. -/
  enclosing : ∀ s ∈ broken, ∀ s' ∈ f.separators, s'.path <:+ s.path → s' ∈ broken

theorem listByList_breaks (width : Nat) (f : Form) : ListByList f (f.breaks width) where
  all_or_none s hs s' hs' hpath := by simp [mem_breaks, hs, hs', hpath]
  enclosing s hs s' hs' hpath :=
    mem_breaks.mpr ⟨hs', breaksAt_of_suffix hpath (mem_breaks.mp hs).2⟩

/-- **Line breaks.** Within any number of columns, the separators of a form at which its layout has
    a line break are all those of certain lists and of the lists around them, and no other choice of
    separators gives the layout. With more columns they are fewer, and so are the lines. -/
theorem breaks_antitone (f : Form) {width width' : Nat} (hle : width ≤ width') :
    (∀ s, s ∈ f.separators ↔
        ∃ items, f.part? s.path = some (.list items) ∧ 0 < s.next ∧ s.next < items.length) ∧
      f.charsWith [] = f.chars ∧
      (∀ w, f.breaks w ⊆ f.separators ∧ ListByList f (f.breaks w) ∧
        ∀ broken, f.charsWith broken = f.layoutChars w 0 ↔
          ∀ s ∈ f.separators, (s ∈ broken ↔ s ∈ f.breaks w)) ∧
      f.breaks width' ⊆ f.breaks width ∧
      (Text.splitLines (f.layoutChars width' 0)).length ≤
        (Text.splitLines (f.layoutChars width 0)).length := by
  have hbreaks := breaks_sublist_of_le hle f
  refine ⟨fun _ => mem_separators_iff, charsWith_nil f, fun w => ⟨List.filter_subset_self _,
    listByList_breaks w f, fun broken => ?_⟩, hbreaks.subset, ?_⟩
  · rw [layoutChars_eq, charsWith_eq_iff]
  · rw [length_splitLines_layoutChars, length_splitLines_layoutChars]
    exact Nat.add_le_add_left hbreaks.length_le _

/-- The list of `b` and `c` takes six columns with the space before it. -/
theorem breaks_antitone_nested :
    5 ≤ 8 ∧
      (Form.list [.atom "a", .list [.atom "b", .atom "c"]]).breaks 8 = [⟨[], 1⟩] ∧
      (Form.list [.atom "a", .list [.atom "b", .atom "c"]]).breaks 8 ⊆
        (Form.list [.atom "a", .list [.atom "b", .atom "c"]]).breaks 5 ∧
      (Form.list [.atom "a", .list [.atom "b", .atom "c"]]).breaks 5 = [⟨[], 1⟩, ⟨[1], 1⟩] :=
  ⟨by decide, by decide +kernel, (breaks_antitone _ (by decide)).2.2.2.1, by decide +kernel⟩

end MacroByExample.Form
