import MacroByExample.Form.Layout
import MacroByExample.Text.Lines
import MacroByExample.Proofs.Reader.Writing
import MacroByExample.Proofs.Text.Columns

/-!
# The lines of a layout

Every line of a layout writes one item flat, between the brackets that open with it and those that
close with it. A list stays flat when its own text fits behind its indentation. The closing brackets
of the broken lists that end with it stand on the same line, and nothing leaves room for them: a
line can be too long by these brackets although the list on it could still be broken.

* `LayoutLine`, `Form.layoutLines`: the lines, as what they are made of.
* `writes_layoutLinesFrom`: they are the lines of the layout.
* `LayoutLine.Settled`, `settled_of_mem_layoutLinesFrom`: the item of a line fits or cannot be
  broken.
* `layoutLines_overlong_iff`: which lines are too long with a space left in them.
* `not_forall_overlong_line_unbreakable`: there are such lines.
-/

namespace MacroByExample

open Reader (IsToken)

/-! ## Lines -/

/-- Characters behind spaces and opening brackets, with closing brackets behind them. -/
def framed (indent openers closers : Nat) (cs : List Char) : List Char :=
  List.replicate indent ' ' ++ (List.replicate openers '(' ++ (cs ++ List.replicate closers ')'))

/-- A line of a layout. -/
structure LayoutLine where
  /-- How many spaces it begins with. -/
  indent : Nat
  /-- How many lists open on it before the item. -/
  openers : Nat
  /-- What it writes flat. -/
  item : Form
  /-- How many lists close on it behind the item. -/
  closers : Nat
deriving Repr, DecidableEq

namespace LayoutLine

/-- The characters of the line. -/
def chars (l : LayoutLine) : List Char :=
  framed l.indent l.openers l.closers l.item.chars

/-- The columns up to the end of the item. -/
def itemEnd (l : LayoutLine) : Nat :=
  l.indent + l.openers + Text.columns l.item.chars

end LayoutLine

namespace Form

mutual

/-- The lines of a form that stands behind so many spaces and opening brackets, if so many brackets
    close behind it. -/
def layoutLinesFrom (width spaces openers closers : Nat) : Form → List LayoutLine
  | .atom t => [⟨spaces, openers, .atom t, closers⟩]
  | .list items =>
    if overflows width (spaces + openers) (.list items) && !items.isEmpty then
      layoutLinesOfItems width spaces (openers + 1) (closers + 1) items
    else [⟨spaces, openers, .list items, closers⟩]

/-- The lines of the items of a broken list. The items after the first begin where it began. -/
def layoutLinesOfItems (width spaces openers closers : Nat) : List Form → List LayoutLine
  | [] => []
  | [f] => layoutLinesFrom width spaces openers closers f
  | f :: g :: rest =>
    layoutLinesFrom width spaces openers 0 f ++
      layoutLinesOfItems width (spaces + openers) 0 closers (g :: rest)

end

/-- The lines of the layout of a form. -/
def layoutLines (width : Nat) (f : Form) : List LayoutLine :=
  f.layoutLinesFrom width 0 0 0

end Form

/-! ## The columns of a line -/

theorem standsAlone_space : Text.StandsAlone ' ' :=
  Text.standsAlone_of_isPlain (by decide) (by decide +kernel) (by decide) (by decide)

theorem standsAlone_opener : Text.StandsAlone '(' :=
  Text.standsAlone_of_isPlain (by decide) (by decide +kernel) (by decide) (by decide)

theorem standsAlone_closer : Text.StandsAlone ')' :=
  Text.standsAlone_of_isPlain (by decide) (by decide +kernel) (by decide) (by decide)

theorem columns_framed (indent openers closers : Nat) (cs : List Char) :
    Text.columns (framed indent openers closers cs) =
      indent + openers + Text.columns cs + closers := by
  rw [framed, Text.columns_replicate_append standsAlone_space,
    Text.columns_replicate_append standsAlone_opener,
    Text.columns_append_replicate standsAlone_closer]
  omega

/-- The closing brackets come on top of the columns that decide whether the item is broken. -/
theorem LayoutLine.columns_chars (l : LayoutLine) :
    Text.columns l.chars = l.itemEnd + l.closers :=
  columns_framed ..

/-! ## The lines are those of the layout -/

theorem framed_zero (cs : List Char) : framed 0 0 0 cs = cs := by
  simp [framed]

/-- The brackets of a list around its items are one more of each kind. -/
theorem framed_list (indent openers closers : Nat) (cs : List Char) :
    framed indent openers closers ('(' :: (cs ++ [')'])) =
      framed indent (openers + 1) (closers + 1) cs := by
  have hopened : List.replicate (openers + 1) '(' = List.replicate openers '(' ++ ['('] :=
    List.replicate_succ'
  rw [framed, framed, hopened, List.replicate_succ]
  simp

/-- The first item of a broken list opens, the last one closes. -/
theorem framed_lineBreak (indent openers closers : Nat) (cs ds : List Char) :
    framed indent openers 0 cs ++ '\n' :: framed (indent + openers) 0 closers ds =
      framed indent openers closers (cs ++ (Form.lineBreak (indent + openers) ++ ds)) := by
  simp [framed, Form.lineBreak]

/-- The lines, of which there is at least one, write the characters. -/
structure Writes (lines : List LayoutLine) (cs : List Char) : Prop where
  ne_nil : lines ≠ []
  joinLines_eq : Text.joinLines (lines.map LayoutLine.chars) = cs

theorem writes_singleton (l : LayoutLine) : Writes [l] l.chars :=
  ⟨List.cons_ne_nil _ _, rfl⟩

theorem Writes.append {ls ms : List LayoutLine} {cs ds : List Char} (hl : Writes ls cs)
    (hm : Writes ms ds) : Writes (ls ++ ms) (cs ++ '\n' :: ds) where
  ne_nil := List.append_ne_nil_of_left_ne_nil hl.ne_nil _
  joinLines_eq := by
    have hls : ls.map LayoutLine.chars ≠ [] := by simpa using hl.ne_nil
    have hms : ms.map LayoutLine.chars ≠ [] := by simpa using hm.ne_nil
    rw [List.map_append, Text.joinLines_append hls hms, hl.joinLines_eq, hm.joinLines_eq]

theorem writes_layoutLinesOfItems {width : Nat} {items : List Form} (hne : items ≠ [])
    (h : ∀ f ∈ items, ∀ indent openers closers,
      Writes (f.layoutLinesFrom width indent openers closers)
        (framed indent openers closers (f.layoutChars width (indent + openers))))
    (indent openers closers : Nat) :
    Writes (Form.layoutLinesOfItems width indent openers closers items)
      (framed indent openers closers (Form.layoutItems width (indent + openers) items)) := by
  match items with
  | [f] => exact h f List.mem_cons_self indent openers closers
  | f :: g :: rest =>
    have hrest := writes_layoutLinesOfItems (List.cons_ne_nil g rest)
      (fun f' hf' => h f' (List.mem_cons_of_mem f hf')) (indent + openers) 0 closers
    rw [Form.layoutLinesOfItems, Form.layoutItems, ← framed_lineBreak]
    exact (h f List.mem_cons_self indent openers 0).append hrest

/-- The lines write the layout, behind the spaces and the opening brackets and in front of the
    closing ones. -/
theorem writes_layoutLinesFrom (width : Nat) (f : Form) (indent openers closers : Nat) :
    Writes (f.layoutLinesFrom width indent openers closers)
      (framed indent openers closers (f.layoutChars width (indent + openers))) := by
  induction f using Form.structuralInduction generalizing indent openers closers with
  | atom t => exact writes_singleton _
  | list items ih =>
    rw [Form.layoutLinesFrom, Form.layoutChars]
    split
    · next hbroken =>
      have hne : items ≠ [] := by rintro rfl; simp at hbroken
      rw [framed_list]
      exact writes_layoutLinesOfItems hne ih indent (openers + 1) (closers + 1)
    · exact writes_singleton _

/-! ## What stands on a line -/

namespace LayoutLine

/-- The item has no other tokens than the form, and it fits or cannot be broken. -/
structure Settled (width : Nat) (f : Form) (l : LayoutLine) : Prop where
  atoms_subset : ∀ t ∈ l.item.atoms, t ∈ f.atoms
  fits : l.item.isAtom = true ∨ l.item = .empty ∨ l.itemEnd ≤ width

theorem Settled.of_mem {width : Nat} {f : Form} {items : List Form} {l : LayoutLine}
    (h : Settled width f l) (hf : f ∈ items) : Settled width (.list items) l where
  atoms_subset t ht := Form.atoms_subset_of_mem hf (h.atoms_subset t ht)
  fits := h.fits

end LayoutLine

theorem settled_of_mem_layoutLinesOfItems {width : Nat} {f : Form} {items : List Form}
    (h : ∀ g ∈ items, ∀ indent openers closers,
      ∀ l ∈ g.layoutLinesFrom width indent openers closers, l.Settled width f)
    (indent openers closers : Nat) :
    ∀ l ∈ Form.layoutLinesOfItems width indent openers closers items, l.Settled width f := by
  intro l hl
  match items with
  | [] => cases hl
  | [g] => exact h g List.mem_cons_self indent openers closers l hl
  | g :: g' :: rest =>
    rcases List.mem_append.mp hl with hl | hl
    · exact h g List.mem_cons_self indent openers 0 l hl
    · exact settled_of_mem_layoutLinesOfItems
        (fun f' hf' => h f' (List.mem_cons_of_mem g hf')) (indent + openers) 0 closers l hl

theorem settled_of_mem_layoutLinesFrom {width : Nat} {f : Form} (indent openers closers : Nat) :
    ∀ l ∈ f.layoutLinesFrom width indent openers closers, l.Settled width f := by
  induction f using Form.structuralInduction generalizing indent openers closers with
  | atom t =>
    intro l hl
    obtain rfl := List.mem_singleton.mp hl
    exact ⟨fun _ ht => ht, .inl rfl⟩
  | list items ih =>
    intro l hl
    rw [Form.layoutLinesFrom] at hl
    split at hl
    · exact settled_of_mem_layoutLinesOfItems
        (fun g hg i o c l' hl' => (ih g hg i o c l' hl').of_mem hg) _ _ _ l hl
    · next hflat =>
      obtain rfl := List.mem_singleton.mp hl
      refine ⟨fun _ ht => ht, .inr ?_⟩
      cases items with
      | nil => exact .inl rfl
      | cons g rest => exact .inr (by simpa [Form.overflows, LayoutLine.itemEnd] using hflat)

/-! ## The characters of a line -/

theorem mem_charsOfItems {c : Char} {items : List Form} (h : c ∈ Form.charsOfItems items) :
    c = ' ' ∨ ∃ f ∈ items, c ∈ f.chars := by
  match items with
  | [] => cases h
  | [f] => exact .inr ⟨f, List.mem_cons_self, h⟩
  | f :: g :: rest =>
    rcases List.mem_append.mp h with hf | hrest
    · exact .inr ⟨f, List.mem_cons_self, hf⟩
    · rcases List.mem_cons.mp hrest with hspace | hrest
      · exact .inl hspace
      · exact (mem_charsOfItems hrest).imp_right fun ⟨f', hf', hc⟩ =>
          ⟨f', List.mem_cons_of_mem f hf', hc⟩

/-- A character of the flat text is a space, a bracket or a character of a token. -/
theorem mem_chars {c : Char} {f : Form} (h : c ∈ f.chars) :
    c ∈ [' ', '(', ')'] ∨ ∃ t ∈ f.atoms, c ∈ t.toList := by
  induction f using Form.structuralInduction with
  | atom t => exact .inr ⟨t, by simp, h⟩
  | list items ih =>
    rw [Form.chars_list, List.mem_cons, List.mem_append, List.mem_singleton] at h
    rcases h with rfl | h | rfl
    · exact .inl (by decide)
    · rcases mem_charsOfItems h with rfl | ⟨f, hf, h⟩
      · exact .inl (by decide)
      · exact (ih f hf h).imp_right fun ⟨t, ht, hc⟩ => ⟨t, Form.atoms_subset_of_mem hf ht, hc⟩
    · exact .inl (by decide)

/-- So is a character of a line. -/
theorem mem_chars_of_mem_layoutLines {width : Nat} {f : Form} {l : LayoutLine}
    (hl : l ∈ f.layoutLines width) {c : Char} (h : c ∈ l.chars) :
    c ∈ [' ', '(', ')'] ∨ ∃ t ∈ f.atoms, c ∈ t.toList := by
  have hsettled := settled_of_mem_layoutLinesFrom 0 0 0 l hl
  simp only [LayoutLine.chars, framed, List.mem_append, List.mem_replicate] at h
  rcases h with ⟨-, rfl⟩ | ⟨-, rfl⟩ | h | ⟨-, rfl⟩
  · exact .inl (by decide)
  · exact .inl (by decide)
  · exact (mem_chars h).imp_right fun ⟨t, ht, hc⟩ => ⟨t, hsettled.atoms_subset t ht, hc⟩
  · exact .inl (by decide)

/-! ## The spaces of a line -/

theorem Reader.IsToken.notMem_space {t : String} (h : IsToken t) : ' ' ∉ t.toList :=
  fun hmem => h.notMem_reservedChars ' ' hmem (by decide)

theorem head?_chars_ne_space {f : Form} (h : ∀ t ∈ f.atoms, IsToken t) :
    f.chars.head? ≠ some ' ' := by
  cases f with
  | atom t =>
    exact fun hhead => (h t (by simp)).notMem_space (List.mem_of_mem_head? hhead)
  | list items => simp [Form.chars_list]

/-- Behind the spaces at the front of a line, there is a space only where its item has one. -/
theorem space_mem_dropWhile_framed (indent openers closers : Nat) {cs : List Char}
    (h : cs.head? ≠ some ' ') :
    ' ' ∈ (framed indent openers closers cs).dropWhile (· == ' ') ↔ ' ' ∈ cs := by
  have hspaces : (framed indent openers closers cs).dropWhile (· == ' ') =
      (framed 0 openers closers cs).dropWhile (· == ' ') :=
    List.dropWhile_append_of_pos (by simp)
  have hfront : (framed 0 openers closers cs).dropWhile (· == ' ') =
      framed 0 openers closers cs := by
    match openers, cs, closers with
    | _ + 1, _, _ => simp [framed, List.replicate_succ]
    | 0, c :: cs, _ =>
      have hc : c ≠ ' ' := fun e => h (congrArg some e)
      simp [framed, hc]
    | 0, [], _ + 1 => simp [framed, List.replicate_succ]
    | 0, [], 0 => rfl
  rw [hspaces, hfront]
  simp [framed]

/-! ## Lines that are too long -/

/-- The lines between the line feeds of a layout, if no token holds a line feed. -/
theorem splitLines_layoutChars_of_notMem {f : Form} (h : ∀ t ∈ f.atoms, '\n' ∉ t.toList)
    (width : Nat) :
    Text.splitLines (f.layoutChars width 0) = (f.layoutLines width).map LayoutLine.chars := by
  have hwrites := writes_layoutLinesFrom width f 0 0 0
  rw [framed_zero] at hwrites
  rw [← hwrites.joinLines_eq]
  refine Text.splitLines_joinLines (by simpa using hwrites.ne_nil) fun line hline hfeed => ?_
  obtain ⟨l, hl, rfl⟩ := List.mem_map.mp hline
  rcases mem_chars_of_mem_layoutLines hl hfeed with hplain | ⟨t, ht, hfeed⟩
  · exact absurd hplain (by decide)
  · exact h t ht hfeed

theorem splitLines_layoutChars {f : Form} (h : ∀ t ∈ f.atoms, IsToken t) (width : Nat) :
    Text.splitLines (f.layoutChars width 0) = (f.layoutLines width).map LayoutLine.chars :=
  splitLines_layoutChars_of_notMem
    (fun t ht hfeed => (h t ht).notMem_reservedChars '\n' hfeed (by decide)) width

/-- An item with a space in it is a list that fits. -/
theorem LayoutLine.Settled.itemEnd_le {width : Nat} {f : Form} {l : LayoutLine}
    (h : l.Settled width f) (htokens : ∀ t ∈ l.item.atoms, IsToken t)
    (hspace : ' ' ∈ l.item.chars) : l.itemEnd ≤ width := by
  rcases h.fits with hatom | hempty | hfits
  · cases hitem : l.item with
    | atom t =>
      rw [hitem] at htokens hspace
      exact absurd hspace (htokens t (by simp)).notMem_space
    | list items => simp [hitem, Form.isAtom] at hatom
  · rw [hempty] at hspace
    exact absurd hspace (by decide)
  · exact hfits

/-- **Lines that are too long and could be broken.** A line of a layout that takes more columns than
    it should and holds a space behind its indentation is one whose item fits, with a space in it,
    and whose closing brackets behind the item do not fit any more. -/
theorem layoutLines_overlong_iff {f : Form} (h : ∀ t ∈ f.atoms, IsToken t) (width : Nat) :
    Text.splitLines (f.layoutChars width 0) = (f.layoutLines width).map LayoutLine.chars ∧
      ∀ l ∈ f.layoutLines width,
        (width < Text.columns l.chars ∧ ' ' ∈ l.chars.dropWhile (· == ' ') ↔
          ' ' ∈ l.item.chars ∧ l.itemEnd ≤ width ∧ width < l.itemEnd + l.closers) := by
  refine ⟨splitLines_layoutChars h width, fun l hl => ?_⟩
  have hsettled := settled_of_mem_layoutLinesFrom 0 0 0 l hl
  have htokens : ∀ t ∈ l.item.atoms, IsToken t := fun t ht => h t (hsettled.atoms_subset t ht)
  have hspace : ' ' ∈ l.chars.dropWhile (· == ' ') ↔ ' ' ∈ l.item.chars :=
    space_mem_dropWhile_framed _ _ _ (head?_chars_ne_space htokens)
  rw [l.columns_chars, hspace]
  constructor
  · exact fun ⟨hlong, hmem⟩ => ⟨hmem, hsettled.itemEnd_le htokens hmem, hlong⟩
  · exact fun ⟨hmem, _, hlong⟩ => ⟨hlong, hmem⟩

/-- The list of `b` and `c` takes six columns with the space before it, and the bracket behind it
    the seventh. -/
theorem layoutLines_overlong_nested :
    (∀ t ∈ (Form.list [.atom "a", .list [.atom "b", .atom "c"]]).atoms, IsToken t) ∧
      ∃ l ∈ (Form.list [.atom "a", .list [.atom "b", .atom "c"]]).layoutLines 6,
        6 < Text.columns l.chars ∧ ' ' ∈ l.chars.dropWhile (· == ' ') := by
  have htokens : ∀ t ∈ (Form.list [.atom "a", .list [.atom "b", .atom "c"]]).atoms, IsToken t := by
    decide +kernel
  have hline : ⟨1, 0, .list [.atom "b", .atom "c"], 1⟩ ∈
      (Form.list [.atom "a", .list [.atom "b", .atom "c"]]).layoutLines 6 := by decide +kernel
  refine ⟨htokens, _, hline, ?_⟩
  exact ((layoutLines_overlong_iff htokens 6).2 _ hline).mpr (by decide +kernel)

/-- It is not so that a line that is too long cannot be broken. -/
theorem not_forall_overlong_line_unbreakable :
    ¬ ∀ (f : Form) (width : Nat), (∀ t ∈ f.atoms, IsToken t) → 1 ≤ width →
      ∀ line ∈ Text.splitLines (f.layoutChars width 0), width < Text.columns line →
        ' ' ∉ line.dropWhile (· == ' ') := by
  intro h
  exact h (.list [.atom "a", .list [.atom "b", .atom "c"]]) 6 (by decide +kernel) (by decide)
    " (b c))".toList (by decide +kernel) (by decide +kernel) (by decide +kernel)

end MacroByExample
