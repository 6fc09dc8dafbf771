import MacroByExample.Proofs.Form.Substitution
import MacroByExample.Proofs.Rules.Expansion

/-!
# Images of bindings

Variables can be renamed, and the tokens of the forms they captured can be replaced by forms. An
expansion asks of a variable only what it captured and whether it is marked, and puts the captured
forms into its output as they are. So with renamed variables and replaced captures a template
expands to the same form with the same replacements, and where it cannot be expanded the error is
the same up to the names in it.

* `Bindings.mapForms`, `Bindings.rename`: other captures, and other names for the variables.
* `Bindings.Image`: both at once, as far as an expansion can see.
* `drivers_image`, `repetitions_image`, `Bindings.Image.narrow`: what drives a repetition, and its
  rounds.
* `expandForm_image`: the expansion of the renamed template.
-/

namespace MacroByExample

/-! ## Maps -/

namespace TokenMap

variable {β γ : Type}

/-- The map with every value replaced. -/
def mapValues (f : β → γ) (m : TokenMap β) : TokenMap γ :=
  ⟨m.entries.map fun e => (e.1, f e.2), List.pairwise_map.mpr m.sorted⟩

theorem get?_mapValues (f : β → γ) (m : TokenMap β) (key : String) :
    (m.mapValues f).get? key = (m.get? key).map f := by
  change (m.entries.map fun e => (e.1, f e.2)).lookup key = (m.entries.lookup key).map f
  induction m.entries with
  | nil => rfl
  | cons e rest ih =>
    rw [List.map_cons, lookup_entry, lookup_entry, ih]
    split <;> rfl

/-- The map with every key replaced. -/
def mapKeys (r : String → String) (m : TokenMap β) : TokenMap β :=
  m.entries.foldr (fun e m => m.insert (r e.1) e.2) empty

theorem get?_mapKeys {r : String → String} (hr : Function.Injective r) (m : TokenMap β)
    (key : String) : (m.mapKeys r).get? (r key) = m.get? key := by
  change (m.entries.foldr (fun e m => m.insert (r e.1) e.2) empty).get? (r key) =
    m.entries.lookup key
  induction m.entries with
  | nil => rfl
  | cons e rest ih =>
    rw [List.foldr_cons, get?_insert, ih, lookup_entry]
    simp only [hr.eq_iff]

theorem get?_mapKeys_of_notMem {r : String → String} (m : TokenMap β) {key : String}
    (h : key ∉ Set.range r) : (m.mapKeys r).get? key = none := by
  unfold mapKeys
  induction m.entries with
  | nil => rfl
  | cons e rest ih => rw [List.foldr_cons, get?_insert, if_neg fun heq => h ⟨e.1, heq.symm⟩, ih]

/-- Inserting under a new name. -/
theorem insert_mapKeys {r : String → String} (hr : Function.Injective r) (m : TokenMap β)
    (key : String) (value : β) :
    (m.mapKeys r).insert (r key) value = (m.insert key value).mapKeys r := by
  refine ext_get? fun key' => ?_
  by_cases hkey : key' ∈ Set.range r
  · obtain ⟨old, rfl⟩ := hkey
    rw [get?_insert, get?_mapKeys hr, get?_mapKeys hr, get?_insert]
    simp only [hr.eq_iff]
  · have hne : key' ≠ r key := fun heq => hkey ⟨key, heq.symm⟩
    rw [get?_insert, if_neg hne, get?_mapKeys_of_notMem m hkey, get?_mapKeys_of_notMem _ hkey]

end TokenMap

/-- The set with every member replaced. -/
def TokenSet.map (r : String → String) (s : TokenSet) : TokenSet :=
  ⟨s.members.mapKeys r⟩

/-! ## Bindings -/

namespace Bindings

/-- The bindings with every captured form replaced. -/
def mapForms (g : Form → Form) (b : Bindings) : Bindings :=
  { b with captures := b.captures.mapValues (List.map g) }

section MapForms

variable (g : Form → Form) (b : Bindings) (var : String)

@[simp]
theorem get?_mapForms : (b.mapForms g).get? var = (b.get? var).map (List.map g) :=
  TokenMap.get?_mapValues (List.map g) b.captures var

@[simp]
theorem contains_mapForms : (b.mapForms g).contains var = b.contains var := by
  rw [contains_eq_isSome, get?_mapForms, Option.isSome_map, contains_eq_isSome]

@[simp]
theorem captured_mapForms : (b.mapForms g).captured var = (b.captured var).map g := by
  rw [captured, get?_mapForms, captured]
  cases b.get? var <;> rfl

@[simp]
theorem isRepeated_mapForms : (b.mapForms g).isRepeated var = b.isRepeated var := rfl

end MapForms

/-- The bindings with every variable renamed. -/
def rename (r : String → String) (b : Bindings) : Bindings where
  captures := b.captures.mapKeys r
  repeated := b.repeated.map r

section Rename

variable {r : String → String}

theorem get?_rename (hr : Function.Injective r) (b : Bindings) (var : String) :
    (b.rename r).get? (r var) = b.get? var :=
  TokenMap.get?_mapKeys hr b.captures var

theorem isRepeated_rename (hr : Function.Injective r) (b : Bindings) (var : String) :
    (b.rename r).isRepeated (r var) = b.isRepeated var :=
  congrArg Option.isSome (TokenMap.get?_mapKeys hr b.repeated.members var)

end Rename

/-- The bindings `c` are those of `b` with the variables renamed, and with the tokens of the
    captured forms replaced. -/
structure Image (r : String → String) (σ : String → Form) (b c : Bindings) : Prop where
  get? : ∀ t, c.get? (r t) = (b.get? t).map (List.map (Form.subst σ))
  isRepeated : ∀ t, c.isRepeated (r t) = b.isRepeated t

theorem image_rename {r : String → String} (hr : Function.Injective r) (b : Bindings) :
    Image r .atom b (b.rename r) where
  get? t := by
    rw [get?_rename hr, Form.subst_self_fun, List.map_id_fun, Option.map_id_fun, id_eq]
  isRepeated t := isRepeated_rename hr b t

theorem image_mapForms (σ : String → Form) (b : Bindings) :
    Image id σ b (b.mapForms (Form.subst σ)) where
  get? t := get?_mapForms (Form.subst σ) b t
  isRepeated t := isRepeated_mapForms (Form.subst σ) b t

namespace Image

variable {r : String → String} {σ : String → Form} {b c : Bindings}

theorem contains (h : Image r σ b c) (t : String) : c.contains (r t) = b.contains t := by
  rw [contains_eq_isSome, h.get?, Option.isSome_map, contains_eq_isSome]

theorem captured (h : Image r σ b c) (t : String) :
    c.captured (r t) = (b.captured t).map (Form.subst σ) := by
  rw [Bindings.captured, h.get?, Bindings.captured]
  cases b.get? t <;> rfl

theorem length_captured (h : Image r σ b c) (t : String) :
    (c.captured (r t)).length = (b.captured t).length := by
  rw [h.captured, List.length_map]

/-- The bindings of a round are images too. -/
theorem narrow (h : Image r σ b c) (hr : Function.Injective r) (vars : List String) (round : Nat) :
    Image r σ (narrow b vars round) (narrow c (vars.map r) round) where
  get? t := by
    rw [get?_narrow, get?_narrow, h.captured, List.getElem?_map, h.get?]
    simp only [List.mem_map_of_injective hr]
    by_cases ht : t ∈ vars
    · simp only [if_pos ht]
      cases (b.captured t)[round]? <;> rfl
    · simp only [if_neg ht]
  isRepeated t := by rw [isRepeated_narrow, isRepeated_narrow, h.isRepeated]

end Image

end Bindings

/-! ## Settings and errors -/

/-- The settings with another marker. -/
def MatchSettings.rename (r : String → String) (s : MatchSettings) : MatchSettings :=
  { s with ellipsis := r s.ellipsis }

/-- The error with the tokens of the template replaced. -/
def ExpandError.rename (r : String → String) : ExpandError → ExpandError
  | .unboundEllipsis template => .unboundEllipsis (template.rename r)
  | .lengthMismatch template first firstCount other otherCount =>
    .lengthMismatch (template.rename r) (r first) firstCount (r other) otherCount
  | .emptyCapture var => .emptyCapture (r var)

@[simp]
theorem MatchSettings.rename_id (s : MatchSettings) : s.rename id = s := rfl

@[simp]
theorem ExpandError.rename_id (e : ExpandError) : e.rename id = e := by
  cases e <;> simp [rename]

/-! ## Repetition -/

section Repetition

variable {r : String → String} {σ : String → Form} {b c : Bindings}

/-- Keeping first occurrences, if different members stay different. -/
theorem eraseDups_map (hr : Function.Injective r) (l : List String) :
    (l.map r).eraseDups = l.eraseDups.map r := by
  -- on the length, since what follows the first member is filtered before it is searched
  induction h : l.length using Nat.strong_induction_on generalizing l with
  | _ n ih =>
    cases l with
    | nil => rfl
    | cons t l =>
      have hfilter : (l.map r).filter (fun u => !u == r t) =
          (l.filter fun u => !u == t).map r := by
        rw [List.filter_map]
        refine congrArg (List.map r) (List.filter_congr fun u _ => ?_)
        rw [Function.comp_apply, Bool.eq_iff_iff]
        simp [hr.eq_iff]
      have hshorter : (l.filter fun u => !u == t).length < n := by
        rw [← h, List.length_cons]
        exact Nat.lt_succ_of_le (List.length_filter_le _ l)
      rw [List.map_cons, List.eraseDups_cons, hfilter, ih _ hshorter _ rfl, List.eraseDups_cons,
        List.map_cons]

theorem boundVariables_image (hr : Function.Injective r) (h : b.Image r σ c) (item : Form) :
    boundVariables c (item.rename r) = (boundVariables b item).map r := by
  have hbound : c.contains ∘ r = b.contains := funext h.contains
  rw [boundVariables, Form.atoms_rename, List.filter_map, hbound, eraseDups_map hr, boundVariables]

theorem drivers_image (hr : Function.Injective r) (h : b.Image r σ c) (item : Form) :
    drivers c (item.rename r) = (drivers b item).map r := by
  have hmark : c.isRepeated ∘ r = b.isRepeated := funext h.isRepeated
  rw [drivers, boundVariables_image hr h, List.any_map, List.filter_map, hmark, drivers]
  split <;> rfl

theorem repetitions_image (hr : Function.Injective r) (h : b.Image r σ c) (item : Form) :
    repetitions c (item.rename r) =
      mapBoth id (ExpandError.rename r) (repetitions b item) := by
  unfold repetitions
  rw [drivers_image hr h]
  cases drivers b item with
  | nil => rfl
  | cons first others =>
    simp only [List.map_cons, List.find?_map, Function.comp_def, h.length_captured]
    cases others.find? fun var => (b.captured var).length != (b.captured first).length with
    | none => rfl
    | some other =>
      simp only [Option.map_some, h.length_captured]
      rfl

end Repetition

/-! ## Expansion -/

section Expansion

variable {r : String → String} {σ : String → Form} {s : MatchSettings}

theorem expandToken_image {b c : Bindings} (h : b.Image r σ c) {t : String}
    (hfree : b.contains t = false → σ t = .atom (r t)) :
    expandToken c (r t) = mapBoth (Form.subst σ) (ExpandError.rename r) (expandToken b t) := by
  rw [expandToken, expandToken, h.get?]
  cases hget : b.get? t with
  | none =>
    have hunbound : b.contains t = false := by rw [Bindings.contains_eq_isSome, hget]; rfl
    exact congrArg Except.ok (hfree hunbound).symm
  | some forms => cases forms <;> rfl

theorem expandForm_list_image_iff {s' : MatchSettings} {templates templates' : List Form}
    {b c : Bindings} :
    expandForm s' (.list templates') c =
        mapBoth (Form.subst σ) (ExpandError.rename r) (expandForm s (.list templates) b) ↔
      expandItems s' templates' c =
        mapBoth (List.map (Form.subst σ)) (ExpandError.rename r) (expandItems s templates b) := by
  rw [expandForm, expandForm]
  cases expandItems s templates b <;> cases expandItems s' templates' c <;> simp [Except.map]

/-- **Expansion of images.** The renamed template expands with the image of bindings to the image
    of its expansion, provided that the tokens it reads without their being bound are replaced as
    they are renamed. -/
theorem expandForm_image (hr : Function.Injective r) {template : Form} {b c : Bindings}
    (h : b.Image r σ c)
    (hfree : ∀ t ∈ template.readTokens s.ellipsis, b.contains t = false → σ t = .atom (r t)) :
    expandForm (s.rename r) (template.rename r) c =
      mapBoth (Form.subst σ) (ExpandError.rename r) (expandForm s template b) := by
  induction template using Form.markerInduction s.ellipsis generalizing b c with
  | atom t => exact expandToken_image h (hfree t (by simp))
  | nil => rw [Form.rename_list, List.map_nil, expandForm_nil, expandForm_nil]; rfl
  | repeated item rest ih ihRest =>
    rw [Form.readTokens_repeated] at hfree
    -- the drivers of both are the same up to their names, so the bindings of a round are images
    have hround : ∀ round,
        expandForm (s.rename r) (item.rename r) (narrow c ((drivers b item).map r) round) =
          mapBoth (Form.subst σ) (ExpandError.rename r)
            (expandForm s item (narrow b (drivers b item) round)) := by
      refine fun round => ih (h.narrow hr _ round) fun t ht hunbound => ?_
      rw [contains_narrow] at hunbound
      exact hfree t (List.mem_append_left _ ht) hunbound
    have hrest := ihRest h fun t ht => hfree t (List.mem_append_right _ ht)
    rw [Form.rename_list, expandForm_list_image_iff] at hrest ⊢
    rw [List.map_cons, List.map_cons, Form.rename_atom]
    -- the renamed marker is the marker of the renamed settings
    change expandItems (s.rename r) (_ :: .atom (s.rename r).ellipsis :: _) c = _
    rw [expandItems_repeated, expandItems_repeated, repetitions_image hr h, drivers_image hr h,
      hrest]
    refine bind_mapBoth fun n => ?_
    rw [id_eq, mapM_mapBoth fun round _ => hround round]
    refine bind_mapBoth fun group => ?_
    exact map_mapBoth fun forms => List.map_append.symm
  | single item rest hmarker ih ihRest =>
    rw [Form.readTokens_single hmarker] at hfree
    have hitem := ih h fun t ht => hfree t (List.mem_append_left _ ht)
    have hrest := ihRest h fun t ht => hfree t (List.mem_append_right _ ht)
    rw [Form.rename_list, expandForm_list_image_iff] at hrest ⊢
    rw [List.map_cons, expandItems_single (Form.head?_map_rename_ne hr hmarker),
      expandItems_single hmarker, hitem, hrest]
    refine bind_mapBoth fun form => ?_
    exact map_mapBoth fun forms => List.map_cons.symm

end Expansion

end MacroByExample
