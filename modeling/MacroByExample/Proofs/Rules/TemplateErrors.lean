import MacroByExample.Proofs.Rules.Expansion

/-!
# Errors of templates

An expansion that fails inside several repetitions does so with bindings in which the rounds of
these repetitions have narrowed some variables to one form each. What the error says is true of the
bindings of the match all the same. A repetition narrows all variables of its template that have one
mark, so that two variables which drive an inner repetition have been narrowed both or not at all.
And a marked variable without captures drives every repetition that it stands in, which then has no
rounds.

* `ExpandError.Arises`: the ways in which an expansion fails; `arises_of_expandForm`: there are no
  others.
* `Bindings.NarrowsTo`: what enclosing rounds make of bindings; `NarrowsTo.narrow`: a further round.
* `ExpandError.TrueOf`: what an error says of a template and the bindings of a match.
* `trueOf_of_expandForm`: what the error of an expansion says is true.
-/

namespace MacroByExample

variable {s : MatchSettings} {marker : String} {template item : Form} {rest : List Form}
  {b c : Bindings} {e : ExpandError}

/-! ## How an expansion fails -/

/-- The ways in which the expansion of a template with bindings fails with an error. -/
inductive ExpandError.Arises (marker : String) (e : ExpandError) : Form → Bindings → Prop where
  /-- A token is bound to no form. -/
  | token {var : String} {b : Bindings} (hget : b.get? var = some []) (he : e = .emptyCapture var) :
    Arises marker e (.atom var) b
  /-- A repeated item cannot be repeated. -/
  | part {item : Form} {rest : List Form} {b : Bindings} (h : repetitions b item = .error e) :
    Arises marker e (.list (item :: .atom marker :: rest)) b
  /-- A repeated item cannot be expanded in one of its rounds. -/
  | round {item : Form} {rest : List Form} {b : Bindings} {n i : Nat}
    (hn : repetitions b item = .ok n) (hi : i < n)
    (h : Arises marker e item (narrow b (drivers b item) i)) :
    Arises marker e (.list (item :: .atom marker :: rest)) b
  /-- The items behind a repeated item cannot be expanded. -/
  | behind {item : Form} {rest : List Form} {b : Bindings} (h : Arises marker e (.list rest) b) :
    Arises marker e (.list (item :: .atom marker :: rest)) b
  /-- A single item cannot be expanded. -/
  | single {item : Form} {rest : List Form} {b : Bindings}
    (hmarker : rest.head? ≠ some (.atom marker)) (h : Arises marker e item b) :
    Arises marker e (.list (item :: rest)) b
  /-- The items behind a single item cannot be expanded. -/
  | rest {item : Form} {rest : List Form} {b : Bindings}
    (hmarker : rest.head? ≠ some (.atom marker)) (h : Arises marker e (.list rest) b) :
    Arises marker e (.list (item :: rest)) b

theorem expandForm_list_eq_error_iff {templates : List Form} :
    expandForm s (.list templates) b = .error e ↔ expandItems s templates b = .error e := by
  rw [expandForm, map_eq_error_iff]

theorem expandToken_eq_error_iff {var : String} :
    expandToken b var = .error e ↔ b.get? var = some [] ∧ e = .emptyCapture var := by
  rw [expandToken]
  cases b.get? var with
  | none => simp
  | some forms => cases forms <;> simp [eq_comm]

/-- Every failing expansion fails in one of these ways. -/
theorem arises_of_expandForm (h : expandForm s template b = .error e) :
    e.Arises s.ellipsis template b := by
  induction template using Form.markerInduction s.ellipsis generalizing b with
  | atom t =>
    obtain ⟨hget, he⟩ := expandToken_eq_error_iff.mp h
    exact .token hget he
  | nil =>
    rw [expandForm_nil] at h
    cases h
  | repeated item rest ih ihRest =>
    rw [expandForm_list_eq_error_iff, expandItems_repeated] at h
    obtain hpart | ⟨n, hn, h⟩ := bind_eq_error_iff.mp h
    · exact .part hpart
    · obtain hround | ⟨group, -, h⟩ := bind_eq_error_iff.mp h
      · obtain ⟨i, hi, herror⟩ := exists_of_mapM_eq_error hround
        exact .round hn (List.mem_range.mp hi) (ih herror)
      · have hrest := map_eq_error_iff.mp h
        exact .behind (ihRest (expandForm_list_eq_error_iff.mpr hrest))
  | single item rest hmarker ih ihRest =>
    rw [expandForm_list_eq_error_iff, expandItems_single hmarker] at h
    obtain hitem | ⟨form, -, h⟩ := bind_eq_error_iff.mp h
    · exact .single hmarker (ih hitem)
    · have hrest := map_eq_error_iff.mp h
      exact .rest hmarker (ihRest (expandForm_list_eq_error_iff.mpr hrest))

/-! ## Narrowing -/

/-- The bindings `c` are what rounds of enclosing repetitions make of `b` for a template: they bind
    and mark the same, and of the bound tokens of the template with one mark, either all are
    narrowed to one form or none has changed. -/
structure Bindings.NarrowsTo (template : Form) (b c : Bindings) : Prop where
  contains : ∀ t, c.contains t = b.contains t
  isRepeated : ∀ t, c.isRepeated t = b.isRepeated t
  together : ∀ mark : Bool,
    (∀ t ∈ template.atoms, c.contains t = true → c.isRepeated t = mark →
      (c.captured t).length = 1) ∨
    ∀ t ∈ template.atoms, c.contains t = true → c.isRepeated t = mark → c.captured t = b.captured t

namespace Bindings.NarrowsTo

theorem refl (template : Form) (b : Bindings) : b.NarrowsTo template b where
  contains _ := rfl
  isRepeated _ := rfl
  together _ := .inr fun _ _ _ _ => rfl

theorem of_subset (h : b.NarrowsTo template c) (hatoms : item.atoms ⊆ template.atoms) :
    b.NarrowsTo item c where
  contains := h.contains
  isRepeated := h.isRepeated
  together mark := (h.together mark).imp (fun h t ht => h t (hatoms ht))
    fun h t ht => h t (hatoms ht)

/-- A round of a repetition narrows all bound tokens with the mark of its drivers. -/
theorem narrow {n i : Nat} (h : b.NarrowsTo item c) (hn : repetitions c item = .ok n) (hi : i < n) :
    b.NarrowsTo item (MacroByExample.narrow c (drivers c item) i) where
  contains t := by rw [contains_narrow, h.contains]
  isRepeated t := by rw [isRepeated_narrow, h.isRepeated]
  together mark := by
    simp only [contains_narrow, isRepeated_narrow]
    by_cases hdriven : ∃ var ∈ drivers c item, c.isRepeated var = mark
    · obtain ⟨var, hvar, rfl⟩ := hdriven
      refine .inl fun t ht hbound hmark => ?_
      have hdriver := (mem_drivers_iff_of_mem hvar).mpr ⟨ht, hbound, hmark⟩
      refine length_captured_narrow_of_mem hdriver ?_
      rw [length_captured_of_repetitions hn hdriver]
      exact hi
    · have hkeeps : ∀ t, c.isRepeated t = mark →
          (MacroByExample.narrow c (drivers c item) i).captured t = c.captured t := by
        intro t hmark
        have hnot : t ∉ drivers c item := fun ht => hdriven ⟨t, ht, hmark⟩
        exact captured_congr (get?_narrow_of_notMem hnot)
      refine (h.together mark).imp (fun hone t ht hbound hmark => ?_)
        fun hsame t ht hbound hmark => ?_
      · rw [hkeeps t hmark]
        exact hone t ht hbound hmark
      · rw [hkeeps t hmark]
        exact hsame t ht hbound hmark

end Bindings.NarrowsTo

/-! ## What an error says -/

/-- What an error says of the template that was expanded and of the bindings of the match. A part
    without a bound variable is followed by the marker. Two variables of a part that is followed by
    the marker captured the reported numbers of forms, and these differ. A variable without captures
    is marked, and has an occurrence that no repeated part encloses. -/
def ExpandError.TrueOf (marker : String) (template : Form) (b : Bindings) : ExpandError → Prop
  | .unboundEllipsis part =>
    part ∈ template.repeatedParts marker ∧ ∀ t ∈ part.atoms, b.contains t = false
  | .lengthMismatch part first firstCount other otherCount =>
    part ∈ template.repeatedParts marker ∧ first ∈ part.atoms ∧ other ∈ part.atoms ∧
      first ≠ other ∧
      (∃ forms, b.get? first = some forms ∧ forms.length = firstCount) ∧
      (∃ forms, b.get? other = some forms ∧ forms.length = otherCount) ∧
      firstCount ≠ otherCount
  | .emptyCapture var =>
    var ∈ template.looseTokens marker ∧ b.isRepeated var = true ∧ b.get? var = some []

/-! ## Parts that cannot be repeated -/

/-- Apart from variables without captures, an expansion fails at a repeated part, with bindings that
    enclosing rounds may have narrowed. -/
theorem ExpandError.Arises.exists_part (h : e.Arises marker template c)
    (hb : b.NarrowsTo template c) :
    (∃ var, e = .emptyCapture var) ∨
      ∃ part ∈ template.repeatedParts marker, ∃ d,
        b.NarrowsTo part d ∧ repetitions d part = .error e := by
  induction h with
  | @token var c _ he => exact .inl ⟨var, he⟩
  | @part item rest c h =>
    refine .inr ⟨item, ?_, c, hb.of_subset (Form.atoms_subset_of_mem List.mem_cons_self), h⟩
    rw [Form.repeatedParts_repeated]
    exact List.mem_cons_self
  | @round item rest c n i hn hi _ ih =>
    have hitem : b.NarrowsTo item c := hb.of_subset (Form.atoms_subset_of_mem List.mem_cons_self)
    refine (ih (hitem.narrow hn hi)).imp_right ?_
    rintro ⟨part, hpart, found⟩
    refine ⟨part, ?_, found⟩
    rw [Form.repeatedParts_repeated]
    exact List.mem_cons_of_mem _ (List.mem_append_left _ hpart)
  | @behind item rest c _ ih =>
    refine (ih (hb.of_subset (Form.atoms_subset_repeated marker item rest))).imp_right ?_
    rintro ⟨part, hpart, found⟩
    refine ⟨part, ?_, found⟩
    rw [Form.repeatedParts_repeated]
    exact List.mem_cons_of_mem _ (List.mem_append_right _ hpart)
  | @single item rest c hmarker _ ih =>
    refine (ih (hb.of_subset (Form.atoms_subset_of_mem List.mem_cons_self))).imp_right ?_
    rintro ⟨part, hpart, found⟩
    refine ⟨part, ?_, found⟩
    rw [Form.repeatedParts_single hmarker]
    exact List.mem_append_left _ hpart
  | @rest item rest c hmarker _ ih =>
    refine (ih (hb.of_subset (Form.atoms_subset_of_subset (List.subset_cons_self _ _)))).imp_right ?_
    rintro ⟨part, hpart, found⟩
    refine ⟨part, ?_, found⟩
    rw [Form.repeatedParts_single hmarker]
    exact List.mem_append_right _ hpart

/-- What a repetition under enclosing rounds reports is true of the bindings of the match. -/
theorem Bindings.NarrowsTo.trueOf_of_repetitions {part : Form} (h : b.NarrowsTo part c)
    (hpart : part ∈ template.repeatedParts marker) (herror : repetitions c part = .error e) :
    e.TrueOf marker template b := by
  obtain ⟨hnone, rfl⟩ | ⟨first, hfirst, other, hother, hne, rfl⟩ := repetitions_eq_error herror
  · refine ⟨hpart, fun t ht => ?_⟩
    rw [← h.contains, ← Bool.not_eq_true]
    exact fun hbound => drivers_ne_nil ht hbound hnone
  · obtain ⟨hfirstAtom, hfirstBound, -⟩ := mem_drivers.mp hfirst
    obtain ⟨hotherAtom, hotherBound, hmark⟩ := (mem_drivers_iff_of_mem hfirst).mp hother
    -- both have been narrowed, which the different numbers exclude, or neither has
    obtain hone | hsame := h.together (c.isRepeated first)
    · have hfirstOne := hone first hfirstAtom hfirstBound rfl
      have hotherOne := hone other hotherAtom hotherBound hmark
      omega
    · have hfirstSame := hsame first hfirstAtom hfirstBound rfl
      have hotherSame := hsame other hotherAtom hotherBound hmark
      rw [h.contains] at hfirstBound hotherBound
      refine ⟨hpart, hfirstAtom, hotherAtom, ?_, ⟨c.captured first, ?_, rfl⟩,
        ⟨c.captured other, ?_, rfl⟩, hne⟩
      · rintro rfl
        exact hne rfl
      · rw [get?_eq_ite, if_pos hfirstBound, hfirstSame]
      · rw [get?_eq_ite, if_pos hotherBound, hotherSame]

/-! ## Variables without captures -/

/-- A round leaves no token without a form that had one before. -/
theorem get?_eq_nil_of_narrow {vars : List String} {i : Nat} {var : String}
    (h : (narrow b vars i).get? var = some []) : b.get? var = some [] := by
  rw [get?_narrow] at h
  split at h
  · cases h
  · exact h

/-- A marked token without captures is missed outside every repeated part only: inside one, it
    drives the repetition, which has no rounds. -/
theorem ExpandError.Arises.emptyCapture {var : String}
    (h : (ExpandError.emptyCapture var).Arises marker template c)
    (hmark : c.get? var = some [] → c.isRepeated var = true) :
    var ∈ template.looseTokens marker ∧ c.get? var = some [] := by
  induction h with
  | token hget he =>
    cases he
    exact ⟨List.mem_singleton_self _, hget⟩
  | part h => obtain ⟨-, he⟩ | ⟨_, _, _, _, _, he⟩ := repetitions_eq_error h <;> cases he
  | @round item rest c n i hn hi _ ih =>
    obtain ⟨hloose, hnarrow⟩ := ih fun hget => by
      rw [isRepeated_narrow]
      exact hmark (get?_eq_nil_of_narrow hget)
    have hget := get?_eq_nil_of_narrow hnarrow
    have hatom : var ∈ item.atoms :=
      Form.readTokens_subset_atoms item (Form.looseTokens_subset_readTokens item hloose)
    have hbound : c.contains var = true := by rw [Bindings.contains_eq_isSome, hget]; rfl
    have hdriver : var ∈ drivers c item := mem_drivers.mpr ⟨hatom, hbound, fun _ => hmark hget⟩
    have hcount := length_captured_of_repetitions hn hdriver
    rw [Bindings.captured_of_get? hget, List.length_nil] at hcount
    omega
  | behind _ ih =>
    rw [Form.looseTokens_repeated]
    exact ih hmark
  | single hmarker _ ih =>
    obtain ⟨hloose, hget⟩ := ih hmark
    rw [Form.looseTokens_single hmarker]
    exact ⟨List.mem_append_left _ hloose, hget⟩
  | rest hmarker _ ih =>
    obtain ⟨hloose, hget⟩ := ih hmark
    rw [Form.looseTokens_single hmarker]
    exact ⟨List.mem_append_right _ hloose, hget⟩

/-! ## Truth -/

/-- **Errors of templates are truthful.** If a pattern matches a form, and a template cannot be
expanded with the bindings of the match, then what the error says is true of these bindings, at
whatever depth of repetition it came up. A part that is reported without a bound variable is followed
by the marker, and none of its tokens is bound. Two variables that are reported with different
numbers of forms occur in the reported part, which is followed by the marker, and the match captured
these numbers of forms. A variable that is reported without captures is repeated, has no captures,
and occurs outside every repeated part. -/
theorem trueOf_of_expandForm {literals : TokenSet} {s s' : MatchSettings}
    {pattern form template : Form} {b : Bindings} {e : ExpandError}
    (matched : matchRule literals s pattern form = .ok b)
    (h : expandForm s' template b = .error e) : e.TrueOf s'.ellipsis template b := by
  have harises := arises_of_expandForm h
  obtain ⟨var, rfl⟩ | ⟨part, hpart, c, hc, herror⟩ := harises.exists_part (.refl template b)
  · have hmark : b.get? var = some [] → b.isRepeated var = true :=
      isRepeated_of_get?_nil (matchWhole_of_matchRule matched)
    obtain ⟨hloose, hget⟩ := harises.emptyCapture hmark
    exact ⟨hloose, hmark hget, hget⟩
  · exact hc.trueOf_of_repetitions hpart herror

/-- A match of the pattern `(m x x y (n ...) k ...)`, without its keyword, in which `x` captures two
forms, `y` one and `k` none. In each of three templates the error comes up behind or inside a
repetition of `n`. -/
theorem trueOf_of_expandForm_nested :
    let s : MatchSettings := { ignoreKeyword := true }
    let pattern : Form := .list [.atom "m", .atom "x", .atom "x", .atom "y",
      .list [.atom "n", .atom "..."], .atom "k", .atom "..."]
    let form : Form := .list [.atom "f", .atom "1", .atom "2", .atom "3", .list [.atom "a"]]
    let free : Form := .list [.list [.atom "n", .list [.atom "z"], .atom "..."], .atom "..."]
    let uneven : Form :=
      .list [.list [.atom "n", .list [.atom "x", .atom "y"], .atom "..."], .atom "..."]
    let missing : Form := .list [.atom "n", .atom "...", .list [.atom "k"]]
    ∃ b, matchRule .empty s pattern form = .ok b ∧
      (expandForm s free b = .error (.unboundEllipsis (.list [.atom "z"])) ∧
        (ExpandError.unboundEllipsis (.list [.atom "z"])).TrueOf s.ellipsis free b) ∧
      (expandForm s uneven b =
          .error (.lengthMismatch (.list [.atom "x", .atom "y"]) "x" 2 "y" 1) ∧
        (ExpandError.lengthMismatch (.list [.atom "x", .atom "y"]) "x" 2 "y" 1).TrueOf
          s.ellipsis uneven b) ∧
      (expandForm s missing b = .error (.emptyCapture "k") ∧
        (ExpandError.emptyCapture "k").TrueOf s.ellipsis missing b) := by
  intro s pattern form free uneven missing
  obtain ⟨b, matched, hfree, huneven, hmissing⟩ : ∃ b, matchRule .empty s pattern form = .ok b ∧
      expandForm s free b = .error (.unboundEllipsis (.list [.atom "z"])) ∧
      expandForm s uneven b =
        .error (.lengthMismatch (.list [.atom "x", .atom "y"]) "x" 2 "y" 1) ∧
      expandForm s missing b = .error (.emptyCapture "k") :=
    ⟨_, rfl, by decide +kernel, by decide +kernel, by decide +kernel⟩
  exact ⟨b, matched, ⟨hfree, trueOf_of_expandForm matched hfree⟩,
    ⟨huneven, trueOf_of_expandForm matched huneven⟩,
    hmissing, trueOf_of_expandForm matched hmissing⟩

end MacroByExample
