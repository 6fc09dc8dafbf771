import MacroByExample.Proofs.Rules.Extension
import MacroByExample.Proofs.Rules.Loading

/-!
# Repetitions inside of repetitions

The check on patterns and the matcher find repeated parts in two ways. The check looks at every item
of a list that has a marker right behind it. The matcher cuts a list from the left, and a marker
that has repeated an item is used up: it is no item itself. The two differ only where two markers
stand side by side, which the check refuses. So in a pattern that passes it, the matcher never
enters a repetition while it is inside of another one.

To say so, a match is traced: the trace has an entry for every repetition that the match enters,
with the number of repetitions that it is inside of.

* `Form.MarkersApart`, `unnested_iff`: items with a marker behind them against repeated parts.
* `Traced`, `traceForm`, `traceRule`: matches that note the repetitions they enter.
* `outcome_traceForm`, `outcome_traceRule`: to trace a match does not change it.
* `Traced.Enters`, `enters_traceForm`: the repetitions that a match enters, as far as it comes.
* `checkPattern_agrees_with_cut`: the patterns that pass the check, and their matches.
-/

namespace MacroByExample

/-! ## The two ways to cut -/

namespace Form

/-- No list of the form, at any depth, has two markers side by side. -/
def MarkersApart (marker : String) (f : Form) : Prop :=
  ∀ items, f.HasPart (.list items) → ¬ [.atom marker, .atom marker] <:+: items

variable {marker : String}

/-- An item with a marker right behind it is repeated, unless it is a marker. -/
theorem eq_or_mem_repeatedParts {f : Form} {items : List Form} (h : f.HasPart (.list items))
    {item : Form} (hitem : [item, .atom marker] <:+: items) :
    item = .atom marker ∨ item ∈ f.repeatedParts marker := by
  induction f using markerInduction marker generalizing items with
  | atom t => cases h
  | nil =>
    cases h with
    | self => simp at hitem
    | item mem _ => cases mem
  | repeated first rest ih ihRest =>
    rw [repeatedParts_repeated, List.mem_cons, List.mem_append]
    cases h with
    | self =>
      obtain hfirst | hbehind := List.infix_cons_iff.mp hitem
      · exact .inr (.inl (List.cons_prefix_cons.mp hfirst).1)
      · obtain hmarker | hrest := List.infix_cons_iff.mp hbehind
        · exact .inl (List.cons_prefix_cons.mp hmarker).1
        · exact (ihRest (.self _) hrest).imp_right fun hmem => .inr (.inr hmem)
    | item mem part =>
      obtain rfl | hbehind := List.mem_cons.mp mem
      · exact (ih part hitem).imp_right fun hmem => .inr (.inl hmem)
      · obtain rfl | hrest := List.mem_cons.mp hbehind
        · cases part
        · exact (ihRest (.item hrest part) hitem).imp_right fun hmem => .inr (.inr hmem)
  | single first rest hmarker ih ihRest =>
    rw [repeatedParts_single hmarker, List.mem_append]
    cases h with
    | self =>
      obtain hfirst | hrest := List.infix_cons_iff.mp hitem
      · obtain ⟨tail, rfl⟩ := (List.cons_prefix_cons.mp hfirst).2
        exact absurd rfl hmarker
      · exact (ihRest (.self _) hrest).imp_right .inr
    | item mem part =>
      obtain rfl | hrest := List.mem_cons.mp mem
      · exact (ih part hitem).imp_right .inl
      · exact (ihRest (.item hrest part) hitem).imp_right .inr

/-- No item with a marker right behind it contains the marker, exactly when no two markers stand
    side by side and no repeated part contains the marker. -/
theorem unnested_iff {s : MatchSettings} {p : Form} :
    p.Unnested s.ellipsis ↔ p.MarkersApart s.ellipsis ∧ p.OneLevel s.ellipsis := by
  constructor
  · intro h
    refine ⟨fun items hpart hadjacent => ?_, ?_⟩
    · exact h items hpart (.atom s.ellipsis) hadjacent (List.mem_singleton_self _)
    · exact oneLevel_of_checkPattern (checkPattern_eq_ok_iff_unnested.mpr h)
  · rintro ⟨hapart, hlevel⟩ items hpart item hitem
    obtain rfl | hrepeated := eq_or_mem_repeatedParts hpart hitem
    · exact absurd hitem (hapart items hpart)
    · exact hlevel item hrepeated

end Form

/-! ## Traces -/

/-- A repetition that a match enters. -/
structure Repetition where
  /-- The number of repetitions that it is inside of. -/
  depth : Nat
  /-- The pattern that is repeated. -/
  pattern : Form
deriving DecidableEq

/-- The outcome of a match, and the repetitions it entered, first to last. -/
structure Traced (α : Type) where
  entered : List Repetition
  outcome : Except MatchError α

namespace Traced

variable {α β : Type}

/-- A step that enters no repetition. -/
def ofExcept (x : Except MatchError α) : Traced α := ⟨[], x⟩

/-- The step that enters a repetition. -/
def enter (r : Repetition) : Traced Unit := ⟨[r], .ok ()⟩

instance : Monad Traced where
  pure a := ofExcept (.ok a)
  bind x next :=
    match x.outcome with
    | .ok a => ⟨x.entered ++ (next a).entered, (next a).outcome⟩
    | .error e => ⟨x.entered, .error e⟩

theorem bind_of_ok {x : Traced α} {a : α} (h : x.outcome = .ok a) (next : α → Traced β) :
    x >>= next = ⟨x.entered ++ (next a).entered, (next a).outcome⟩ := by
  simp only [bind, h]

theorem bind_of_error {x : Traced α} {e : MatchError} (h : x.outcome = .error e)
    (next : α → Traced β) : x >>= next = ⟨x.entered, .error e⟩ := by
  simp only [bind, h]

theorem outcome_bind (x : Traced α) (next : α → Traced β) :
    (x >>= next).outcome = x.outcome.bind fun a => (next a).outcome := by
  cases h : x.outcome with
  | ok a => rw [bind_of_ok h]; rfl
  | error e => rw [bind_of_error h]; rfl

theorem outcome_foldlM (step : β → α → Traced β) (l : List α) (b : β) :
    (l.foldlM step b).outcome = l.foldlM (fun b a => (step b a).outcome) b := by
  induction l generalizing b with
  | nil => rfl
  | cons a l ih =>
    rw [List.foldlM_cons, List.foldlM_cons, outcome_bind]
    exact congrArg ((step b a).outcome.bind ·) (funext ih)

/-- The match enters the given repetitions in order, as far as it comes; one that succeeds enters
    all of them. -/
structure Enters (x : Traced α) (l : List Repetition) : Prop where
  isPrefix : x.entered <+: l
  complete : ∀ a, x.outcome = .ok a → x.entered = l

theorem enters_ofExcept (x : Except MatchError α) : (ofExcept x).Enters [] :=
  ⟨List.nil_prefix, fun _ _ => rfl⟩

theorem enters_of_error (e : MatchError) (l : List Repetition) :
    (ofExcept (.error e) : Traced α).Enters l :=
  ⟨List.nil_prefix, nofun⟩

theorem enters_enter (r : Repetition) : (enter r).Enters [r] :=
  ⟨List.prefix_refl _, fun _ _ => rfl⟩

theorem Enters.bind {x : Traced α} {next : α → Traced β} {l l' : List Repetition} (h : x.Enters l)
    (hnext : ∀ a, (next a).Enters l') : (x >>= next).Enters (l ++ l') := by
  cases hx : x.outcome with
  | ok a =>
    rw [bind_of_ok hx, h.complete a hx]
    exact ⟨(List.prefix_append_right_inj l).mpr (hnext a).isPrefix,
      fun b hb => congrArg (l ++ ·) ((hnext a).complete b hb)⟩
  | error e =>
    rw [bind_of_error hx]
    exact ⟨h.isPrefix.trans (List.prefix_append l l'), nofun⟩

theorem enters_foldlM {step : β → α → Traced β} (h : ∀ b a, (step b a).Enters []) (l : List α)
    (b : β) : (l.foldlM step b).Enters [] := by
  induction l generalizing b with
  | nil => exact enters_ofExcept (.ok b)
  | cons a l ih =>
    rw [List.foldlM_cons]
    exact (h b a).bind ih

end Traced

/-! ## Traced matches -/

section Trace

variable (literals : TokenSet) (s : MatchSettings)

mutual

/-- A match of a pattern that is inside of `depth` repetitions. -/
def traceForm : (depth : Nat) → (pattern form : Form) → Bindings → Traced Bindings
  | depth, .list patterns, .list forms, b => traceItems depth patterns forms b
  | _, .list patterns, .atom token, b =>
    .ofExcept (matchForm literals s (.list patterns) (.atom token) b)
  | _, .atom token, form, b => .ofExcept (matchToken literals token form b)

/-- A match of the items of a list pattern that is inside of `depth` repetitions. -/
def traceItems : (depth : Nat) → (patterns forms : List Form) → Bindings → Traced Bindings
  | _, [], forms, b => .ofExcept (matchItems literals s [] forms b)
  | _, [pattern], [], b => .ofExcept (matchItems literals s [pattern] [] b)
  | depth, [pattern], form :: forms, b => do
    let b ← traceForm depth pattern form b
    traceItems depth [] forms b
  | depth, pattern :: next :: rest, forms, b =>
    if s.isEllipsis next then do
      .enter ⟨depth, pattern⟩
      let b ← forms.foldlM (fun b form => traceForm (depth + 1) pattern form b)
        (declareVariables literals s pattern b)
      traceItems depth rest [] b
    else
      match forms with
      | [] => .ofExcept (matchItems literals s (pattern :: next :: rest) [] b)
      | form :: forms => do
        let b ← traceForm depth pattern form b
        traceItems depth (next :: rest) forms b

end

/-- A match of a rule's pattern, which is inside of no repetition. -/
def traceRule (pattern form : Form) : Traced Bindings :=
  if s.ignoreKeyword then
    match pattern, form with
    | .list (_ :: patterns), .list (_ :: forms) => traceItems literals s 0 patterns forms .empty
    | _, _ => .ofExcept (.error (.shape .keywordPosition pattern form))
  else traceForm literals s 0 pattern form .empty

variable {s}

theorem traceItems_repeated (depth : Nat) (item : Form) (rest forms : List Form) (b : Bindings) :
    traceItems literals s depth (item :: .atom s.ellipsis :: rest) forms b =
      (do
        .enter ⟨depth, item⟩
        let b ← forms.foldlM (fun b form => traceForm literals s (depth + 1) item form b)
          (declareVariables literals s item b)
        traceItems literals s depth rest [] b) := by
  rw [traceItems.eq_def]
  simp only [MatchSettings.isEllipsis_atom, beq_self_eq_true, ite_true]

variable {item : Form} {rest : List Form}

theorem traceItems_single (hmarker : rest.head? ≠ some (.atom s.ellipsis)) (depth : Nat)
    (form : Form) (forms : List Form) (b : Bindings) :
    traceItems literals s depth (item :: rest) (form :: forms) b =
      (do
        let b ← traceForm literals s depth item form b
        traceItems literals s depth rest forms b) := by
  cases rest with
  | nil => rw [traceItems.eq_def]
  | cons next rest =>
    rw [traceItems.eq_def]
    simp only [s.isEllipsis_eq_false hmarker, Bool.false_eq_true, ite_false]

theorem traceItems_single_nil (hmarker : rest.head? ≠ some (.atom s.ellipsis)) (depth : Nat)
    (b : Bindings) :
    traceItems literals s depth (item :: rest) [] b =
      .ofExcept (matchItems literals s (item :: rest) [] b) := by
  cases rest with
  | nil => rw [traceItems.eq_def]
  | cons next rest =>
    rw [traceItems.eq_def]
    simp only [s.isEllipsis_eq_false hmarker, Bool.false_eq_true, ite_false]

/-! ## To trace a match does not change it -/

theorem outcome_traceForm (depth : Nat) (pattern form : Form) (b : Bindings) :
    (traceForm literals s depth pattern form b).outcome = matchForm literals s pattern form b := by
  induction pattern using Form.markerInduction s.ellipsis generalizing depth form b with
  | atom t => rfl
  | nil => cases form <;> rfl
  | repeated item rest ih ihRest =>
    cases form with
    | atom t => rfl
    | list forms =>
      rw [traceForm, traceItems_repeated, matchForm, matchItems_repeated, Traced.outcome_bind,
        Traced.outcome_bind, Traced.outcome_foldlM]
      simp only [ih]
      exact congrArg (Except.bind _) (funext fun c => ihRest depth (.list []) c)
  | single item rest hmarker ih ihRest =>
    cases form with
    | atom t => rfl
    | list forms =>
      cases forms with
      | nil => rw [traceForm, traceItems_single_nil literals hmarker, matchForm]; rfl
      | cons form forms =>
        rw [traceForm, traceItems_single literals hmarker, matchForm,
          matchItems_single literals hmarker, Traced.outcome_bind, ih]
        exact congrArg (Except.bind _) (funext fun c => ihRest depth (.list forms) c)

theorem outcome_traceRule (pattern form : Form) :
    (traceRule literals s pattern form).outcome = matchRule literals s pattern form := by
  unfold traceRule matchRule
  by_cases hkeyword : s.ignoreKeyword = true
  · rw [if_pos hkeyword, if_pos hkeyword]
    match pattern, form with
    | .list (_ :: patterns), .list (_ :: forms) =>
      exact outcome_traceForm literals 0 (.list patterns) (.list forms) .empty
    | .atom _, _ => rfl
    | .list [], _ => rfl
    | .list (_ :: _), .atom _ => rfl
    | .list (_ :: _), .list [] => rfl
  · rw [if_neg hkeyword, if_neg hkeyword]
    exact outcome_traceForm literals 0 pattern form .empty

/-! ## What a match enters -/

/-- A pattern that repeats on one level enters its repeated parts from left to right, each of them
    inside of as many repetitions as the pattern itself. -/
theorem enters_traceForm {pattern : Form} (h : pattern.OneLevel s.ellipsis) (depth : Nat)
    (form : Form) (b : Bindings) :
    (traceForm literals s depth pattern form b).Enters
      ((pattern.repeatedParts s.ellipsis).map (Repetition.mk depth)) := by
  induction pattern using Form.markerInduction s.ellipsis generalizing depth form b with
  | atom t => exact Traced.enters_ofExcept _
  | nil => cases form <;> exact Traced.enters_ofExcept _
  | repeated item rest ih ihRest =>
    obtain ⟨hfree, hrest⟩ := Form.oneLevel_repeated.mp h
    cases form with
    | atom t =>
      rw [traceForm, matchForm]
      exact Traced.enters_of_error _ _
    | list forms =>
      rw [traceForm, traceItems_repeated, Form.repeatedParts_repeated,
        Form.repeatedParts_eq_nil hfree, List.nil_append, List.map_cons]
      -- the rounds are inside of the repetition, but a part without the marker enters none
      have hround : ∀ b form, (traceForm literals s (depth + 1) item form b).Enters [] := by
        intro b form
        simpa [Form.repeatedParts_eq_nil hfree] using
          ih (Form.OneLevel.of_notMem hfree) (depth + 1) form b
      exact (Traced.enters_enter _).bind fun _ =>
        (Traced.enters_foldlM hround forms _).bind fun c => ihRest hrest depth (.list []) c
  | single item rest hmarker ih ihRest =>
    obtain ⟨hitem, hrest⟩ := (Form.oneLevel_single hmarker).mp h
    cases form with
    | atom t =>
      rw [traceForm, matchForm]
      exact Traced.enters_of_error _ _
    | list forms =>
      cases forms with
      | nil =>
        rw [traceForm, traceItems_single_nil literals hmarker,
          matchItems_single_nil literals hmarker]
        exact Traced.enters_of_error _ _
      | cons form forms =>
        rw [traceForm, traceItems_single literals hmarker, Form.repeatedParts_single hmarker,
          List.map_append]
        exact (ih hitem depth form b).bind fun c => ihRest hrest depth (.list forms) c

/-- A rule's pattern that passes the check enters the repeated parts of what is matched of it, which
    is all of it or what is behind the keyword, and no repetition inside of another. -/
theorem enters_traceRule {pattern : Form} (accepted : checkPattern s pattern = .ok ())
    (form : Form) :
    (traceRule literals s pattern form).Enters
      (((s.matchedPart pattern).repeatedParts s.ellipsis).map (Repetition.mk 0)) := by
  have hlevel := oneLevel_matchedPart accepted
  unfold MatchSettings.matchedPart at hlevel ⊢
  unfold traceRule
  by_cases hkeyword : s.ignoreKeyword = true
  · rw [if_pos hkeyword] at hlevel ⊢
    rw [if_pos hkeyword]
    split
    · next patterns _ forms => exact enters_traceForm literals hlevel 0 (.list forms) .empty
    · exact Traced.enters_of_error _ _
  · rw [if_neg hkeyword] at hlevel ⊢
    rw [if_neg hkeyword]
    exact enters_traceForm literals hlevel 0 form .empty

/-! ## What the check is for -/

/-- **The check and the matcher cut patterns alike.** A pattern passes the check exactly when no
list of it has two markers side by side and no part that the matcher repeats contains the marker.
Whatever the form, a match of such a pattern never enters a repetition inside of another one, also
if the keyword is left out. It enters the repeated parts of what is matched, from left to right, as
far as it comes; if it succeeds, it has entered all of them, each once. -/
theorem checkPattern_agrees_with_cut (s : MatchSettings) (p : Form) :
    (checkPattern s p = .ok () ↔ p.MarkersApart s.ellipsis ∧ p.OneLevel s.ellipsis) ∧
    ∀ (literals : TokenSet) (form : Form),
      (traceRule literals s p form).outcome = matchRule literals s p form ∧
      (checkPattern s p = .ok () →
        (∀ r ∈ (traceRule literals s p form).entered, r.depth = 0) ∧
        (traceRule literals s p form).entered.map Repetition.pattern <+:
          (s.matchedPart p).repeatedParts s.ellipsis ∧
        ∀ b, matchRule literals s p form = .ok b →
          (traceRule literals s p form).entered.map Repetition.pattern =
            (s.matchedPart p).repeatedParts s.ellipsis) := by
  refine ⟨checkPattern_eq_ok_iff_unnested.trans Form.unnested_iff, fun literals form =>
    ⟨outcome_traceRule literals p form, fun accepted => ?_⟩⟩
  have henters := enters_traceRule literals accepted form
  have hpatterns : (((s.matchedPart p).repeatedParts s.ellipsis).map (Repetition.mk 0)).map
      Repetition.pattern = (s.matchedPart p).repeatedParts s.ellipsis := by
    rw [List.map_map]
    exact List.map_id _
  refine ⟨fun r hr => ?_, ?_, fun b hb => ?_⟩
  · obtain ⟨part, -, rfl⟩ := List.mem_map.mp (henters.isPrefix.subset hr)
    rfl
  · rw [← hpatterns]
    exact henters.isPrefix.map _
  · rw [← outcome_traceRule] at hb
    rw [henters.complete b hb, hpatterns]

/-- The pattern `(_ ... name ((value =>) ...) (k v) ...)`. Without its keyword, the first marker is
a variable. One form matches; another fails in the second round of the first repetition, before the
other repetition is reached. -/
theorem checkPattern_agrees_with_cut_keyword :
    let literals : TokenSet := .ofList ["=>"]
    let s : MatchSettings := { ignoreKeyword := true }
    let arrow : Form := .list [.atom "value", .atom "=>"]
    let pair : Form := .list [.atom "k", .atom "v"]
    let p : Form := .list [.atom "_", .atom "...", .atom "name", .list [arrow, .atom "..."], pair,
      .atom "..."]
    let matching : Form := .list [.atom "m", .atom "1", .atom "2",
      .list [.list [.atom "a", .atom "=>"], .list [.atom "b", .atom "=>"]],
      .list [.atom "c", .atom "d"], .list [.atom "e", .atom "f"]]
    let failing : Form := .list [.atom "m", .atom "1", .atom "2",
      .list [.list [.atom "a", .atom "=>"], .list [.atom "b", .atom "->"]],
      .list [.atom "c", .atom "d"]]
    checkPattern s p = .ok () ∧ p.MarkersApart s.ellipsis ∧ p.OneLevel s.ellipsis ∧
      (s.matchedPart p).repeatedParts s.ellipsis = [arrow, pair] ∧
      (traceRule literals s p matching).entered.map Repetition.pattern = [arrow, pair] ∧
      (∀ r ∈ (traceRule literals s p matching).entered, r.depth = 0) ∧
      matchRule literals s p failing = .error (.literal "=>" (.atom "->")) ∧
      (traceRule literals s p failing).outcome = .error (.literal "=>" (.atom "->")) ∧
      (traceRule literals s p failing).entered = [⟨0, arrow⟩] ∧
      (traceRule literals s p failing).entered.map Repetition.pattern <+: [arrow, pair] := by
  intro literals s arrow pair p matching failing
  have accepted : checkPattern s p = .ok () := by decide +kernel
  have hparts : (s.matchedPart p).repeatedParts s.ellipsis = [arrow, pair] := by decide +kernel
  have hfails : matchRule literals s p failing = .error (.literal "=>" (.atom "->")) := by
    decide +kernel
  have hentered : (traceRule literals s p failing).entered = [⟨0, arrow⟩] := by decide +kernel
  obtain ⟨b, hmatches⟩ : ∃ b, matchRule literals s p matching = .ok b := ⟨_, rfl⟩
  obtain ⟨hcheck, htrace⟩ := checkPattern_agrees_with_cut s p
  obtain ⟨hapart, hlevel⟩ := hcheck.mp accepted
  obtain ⟨-, hmatching⟩ := htrace literals matching
  obtain ⟨houtcome, hfailing⟩ := htrace literals failing
  obtain ⟨hdepth, -, hcomplete⟩ := hmatching accepted
  obtain ⟨-, hbegins, -⟩ := hfailing accepted
  refine ⟨accepted, hapart, hlevel, hparts, ?_, hdepth, hfails, ?_, hentered, ?_⟩
  · rw [← hparts]
    exact hcomplete b hmatches
  · rw [houtcome, hfails]
  · rw [← hparts]
    exact hbegins

/-- The pattern `((k v ...) ...)` is refused: its match enters one repetition inside of another. -/
example :
    let group : Form := .list [.atom "k", .atom "v", .atom "..."]
    (traceRule .empty {} (.list [group, .atom "..."])
      (.list [.list [.atom "a", .atom "1"]])).entered = [⟨0, group⟩, ⟨1, .atom "v"⟩] := by
  decide +kernel

end Trace

end MacroByExample
