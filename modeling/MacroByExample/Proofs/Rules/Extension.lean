import MacroByExample.Proofs.Except
import MacroByExample.Proofs.Rules.Position

/-!
# Matching extends bindings

Bindings can be put one after the other: the captures of each variable are joined in order, and a
variable is marked if it is marked in either. A match never looks at the bindings it is given; it
puts its own behind them. So every match splits into matches that start from no bindings.

* `Bindings.append`, `Bindings.concat`: bindings one after the other.
* `Bindings.ext_captured`: bindings are determined by what they bind, capture and mark.
* `matchForm_eq_append`: a match puts its own bindings behind those it is given.
* `matching_carries_bindings`: a match never consults the bindings it is given.
* `matchWhole_single_iff`, `matchWhole_repeated_iff`: when a list pattern matches, and what it
  binds.
* `matchWhole_induction`: induction along the ways in which a match makes its bindings.
-/

namespace MacroByExample

/-- Insertions of values that depend on the key alone. -/
theorem TokenMap.get?_foldl_insert {β : Type} (value : String → β) (keys : List String)
    (m : TokenMap β) (key : String) :
    (keys.foldl (fun m k => m.insert k (value k)) m).get? key =
      if key ∈ keys then some (value key) else m.get? key := by
  induction keys generalizing m with
  | nil => simp
  | cons k keys ih =>
    rw [List.foldl_cons, ih, get?_insert]
    by_cases hk : key = k
    · subst hk; simp
    · simp [hk]

namespace Bindings

/-! ## Views -/

theorem contains_empty (var : String) : empty.contains var = false := rfl

theorem captured_empty (var : String) : empty.captured var = [] := rfl

theorem captured_of_get? {b : Bindings} {var : String} {forms : List Form}
    (h : b.get? var = some forms) : b.captured var = forms := by
  simp [captured, h]

theorem get?_eq_ite (b : Bindings) (var : String) :
    b.get? var = if b.contains var then some (b.captured var) else none := by
  rw [contains_eq_isSome, captured]
  cases b.get? var <;> rfl

theorem captured_of_contains_eq_false {b : Bindings} {var : String} (h : b.contains var = false) :
    b.captured var = [] := by
  rw [contains_eq_isSome, Option.isSome_eq_false_iff, Option.isNone_iff_eq_none] at h
  simp [captured, h]

/-- Bindings are determined by what they bind, capture and mark. -/
theorem ext_captured {b c : Bindings} (contains : ∀ var, b.contains var = c.contains var)
    (captured : ∀ var, b.captured var = c.captured var)
    (repeated : ∀ var, b.isRepeated var = c.isRepeated var) : b = c := by
  refine ext_get? (fun var => ?_) repeated
  rw [get?_eq_ite, get?_eq_ite, contains, captured]

theorem mem_domain_iff {b : Bindings} {var : String} :
    var ∈ b.domain ↔ b.contains var = true :=
  TokenMap.mem_keys_iff

theorem contains_capture (b : Bindings) (var : String) (form : Form) (var' : String) :
    (b.capture var form).contains var' = (decide (var' = var) || b.contains var') := by
  rw [contains_eq_isSome, get?_capture, contains_eq_isSome]
  by_cases h : var' = var <;> simp [h]

theorem captured_capture (b : Bindings) (var : String) (form : Form) (var' : String) :
    (b.capture var form).captured var' =
      b.captured var' ++ if var' = var then [form] else [] := by
  rw [captured, get?_capture]
  by_cases h : var' = var
  · simp [h]
  · simp [h, captured]

theorem contains_declareRepeated (b : Bindings) (var var' : String) :
    (b.declareRepeated var).contains var' = (decide (var' = var) || b.contains var') := by
  rw [contains_eq_isSome, get?_declareRepeated, contains_eq_isSome]
  by_cases h : var' = var <;> simp [h]

theorem captured_declareRepeated (b : Bindings) (var var' : String) :
    (b.declareRepeated var).captured var' = b.captured var' := by
  rw [captured, get?_declareRepeated]
  by_cases h : var' = var
  · simp [h]
  · simp [h, captured]

/-! ## One after the other -/

/-- The bindings `b` and behind them those of `c`: the captures joined in order, all marks. -/
def append (b c : Bindings) : Bindings where
  captures :=
    c.domain.foldl (fun m var => m.insert var (b.captured var ++ c.captured var)) b.captures
  repeated := c.repeated.toList.foldl TokenSet.insert b.repeated

instance : Append Bindings := ⟨append⟩

@[simp]
theorem contains_append (b c : Bindings) (var : String) :
    (b ++ c).contains var = (b.contains var || c.contains var) := by
  change ((c.domain.foldl (fun m var => m.insert var (b.captured var ++ c.captured var))
    b.captures).get? var).isSome = _
  rw [TokenMap.get?_foldl_insert]
  by_cases h : var ∈ c.domain
  · rw [if_pos h, mem_domain_iff.mp h, Bool.or_true]; rfl
  · rw [if_neg h, Bool.eq_false_iff.mpr (mt mem_domain_iff.mpr h), Bool.or_false]; rfl

@[simp]
theorem captured_append (b c : Bindings) (var : String) :
    (b ++ c).captured var = b.captured var ++ c.captured var := by
  change ((c.domain.foldl (fun m var => m.insert var (b.captured var ++ c.captured var))
    b.captures).get? var).getD [] = _
  rw [TokenMap.get?_foldl_insert]
  by_cases h : var ∈ c.domain
  · rw [if_pos h]; rfl
  · have hfalse := Bool.eq_false_iff.mpr (mt mem_domain_iff.mpr h)
    rw [if_neg h, captured_of_contains_eq_false hfalse, List.append_nil]; rfl

@[simp]
theorem isRepeated_append (b c : Bindings) (var : String) :
    (b ++ c).isRepeated var = (b.isRepeated var || c.isRepeated var) := by
  change (c.repeated.toList.foldl TokenSet.insert b.repeated).contains var = _
  rw [TokenSet.contains_foldl_insert, Bool.or_comm]
  congr 1
  rw [Bool.eq_iff_iff, decide_eq_true_iff, TokenSet.mem_toList_iff]
  rfl

@[simp]
theorem append_empty (b : Bindings) : b ++ empty = b :=
  ext_captured (by simp [contains_empty]) (by simp [captured_empty]) (by simp)

theorem append_assoc (b c d : Bindings) : b ++ c ++ d = b ++ (c ++ d) :=
  ext_captured (by simp [Bool.or_assoc]) (by simp) (by simp [Bool.or_assoc])

theorem get?_append_of_left {b c : Bindings} {var : String} (h : c.contains var = false) :
    (b ++ c).get? var = b.get? var := by
  simp [get?_eq_ite, h, captured_of_contains_eq_false h]

theorem get?_append_of_right {b c : Bindings} {var : String} (h : b.contains var = false) :
    (b ++ c).get? var = c.get? var := by
  simp [get?_eq_ite, h, captured_of_contains_eq_false h]

/-- The bindings of several matches, first to last. -/
def concat (rounds : List Bindings) : Bindings :=
  rounds.foldr (· ++ ·) empty

@[simp]
theorem concat_nil : concat [] = empty := rfl

@[simp]
theorem concat_cons (b : Bindings) (rounds : List Bindings) :
    concat (b :: rounds) = b ++ concat rounds := rfl

theorem contains_concat (rounds : List Bindings) (var : String) :
    (concat rounds).contains var = rounds.any fun b => b.contains var := by
  induction rounds with
  | nil => rfl
  | cons b rounds ih => simp [ih]

theorem captured_concat (rounds : List Bindings) (var : String) :
    (concat rounds).captured var = rounds.flatMap fun b => b.captured var := by
  induction rounds with
  | nil => rfl
  | cons b rounds ih => simp [ih]

theorem isRepeated_concat (rounds : List Bindings) (var : String) :
    (concat rounds).isRepeated var = rounds.any fun b => b.isRepeated var := by
  induction rounds with
  | nil => rfl
  | cons b rounds ih => simp [ih]

/-! ## Extensions in terms of it -/

theorem capture_eq_append (b : Bindings) (var : String) (form : Form) :
    b.capture var form = b ++ empty.capture var form :=
  ext_captured (by simp [contains_capture, contains_empty, Bool.or_comm])
    (by simp [captured_capture, captured_empty]) (by simp)

theorem declareRepeated_eq_append (b : Bindings) (var : String) :
    b.declareRepeated var = b ++ empty.declareRepeated var :=
  ext_captured (by simp [contains_declareRepeated, contains_empty, Bool.or_comm])
    (by simp [captured_declareRepeated, captured_empty])
    (by simp [isRepeated_declareRepeated, Bool.or_comm])

theorem foldl_declareRepeated_eq_append (vars : List String) (b : Bindings) :
    vars.foldl declareRepeated b = b ++ vars.foldl declareRepeated empty := by
  induction vars generalizing b with
  | nil => simp
  | cons var vars ih =>
    rw [List.foldl_cons, List.foldl_cons, ih, ih (empty.declareRepeated var),
      declareRepeated_eq_append, append_assoc]

end Bindings

/-! ## Declared variables -/

section Declared

variable {literals : TokenSet} {s : MatchSettings} {pattern : Form}

theorem declareVariables_eq_append (b : Bindings) :
    declareVariables literals s pattern b = b ++ declareVariables literals s pattern .empty :=
  Bindings.foldl_declareRepeated_eq_append _ b

theorem captured_foldl_declareRepeated (vars : List String) (b : Bindings) (var : String) :
    (vars.foldl Bindings.declareRepeated b).captured var = b.captured var := by
  induction vars generalizing b with
  | nil => rfl
  | cons v vars ih => rw [List.foldl_cons, ih, Bindings.captured_declareRepeated]

theorem contains_foldl_declareRepeated (vars : List String) (b : Bindings) (var : String) :
    (vars.foldl Bindings.declareRepeated b).contains var =
      (decide (var ∈ vars) || b.contains var) := by
  induction vars generalizing b with
  | nil => simp
  | cons v vars ih =>
    rw [List.foldl_cons, ih, Bindings.contains_declareRepeated]
    by_cases hv : var = v <;> by_cases hvars : var ∈ vars <;> simp [hv, hvars]

theorem isRepeated_foldl_declareRepeated (vars : List String) (b : Bindings) (var : String) :
    (vars.foldl Bindings.declareRepeated b).isRepeated var =
      (decide (var ∈ vars) || b.isRepeated var) := by
  induction vars generalizing b with
  | nil => simp
  | cons v vars ih =>
    rw [List.foldl_cons, ih, Bindings.isRepeated_declareRepeated]
    by_cases hv : var = v <;> by_cases hvars : var ∈ vars <;> simp [hv, hvars]

@[simp]
theorem captured_declareVariables (var : String) :
    (declareVariables literals s pattern .empty).captured var = [] :=
  captured_foldl_declareRepeated _ _ var

@[simp]
theorem captured_declareVariables_append (b : Bindings) (var : String) :
    (declareVariables literals s pattern .empty ++ b).captured var = b.captured var := by
  rw [Bindings.captured_append, captured_declareVariables, List.nil_append]

/-- In a pattern without the marker, what is declared are its variables. -/
theorem mem_declared_iff (h : s.ellipsis ∉ pattern.atoms) {var : String} :
    (var ∈ pattern.atoms.filter fun t => !literals.contains t && t != s.ellipsis) ↔
      var ∈ pattern.vars literals s.ellipsis := by
  rw [Form.mem_vars, Form.readTokens_eq_atoms h]
  simp only [List.mem_filter, Bool.and_eq_true, Bool.not_eq_true', bne_iff_ne]
  constructor
  · rintro ⟨hmem, hlit, -⟩
    exact ⟨hmem, hlit⟩
  · rintro ⟨hmem, hlit⟩
    exact ⟨hmem, hlit, fun heq => h (heq ▸ hmem)⟩

theorem contains_declareVariables (h : s.ellipsis ∉ pattern.atoms) (var : String) :
    (declareVariables literals s pattern .empty).contains var = true ↔
      var ∈ pattern.vars literals s.ellipsis := by
  rw [declareVariables, contains_foldl_declareRepeated, Bindings.contains_empty, Bool.or_false,
    decide_eq_true_iff, mem_declared_iff h]

theorem isRepeated_declareVariables (h : s.ellipsis ∉ pattern.atoms) (var : String) :
    (declareVariables literals s pattern .empty).isRepeated var = true ↔
      var ∈ pattern.vars literals s.ellipsis := by
  rw [declareVariables, isRepeated_foldl_declareRepeated, Bindings.isRepeated_empty, Bool.or_false,
    decide_eq_true_iff, mem_declared_iff h]

end Declared

/-! ## The steps of a match -/

section Steps

variable (literals : TokenSet) (s : MatchSettings)

theorem matchItems_repeated (pattern : Form) (rest forms : List Form) (b : Bindings) :
    matchItems literals s (pattern :: .atom s.ellipsis :: rest) forms b =
      (forms.foldlM (fun b form => matchForm literals s pattern form b)
        (declareVariables literals s pattern b)).bind
        fun b => matchItems literals s rest [] b := by
  rw [matchItems.eq_def]
  simp only [MatchSettings.isEllipsis_atom, beq_self_eq_true, ite_true]
  rfl

variable {s}

theorem matchItems_single {pattern : Form} {rest : List Form}
    (h : rest.head? ≠ some (.atom s.ellipsis)) (form : Form) (forms : List Form) (b : Bindings) :
    matchItems literals s (pattern :: rest) (form :: forms) b =
      (matchForm literals s pattern form b).bind fun b => matchItems literals s rest forms b := by
  cases rest with
  | nil => rw [matchItems.eq_def]; rfl
  | cons next rest =>
    rw [matchItems.eq_def]
    simp only [s.isEllipsis_eq_false h, Bool.false_eq_true, ite_false]
    rfl

theorem matchItems_single_nil {pattern : Form} {rest : List Form}
    (h : rest.head? ≠ some (.atom s.ellipsis)) (b : Bindings) :
    matchItems literals s (pattern :: rest) [] b =
      .error (.shape .missingItems (.list (pattern :: rest)) (.list [])) := by
  cases rest with
  | nil => rw [matchItems.eq_def]
  | cons next rest =>
    rw [matchItems.eq_def]
    simp only [s.isEllipsis_eq_false h, Bool.false_eq_true, ite_false]

end Steps

/-! ## Matching extends -/

theorem matchToken_eq_append (literals : TokenSet) (token : String) (form : Form) (b : Bindings) :
    matchToken literals token form b = (matchToken literals token form .empty).map (b ++ ·) := by
  unfold matchToken
  split
  · split
    · simp [Except.map]
    · rfl
  · simp only [Except.map]
    rw [Bindings.capture_eq_append]

/-- A loop whose steps put their bindings behind those they are given puts the bindings of all its
    rounds behind those it starts from. -/
theorem foldlM_eq_append {step : Bindings → Form → Except MatchError Bindings}
    (h : ∀ form b, step b form = (step .empty form).map (b ++ ·)) (forms : List Form)
    (b : Bindings) :
    forms.foldlM step b =
      (forms.mapM (step .empty)).map fun rounds => b ++ Bindings.concat rounds := by
  induction forms generalizing b with
  | nil => simp [Except.map, pure, Except.pure]
  | cons form forms ih =>
    rw [List.foldlM_cons, List.mapM_cons, h]
    cases step .empty form with
    | error e => rfl
    | ok d =>
      change forms.foldlM step (b ++ d) = _
      rw [ih]
      cases forms.mapM (step .empty) with
      | error e => rfl
      | ok rounds => simp [Except.map, bind, Except.bind, pure, Except.pure, Bindings.append_assoc]

/-- A match puts its own bindings behind those it is given. -/
theorem matchForm_eq_append (literals : TokenSet) (s : MatchSettings) (pattern form : Form)
    (b : Bindings) :
    matchForm literals s pattern form b =
      (matchForm literals s pattern form .empty).map (b ++ ·) := by
  induction pattern using Form.markerInduction s.ellipsis generalizing form b with
  | atom t => simpa [matchForm] using matchToken_eq_append literals t form b
  | nil =>
    cases form with
    | atom t => simp only [matchForm]; split <;> simp [Except.map]
    | list forms => simp only [matchForm, matchItems]; split <;> simp [Except.map]
  | repeated item rest ih ihRest =>
    cases form with
    | atom t => simp [matchForm, Except.map]
    | list forms =>
      have ihItems : ∀ b, matchItems literals s rest [] b =
          (matchItems literals s rest [] .empty).map (b ++ ·) := by
        intro b; simpa only [matchForm] using ihRest (.list []) b
      simp only [matchForm, matchItems_repeated]
      rw [foldlM_eq_append fun form b => ih form b,
        foldlM_eq_append (fun form b => ih form b) _ (declareVariables literals s item .empty),
        declareVariables_eq_append b]
      cases forms.mapM fun form => matchForm literals s item form .empty with
      | error e => rfl
      | ok rounds =>
        simp only [Except.map, Except.bind]
        rw [ihItems, ihItems (_ ++ Bindings.concat rounds)]
        cases matchItems literals s rest [] .empty <;> simp [Except.map, Bindings.append_assoc]
  | single item rest hmarker ih ihRest =>
    cases form with
    | atom t => simp [matchForm, Except.map]
    | list forms =>
      cases forms with
      | nil => simp [matchForm, matchItems_single_nil literals hmarker, Except.map]
      | cons form forms =>
        have ihItems : ∀ b, matchItems literals s rest forms b =
            (matchItems literals s rest forms .empty).map (b ++ ·) := by
          intro b; simpa only [matchForm] using ihRest (.list forms) b
        simp only [matchForm, matchItems_single literals hmarker]
        rw [ih]
        cases matchForm literals s item form .empty with
        | error e => rfl
        | ok d =>
          simp only [Except.map, Except.bind]
          rw [ihItems, ihItems d]
          cases matchItems literals s rest forms .empty <;>
            simp [Except.map, Bindings.append_assoc]

theorem matchItems_eq_append (literals : TokenSet) (s : MatchSettings) (patterns forms : List Form)
    (b : Bindings) :
    matchItems literals s patterns forms b =
      (matchItems literals s patterns forms .empty).map (b ++ ·) := by
  simpa only [matchForm] using matchForm_eq_append literals s (.list patterns) (.list forms) b

/-- The bindings `c` are `b` with the captures of `d` behind those of `b`, for each variable, and
    with the marks of both. -/
structure Bindings.ExtendedBy (b d c : Bindings) : Prop where
  contains : ∀ var, c.contains var = (b.contains var || d.contains var)
  captured : ∀ var, c.captured var = b.captured var ++ d.captured var
  isRepeated : ∀ var, c.isRepeated var = (b.isRepeated var || d.isRepeated var)

theorem Bindings.extendedBy_append (b d : Bindings) : b.ExtendedBy d (b ++ d) :=
  ⟨contains_append b d, captured_append b d, isRepeated_append b d⟩

/-- A match whose outcome is `x` from the bindings `b`, and `y` from none, carries `b` through: it
    does not depend on `b` whether it fails or with what error, and a success extends `b` by what
    it binds by itself. -/
structure Bindings.CarriedThrough (b : Bindings) (x y : Except MatchError Bindings) : Prop where
  succeeds_iff : (∃ c, x = .ok c) ↔ ∃ d, y = .ok d
  error_iff : ∀ e, x = .error e ↔ y = .error e
  extendedBy : ∀ c d, x = .ok c → y = .ok d → b.ExtendedBy d c

theorem Bindings.carriedThrough_map (b : Bindings) (y : Except MatchError Bindings) :
    b.CarriedThrough (y.map (b ++ ·)) y where
  succeeds_iff := by
    constructor
    · rintro ⟨c, hc⟩
      obtain ⟨d, hd, -⟩ := map_eq_ok_iff.mp hc
      exact ⟨d, hd⟩
    · rintro ⟨d, hd⟩
      exact ⟨b ++ d, map_eq_ok_iff.mpr ⟨d, hd, rfl⟩⟩
  error_iff _ := map_eq_error_iff
  extendedBy c d hc hd := by
    rw [hd] at hc
    obtain rfl : b ++ d = c := Except.ok.inj hc
    exact b.extendedBy_append d

/-- **Matching never consults the bindings it is given.** A match of a pattern with a form succeeds
from some bindings exactly when it succeeds from none, and otherwise fails with the same error. When
it succeeds, its result is the bindings it was given, with the captures that the match from none
makes behind the captures of each variable, and with the marks of both. So does a match of the items
of a list pattern with the items of a list. -/
theorem matching_carries_bindings (literals : TokenSet) (s : MatchSettings) (b : Bindings) :
    (∀ pattern form, b.CarriedThrough (matchForm literals s pattern form b)
      (matchForm literals s pattern form .empty)) ∧
    ∀ patterns forms, b.CarriedThrough (matchItems literals s patterns forms b)
      (matchItems literals s patterns forms .empty) := by
  constructor
  · intro pattern form
    rw [matchForm_eq_append literals s pattern form b]
    exact b.carriedThrough_map _
  · intro patterns forms
    rw [matchItems_eq_append literals s patterns forms b]
    exact b.carriedThrough_map _

/-! ## When a pattern matches -/

section WhenMatched

variable {literals : TokenSet} {s : MatchSettings} {item form : Form} {rest : List Form}
  {b : Bindings}

theorem matchWhole_single (hmarker : rest.head? ≠ some (.atom s.ellipsis)) (first : Form)
    (others : List Form) :
    matchWhole literals s (.list (item :: rest)) (.list (first :: others)) =
      (matchWhole literals s item first).bind fun c =>
        (matchWhole literals s (.list rest) (.list others)).map (c ++ ·) := by
  unfold matchWhole
  rw [matchForm, matchItems_single literals hmarker]
  cases matchForm literals s item first .empty with
  | error e => rfl
  | ok c => exact matchItems_eq_append literals s rest others c

theorem matchWhole_repeated (forms : List Form) :
    matchWhole literals s (.list (item :: .atom s.ellipsis :: rest)) (.list forms) =
      (forms.mapM fun form => matchWhole literals s item form).bind fun rounds =>
        (matchWhole literals s (.list rest) (.list [])).map
          (declareVariables literals s item .empty ++ Bindings.concat rounds ++ ·) := by
  unfold matchWhole
  rw [matchForm, matchItems_repeated,
    foldlM_eq_append fun form b => matchForm_eq_append literals s item form b]
  cases forms.mapM fun form => matchForm literals s item form .empty with
  | error e => rfl
  | ok rounds =>
    exact matchItems_eq_append literals s rest []
      (declareVariables literals s item .empty ++ Bindings.concat rounds)

theorem matchWhole_nil_iff :
    matchWhole literals s (.list []) form = .ok b ↔
      (form = .list [] ∨ s.trailing = .lenient) ∧ b = .empty := by
  cases form with
  | atom t =>
    by_cases h : s.trailing = .lenient <;> simp [matchWhole, matchForm, h, eq_comm (a := b)]
  | list forms =>
    by_cases h : s.trailing = .lenient <;> cases forms <;>
      simp [matchWhole, matchForm, matchItems, h, eq_comm (a := b)]

/-- A list pattern that starts with a single item matches the lists that start with an instance of
    it and go on with an instance of the rest. -/
theorem matchWhole_single_iff (hmarker : rest.head? ≠ some (.atom s.ellipsis)) :
    matchWhole literals s (.list (item :: rest)) form = .ok b ↔
      ∃ first others c d, form = .list (first :: others) ∧
        matchWhole literals s item first = .ok c ∧
        matchWhole literals s (.list rest) (.list others) = .ok d ∧ b = c ++ d := by
  constructor
  · intro h
    cases form with
    | atom t => simp [matchWhole, matchForm] at h
    | list forms =>
      cases forms with
      | nil => simp [matchWhole, matchForm, matchItems_single_nil literals hmarker] at h
      | cons first others =>
        rw [matchWhole_single hmarker] at h
        cases hc : matchWhole literals s item first with
        | error e => rw [hc] at h; cases h
        | ok c =>
          cases hd : matchWhole literals s (.list rest) (.list others) with
          | error e => rw [hc, hd] at h; cases h
          | ok d =>
            rw [hc, hd] at h
            cases h
            exact ⟨first, others, c, d, rfl, hc, hd, rfl⟩
  · rintro ⟨first, others, c, d, rfl, hc, hd, rfl⟩
    rw [matchWhole_single hmarker, hc, hd]
    rfl

/-- A list pattern that starts with a repeated item matches the lists of its instances, provided
    that the rest matches the empty list. -/
theorem matchWhole_repeated_iff :
    matchWhole literals s (.list (item :: .atom s.ellipsis :: rest)) form = .ok b ↔
      ∃ forms rounds d, form = .list forms ∧
        List.Forall₂ (fun form round => matchWhole literals s item form = .ok round) forms rounds ∧
        matchWhole literals s (.list rest) (.list []) = .ok d ∧
        b = declareVariables literals s item .empty ++ Bindings.concat rounds ++ d := by
  simp only [← mapM_eq_ok_iff]
  constructor
  · intro h
    cases form with
    | atom t => simp [matchWhole, matchForm] at h
    | list forms =>
      rw [matchWhole_repeated] at h
      cases hrounds : forms.mapM fun form => matchWhole literals s item form with
      | error e => rw [hrounds] at h; cases h
      | ok rounds =>
        cases hd : matchWhole literals s (.list rest) (.list []) with
        | error e => rw [hrounds, hd] at h; cases h
        | ok d =>
          rw [hrounds, hd] at h
          cases h
          exact ⟨forms, rounds, d, rfl, hrounds, rfl, rfl⟩
  · rintro ⟨forms, rounds, d, rfl, hrounds, hd, rfl⟩
    rw [matchWhole_repeated, hrounds, hd]
    rfl

/-- Without the keyword left out, a rule's pattern is matched as a whole. -/
theorem matchRule_of_whole (h : s.ignoreKeyword = false) (pattern form : Form) :
    matchRule literals s pattern form = matchWhole literals s pattern form := by
  unfold matchRule
  rw [if_neg (by simp [h])]

/-- With the keyword left out, a rule's pattern and a form are matched behind their first items. -/
theorem matchRule_keyword_iff (h : s.ignoreKeyword = true) {pattern : Form} :
    matchRule literals s pattern form = .ok b ↔
      ∃ keyword patterns first forms, pattern = .list (keyword :: patterns) ∧
        form = .list (first :: forms) ∧
        matchWhole literals s (.list patterns) (.list forms) = .ok b := by
  unfold matchRule
  rw [if_pos h]
  constructor
  · intro hmatch
    split at hmatch
    · exact ⟨_, _, _, _, rfl, rfl, hmatch⟩
    · cases hmatch
  · rintro ⟨keyword, patterns, first, forms, rfl, rfl, hmatch⟩
    exact hmatch

/-- A rule's pattern matches a form if the matched part of the one matches that of the other. -/
theorem matchWhole_of_matchRule {pattern : Form} (h : matchRule literals s pattern form = .ok b) :
    matchWhole literals s (s.matchedPart pattern) (s.matchedPart form) = .ok b := by
  cases hkeyword : s.ignoreKeyword with
  | false =>
    rw [matchRule_of_whole hkeyword] at h
    simpa [MatchSettings.matchedPart, hkeyword] using h
  | true =>
    obtain ⟨keyword, patterns, first, forms, rfl, rfl, hmatch⟩ :=
      (matchRule_keyword_iff hkeyword).mp h
    simpa [MatchSettings.matchedPart, hkeyword] using hmatch

end WhenMatched

/-! ## How bindings are made -/

section Induction

variable {literals : TokenSet} {s : MatchSettings} {pattern form : Form} {b : Bindings}
  {P : Bindings → Prop}

theorem concat_induction (empty : P .empty) (append : ∀ b c, P b → P c → P (b ++ c))
    {rounds : List Bindings} (h : ∀ round ∈ rounds, P round) : P (Bindings.concat rounds) := by
  induction rounds with
  | nil => exact empty
  | cons round rounds ih =>
    rw [Bindings.concat_cons]
    exact append _ _ (h round List.mem_cons_self)
      (ih fun other hother => h other (List.mem_cons_of_mem _ hother))

theorem declareVariables_induction (empty : P .empty)
    (declare : ∀ var ∈ pattern.atoms, P (Bindings.empty.declareRepeated var))
    (append : ∀ b c, P b → P c → P (b ++ c)) :
    P (declareVariables literals s pattern .empty) := by
  have hfold : ∀ vars : List String, (∀ var ∈ vars, var ∈ pattern.atoms) →
      ∀ b, P b → P (vars.foldl Bindings.declareRepeated b) := by
    intro vars
    induction vars with
    | nil => exact fun _ _ hb => hb
    | cons var vars ih =>
      intro hvars b hb
      rw [List.foldl_cons, Bindings.declareRepeated_eq_append]
      exact ih (fun v hv => hvars v (List.mem_cons_of_mem _ hv)) _
        (append _ _ hb (declare var (hvars var List.mem_cons_self)))
  exact hfold _ (fun var hvar => List.mem_of_mem_filter hvar) _ empty

/-- Induction along the ways in which a match makes its bindings: they are put together from
    captures and marks of single tokens of the pattern. -/
theorem matchWhole_induction (empty : P .empty)
    (capture : ∀ var ∈ pattern.atoms, ∀ form, P (Bindings.empty.capture var form))
    (declare : ∀ var ∈ pattern.atoms, P (Bindings.empty.declareRepeated var))
    (append : ∀ b c, P b → P c → P (b ++ c)) (h : matchWhole literals s pattern form = .ok b) :
    P b := by
  induction pattern using Form.markerInduction s.ellipsis generalizing form b with
  | atom t =>
    rw [matchWhole, matchForm, matchToken] at h
    split at h
    · split at h
      · cases h
        exact empty
      · cases h
    · cases h
      exact capture t (List.mem_singleton_self t) form
  | nil =>
    obtain ⟨-, rfl⟩ := matchWhole_nil_iff.mp h
    exact empty
  | repeated item rest ih ihRest =>
    obtain ⟨forms, rounds, d, rfl, hrounds, hd, rfl⟩ := matchWhole_repeated_iff.mp h
    simp only [Form.atoms_list, List.flatMap_cons, List.mem_append] at capture declare ihRest
    have hround : ∀ round ∈ rounds, P round := by
      intro round hround
      obtain ⟨form, -, hform⟩ := exists_of_forall₂_of_mem hrounds hround
      exact ih (fun var hvar => capture var (.inl hvar)) (fun var hvar => declare var (.inl hvar))
        hform
    refine append _ _ (append _ _ ?_ (concat_induction empty append hround)) ?_
    · exact declareVariables_induction empty (fun var hvar => declare var (.inl hvar)) append
    · exact ihRest (fun var hvar => capture var (.inr (.inr hvar)))
        (fun var hvar => declare var (.inr (.inr hvar))) hd
  | single item rest hmarker ih ihRest =>
    obtain ⟨first, others, c, d, rfl, hc, hd, rfl⟩ := (matchWhole_single_iff hmarker).mp h
    simp only [Form.atoms_list, List.flatMap_cons, List.mem_append] at capture declare ihRest
    refine append _ _ ?_ ?_
    · exact ih (fun var hvar => capture var (.inl hvar)) (fun var hvar => declare var (.inl hvar)) hc
    · exact ihRest (fun var hvar => capture var (.inr hvar))
        (fun var hvar => declare var (.inr hvar)) hd

/-- A match binds atoms of the pattern. -/
theorem mem_atoms_of_contains (h : matchWhole literals s pattern form = .ok b) {var : String}
    (hvar : b.contains var = true) : var ∈ pattern.atoms := by
  have hall : ∀ v, b.contains v = true → v ∈ pattern.atoms := by
    refine matchWhole_induction (P := fun b => ∀ v, b.contains v = true → v ∈ pattern.atoms)
      ?empty ?capture ?declare ?append h
    case empty => exact fun v hv => absurd hv Bool.false_ne_true
    case capture =>
      intro t ht form v hv
      rw [Bindings.contains_capture, Bindings.contains_empty, Bool.or_false,
        decide_eq_true_iff] at hv
      rwa [hv]
    case declare =>
      intro t ht v hv
      rw [Bindings.contains_declareRepeated, Bindings.contains_empty, Bool.or_false,
        decide_eq_true_iff] at hv
      rwa [hv]
    case append =>
      intro c d hc hd v hv
      rw [Bindings.contains_append, Bool.or_eq_true] at hv
      exact hv.elim (hc v) (hd v)
  exact hall var hvar

/-- A match binds every token that it marks. -/
theorem contains_of_isRepeated (h : matchWhole literals s pattern form = .ok b) {var : String}
    (hvar : b.isRepeated var = true) : b.contains var = true := by
  have hall : ∀ v, b.isRepeated v = true → b.contains v = true := by
    refine matchWhole_induction (P := fun b => ∀ v, b.isRepeated v = true → b.contains v = true)
      ?empty ?capture ?declare ?append h
    case empty => exact fun v hv => absurd hv Bool.false_ne_true
    case capture => exact fun t _ form v hv => absurd hv Bool.false_ne_true
    case declare =>
      intro t _ v hv
      rw [Bindings.isRepeated_declareRepeated, Bindings.isRepeated_empty] at hv
      rw [Bindings.contains_declareRepeated, Bindings.contains_empty, hv]
    case append =>
      intro c d hc hd v hv
      rw [Bindings.isRepeated_append, Bool.or_eq_true] at hv
      rw [Bindings.contains_append, Bool.or_eq_true]
      exact hv.imp (hc v) (hd v)
  exact hall var hvar

/-- A match marks every token that it binds to no form. -/
theorem isRepeated_of_get?_nil (h : matchWhole literals s pattern form = .ok b) {var : String}
    (hvar : b.get? var = some []) : b.isRepeated var = true := by
  have hall : ∀ v, b.contains v = true → b.captured v = [] → b.isRepeated v = true := by
    refine matchWhole_induction
      (P := fun b => ∀ v, b.contains v = true → b.captured v = [] → b.isRepeated v = true)
      ?empty ?capture ?declare ?append h
    case empty => exact fun v hv => absurd hv Bool.false_ne_true
    case capture =>
      intro t _ form v hv hnone
      rw [Bindings.contains_capture, Bindings.contains_empty, Bool.or_false,
        decide_eq_true_iff] at hv
      simp [Bindings.captured_capture, hv] at hnone
    case declare =>
      intro t _ v hv _
      rw [Bindings.contains_declareRepeated, Bindings.contains_empty, Bool.or_false] at hv
      rw [Bindings.isRepeated_declareRepeated, hv, Bool.true_or]
    case append =>
      intro c d hc hd v hv hnone
      rw [Bindings.captured_append, List.append_eq_nil_iff] at hnone
      rw [Bindings.contains_append, Bool.or_eq_true] at hv
      rw [Bindings.isRepeated_append, Bool.or_eq_true]
      exact hv.imp (fun hv => hc v hv hnone.1) fun hv => hd v hv hnone.2
  refine hall var ?_ (Bindings.captured_of_get? hvar)
  rw [Bindings.contains_eq_isSome, hvar]
  rfl

end Induction

end MacroByExample
