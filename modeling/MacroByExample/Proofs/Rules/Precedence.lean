import MacroByExample.Proofs.Except
import MacroByExample.Rules.Dispatch

/-!
# Precedence of rules

The first rule whose pattern matches decides what becomes of a form: the rules behind it are not
tried, not even when its template fails, and the rules in front of it are the ones that are logged
as rejected. So a list of rules can be cut anywhere: trying it is trying its first part, and the
second part only where every rule of the first was rejected.

* `Attempt.shift`: what is reported of rules that stand further on.
* `Rejects`, `dispatchFrom_append_of_rejects`: rules that reject a form are passed over.
* `Decided`, `decided_dispatch`: how trying rules ends.
* `firstMatch?`, `decider?_dispatch`: the rule that decides is the first whose pattern matches.
* `dispatch_append`: trying the rules of two lists.
-/

namespace MacroByExample

/-! ## Positions -/

/-- The event, about a rule that stands further on. -/
def Event.shift (offset : Nat) : Event → Event
  | .rejected rule reason => .rejected (rule + offset) reason
  | .matched rule form => .matched (rule + offset) form
  | .exhausted tried form => .exhausted (tried + offset) form

/-- The expansion, by a rule that stands further on. -/
def Expansion.shift (offset : Nat) (e : Expansion) : Expansion :=
  { e with index := e.index + offset }

/-- The error, about a rule that stands further on. -/
def DispatchError.shift (offset : Nat) : DispatchError → DispatchError
  | .noRuleMatched form tried => .noRuleMatched form (tried + offset)
  | .template rule error => .template (rule + offset) error
  | .unknownMacro name known => .unknownMacro name known
  | .notACall form => .notACall form

/-- Whether the event is the rejection of a rule. -/
def Event.isRejection : Event → Bool
  | .rejected _ _ => true
  | .matched _ _ | .exhausted _ _ => false

namespace Attempt

/-- The attempt with its events, its expansion and its error replaced. -/
def map (event : Event → Event) (expansion : Expansion → Expansion)
    (error : DispatchError → DispatchError) (a : Attempt) : Attempt :=
  ⟨a.log.map event, mapBoth expansion error a.result⟩

/-- What the attempt would be if the rules stood further on. -/
def shift (offset : Nat) (a : Attempt) : Attempt :=
  a.map (Event.shift offset) (Expansion.shift offset) (DispatchError.shift offset)

/-- No rule matched. -/
def Exhausted (a : Attempt) : Prop :=
  ∃ form tried, a.result = .error (.noRuleMatched form tried)

/-- The rejections in the log, in order. -/
def rejections (a : Attempt) : List Event :=
  a.log.filter Event.isRejection

end Attempt

section Precedence

variable {literals : TokenSet} {s : MatchSettings} {form : Form} {rules : List Rule}

theorem dispatchFrom_of_ok {rule : Rule} {b : Bindings}
    (h : matchRule literals s rule.pattern form = .ok b) (start : Nat) :
    dispatchFrom literals s form start (rule :: rules) =
      ⟨[.matched start form], fire s start rule.template b⟩ := by
  rw [dispatchFrom, h]

theorem dispatchFrom_of_error {rule : Rule} {reason : MatchError}
    (h : matchRule literals s rule.pattern form = .error reason) (start : Nat) :
    dispatchFrom literals s form start (rule :: rules) =
      ⟨.rejected start reason :: (dispatchFrom literals s form (start + 1) rules).log,
        (dispatchFrom literals s form (start + 1) rules).result⟩ := by
  rw [dispatchFrom, h]

theorem fire_add (start offset : Nat) (template : Form) (b : Bindings) :
    fire s (start + offset) template b =
      mapBoth (Expansion.shift offset) (DispatchError.shift offset) (fire s start template b) := by
  unfold fire
  cases expandForm s template b <;> rfl

/-- Trying the same rules further on gives the same, with other positions. -/
theorem dispatchFrom_add (rules : List Rule) (start offset : Nat) :
    dispatchFrom literals s form (start + offset) rules =
      (dispatchFrom literals s form start rules).shift offset := by
  induction rules generalizing start with
  | nil => rfl
  | cons rule rules ih =>
    cases hmatch : matchRule literals s rule.pattern form with
    | ok b =>
      rw [dispatchFrom_of_ok hmatch, dispatchFrom_of_ok hmatch, fire_add]
      rfl
    | error reason =>
      rw [dispatchFrom_of_error hmatch, dispatchFrom_of_error hmatch, Nat.add_right_comm, ih]
      rfl

theorem not_exhausted_fire {log : List Event} {index : Nat} {template : Form} {b : Bindings} :
    ¬ (Attempt.mk log (fire s index template b)).Exhausted := by
  rintro ⟨f, tried, h⟩
  dsimp only [fire] at h
  split at h <;> cases h

/-! ## Rejections -/

/-- Each rule rejects the form, for the reason given. -/
def Rejects (literals : TokenSet) (s : MatchSettings) (form : Form) :
    List Rule → List MatchError → Prop :=
  List.Forall₂ fun rule reason => matchRule literals s rule.pattern form = .error reason

/-- The rejections of rules in order, of which the first has the given position. -/
def rejectionsFrom (start : Nat) (reasons : List MatchError) : List Event :=
  reasons.mapIdx fun i reason => .rejected (start + i) reason

theorem rejectionsFrom_cons (start : Nat) (reason : MatchError) (reasons : List MatchError) :
    rejectionsFrom start (reason :: reasons) =
      .rejected start reason :: rejectionsFrom (start + 1) reasons := by
  simp only [rejectionsFrom, List.mapIdx_cons, Nat.add_zero, Nat.add_right_comm start 1,
    Nat.add_assoc]

theorem filter_rejectionsFrom (start : Nat) (reasons : List MatchError) :
    (rejectionsFrom start reasons).filter Event.isRejection = rejectionsFrom start reasons := by
  induction reasons generalizing start with
  | nil => rfl
  | cons reason reasons ih => rw [rejectionsFrom_cons, List.filter_cons_of_pos rfl, ih]

/-- Rules that reject the form are logged and passed over. -/
theorem dispatchFrom_append_of_rejects {reasons : List MatchError}
    (h : Rejects literals s form rules reasons) (others : List Rule) (start : Nat) :
    dispatchFrom literals s form start (rules ++ others) =
      ⟨rejectionsFrom start reasons ++
          (dispatchFrom literals s form (start + rules.length) others).log,
        (dispatchFrom literals s form (start + rules.length) others).result⟩ := by
  induction h generalizing start with
  | nil => rfl
  | @cons rule reason rules reasons hrule _ ih =>
    rw [List.cons_append, dispatchFrom_of_error hrule, ih, rejectionsFrom_cons, List.length_cons,
      Nat.add_right_comm, Nat.add_assoc start]
    rfl

/-- Every list of rules starts with rules that reject the form, and behind them it ends or goes on
    with a rule that matches. -/
theorem exists_rejects (literals : TokenSet) (s : MatchSettings) (form : Form)
    (rules : List Rule) :
    (∃ reasons, Rejects literals s form rules reasons) ∨
      ∃ before rule after reasons b, rules = before ++ rule :: after ∧
        Rejects literals s form before reasons ∧
        matchRule literals s rule.pattern form = .ok b := by
  induction rules with
  | nil => exact .inl ⟨[], .nil⟩
  | cons rule rules ih =>
    cases hmatch : matchRule literals s rule.pattern form with
    | ok b => exact .inr ⟨[], rule, rules, [], b, rfl, .nil, hmatch⟩
    | error reason =>
      rcases ih with ⟨reasons, h⟩ | ⟨before, first, after, reasons, b, rfl, h, hfirst⟩
      · exact .inl ⟨reason :: reasons, .cons hmatch h⟩
      · exact .inr ⟨rule :: before, first, after, reason :: reasons, b, rfl, .cons hmatch h, hfirst⟩

/-! ## Dispatch -/

theorem dispatch_of_rejects {reasons : List MatchError} (h : Rejects literals s form rules reasons) :
    dispatch literals s rules form =
      ⟨rejectionsFrom 0 reasons ++ [.exhausted rules.length form],
        .error (.noRuleMatched form rules.length)⟩ := by
  rw [dispatch, ← List.append_nil rules, dispatchFrom_append_of_rejects h, List.append_nil,
    Nat.zero_add]
  rfl

theorem dispatch_of_first {before : List Rule} {rule : Rule} {reasons : List MatchError}
    {b : Bindings} (h : Rejects literals s form before reasons)
    (hrule : matchRule literals s rule.pattern form = .ok b) (after : List Rule) :
    dispatch literals s (before ++ rule :: after) form =
      ⟨rejectionsFrom 0 reasons ++ [.matched before.length form],
        fire s before.length rule.template b⟩ := by
  rw [dispatch, dispatchFrom_append_of_rejects h, Nat.zero_add, dispatchFrom_of_ok hrule]

/-- How trying rules ends. -/
inductive Decided (literals : TokenSet) (s : MatchSettings) (form : Form) :
    List Rule → Attempt → Prop where
  /-- Every rule rejects the form, and this is logged of every rule. -/
  | exhausted {rules : List Rule} {reasons : List MatchError}
      (rejects : Rejects literals s form rules reasons) :
    Decided literals s form rules
      ⟨rejectionsFrom 0 reasons ++ [.exhausted rules.length form],
        .error (.noRuleMatched form rules.length)⟩
  /-- A rule matches the form behind rules that reject it. That rule alone decides, and the
      rejections logged are those of the rules in front of it. -/
  | first {before after : List Rule} {rule : Rule} {reasons : List MatchError} {b : Bindings}
      (rejects : Rejects literals s form before reasons)
      (matched : matchRule literals s rule.pattern form = .ok b) :
    Decided literals s form (before ++ rule :: after)
      ⟨rejectionsFrom 0 reasons ++ [.matched before.length form],
        fire s before.length rule.template b⟩

theorem decided_dispatch (literals : TokenSet) (s : MatchSettings) (form : Form)
    (rules : List Rule) : Decided literals s form rules (dispatch literals s rules form) := by
  rcases exists_rejects literals s form rules with
    ⟨reasons, h⟩ | ⟨before, rule, after, reasons, b, rfl, h, hrule⟩
  · rw [dispatch_of_rejects h]
    exact .exhausted h
  · rw [dispatch_of_first h hrule after]
    exact .first h hrule

/-! ## The rule that decides -/

/-- The position of the first rule whose pattern matches the form. -/
def firstMatch? (literals : TokenSet) (s : MatchSettings) (form : Form) (rules : List Rule) :
    Option Nat :=
  rules.findIdx? fun rule => (matchRule literals s rule.pattern form).isOk

/-- The position of the rule that decided: it fired, or its template failed. -/
def Attempt.decider? (a : Attempt) : Option Nat :=
  match a.result with
  | .ok e => some e.index
  | .error (.template rule _) => some rule
  | .error _ => none

theorem decider?_fire (log : List Event) (index : Nat) (template : Form) (b : Bindings) :
    (Attempt.mk log (fire s index template b)).decider? = some index := by
  rw [fire, Attempt.decider?]
  cases expandForm s template b <;> rfl

theorem firstMatch?_of_rejects {reasons : List MatchError}
    (h : Rejects literals s form rules reasons) : firstMatch? literals s form rules = none := by
  rw [firstMatch?, List.findIdx?_eq_none_iff]
  intro rule hrule
  obtain ⟨reason, -, hreason⟩ := exists_of_forall₂_of_mem h.flip hrule
  rw [hreason]
  rfl

/-- The rule that decides is the first whose pattern matches. -/
theorem decider?_dispatch (literals : TokenSet) (s : MatchSettings) (form : Form)
    (rules : List Rule) :
    (dispatch literals s rules form).decider? = firstMatch? literals s form rules := by
  rcases exists_rejects literals s form rules with
    ⟨reasons, h⟩ | ⟨before, rule, after, reasons, b, rfl, h, hrule⟩
  · rw [dispatch_of_rejects h, firstMatch?_of_rejects h]
    rfl
  · have hbefore := firstMatch?_of_rejects h
    rw [firstMatch?] at hbefore
    have hfound : (matchRule literals s rule.pattern form).isOk = true := isOk_iff.mpr ⟨b, hrule⟩
    rw [dispatch_of_first h hrule, decider?_fire, firstMatch?, List.findIdx?_append, hbefore,
      List.findIdx?_cons, if_pos hfound]
    simp

/-! ## Two lists -/

theorem exhausted_dispatch {reasons : List MatchError}
    (h : Rejects literals s form rules reasons) :
    (dispatch literals s rules form).Exhausted :=
  ⟨form, rules.length, by rw [dispatch_of_rejects h]⟩

theorem rejections_dispatch {reasons : List MatchError}
    (h : Rejects literals s form rules reasons) :
    (dispatch literals s rules form).rejections = rejectionsFrom 0 reasons := by
  have hlast : [Event.exhausted rules.length form].filter Event.isRejection = [] := rfl
  rw [Attempt.rejections, dispatch_of_rejects h, List.filter_append, filter_rejectionsFrom, hlast,
    List.append_nil]

/-- **Dispatch follows the order of the rules.** If a rule of the first list matches, the rules of
    both lists together do what the first list does, down to the log. Otherwise they do what the
    second list does, with positions that count the first list too, and the log starts with the
    rejections of the first list. So the rule that fires, or fails in its template, is the first
    whose pattern matches, and the rules in front of it are the ones that are logged as
    rejected. -/
theorem dispatch_append (literals : TokenSet) (s : MatchSettings) (form : Form)
    (rules others : List Rule) :
    (¬ (dispatch literals s rules form).Exhausted →
      dispatch literals s (rules ++ others) form = dispatch literals s rules form) ∧
    ((dispatch literals s rules form).Exhausted →
      dispatch literals s (rules ++ others) form =
        ⟨(dispatch literals s rules form).rejections ++
            ((dispatch literals s others form).shift rules.length).log,
          ((dispatch literals s others form).shift rules.length).result⟩) ∧
    Decided literals s form rules (dispatch literals s rules form) := by
  rcases exists_rejects literals s form rules with
    ⟨reasons, h⟩ | ⟨before, rule, after, reasons, b, rfl, h, hrule⟩
  · refine ⟨fun hnot => absurd (exhausted_dispatch h) hnot, fun _ => ?_,
      decided_dispatch literals s form rules⟩
    rw [rejections_dispatch h, dispatch, dispatchFrom_append_of_rejects h, dispatchFrom_add]
    rfl
  · have hfirst := dispatch_of_first h hrule after
    have hall := dispatch_of_first h hrule (after ++ others)
    refine ⟨fun _ => ?_, fun hexhausted => ?_, decided_dispatch literals s form _⟩
    · rw [List.append_assoc, List.cons_append, hall, hfirst]
    · rw [hfirst] at hexhausted
      exact absurd hexhausted not_exhausted_fire

/-- Two rules that reject `(m 5)` and one that fires, in both orders. -/
theorem dispatch_append_call :
    let literals : TokenSet := .ofList ["never"]
    let s : MatchSettings := {}
    let form : Form := .list [.atom "m", .atom "5"]
    let rejecting : List Rule :=
      [⟨.list [.atom "m", .atom "never"], .atom "one"⟩, ⟨.list [.atom "m"], .atom "two"⟩]
    let firing : List Rule := [⟨.list [.atom "m", .atom "x"], .list [.atom "x", .atom "x"]⟩]
    (dispatch literals s rejecting form).Exhausted ∧
      ¬ (dispatch literals s firing form).Exhausted ∧
      Decided literals s form firing (dispatch literals s firing form) ∧
      dispatch literals s (firing ++ rejecting) form = dispatch literals s firing form ∧
      dispatch literals s (rejecting ++ firing) form =
        ⟨(dispatch literals s rejecting form).rejections ++
            ((dispatch literals s firing form).shift 2).log,
          ((dispatch literals s firing form).shift 2).result⟩ := by
  intro literals s form rejecting firing
  have exhausted : (dispatch literals s rejecting form).Exhausted := ⟨form, 2, rfl⟩
  have fires : ¬ (dispatch literals s firing form).Exhausted := not_exhausted_fire
  obtain ⟨keeps, -, decided⟩ := dispatch_append literals s form firing rejecting
  obtain ⟨-, passes, -⟩ := dispatch_append literals s form rejecting firing
  exact ⟨exhausted, fires, decided, keeps fires, passes exhausted⟩

end Precedence

end MacroByExample
