import MacroByExample.Proofs.CommandLine.Run
import MacroByExample.Proofs.Reader.Reading

/-!
# Failing invocations

An invocation reads, checks and computes before it writes, and writing does not fail. So an
invocation that fails has written nothing, whatever the failure: neither the forms of a file in
front of the place that cannot be read, nor the explanation of an expansion that fails.

* `Silent`, `Unfailing`, `FailsSilently`: steps that write nothing, steps that do not fail, and
  computations that have written nothing when they fail.
* `Silent.bind`, `Unfailing.bind`: one step after another.
* `unfailing_showExpansion`: showing an expansion does not fail.
* `failsSilently_execute`: every invocation.
* `stdout_eq_nil_of_error`: an invocation that fails prints nothing.
-/

namespace MacroByExample.CommandLine

variable {α β ε : Type}

/-! ## Steps that write, and steps that fail -/

/-- The computation writes nothing, whether or not it fails. -/
def Silent (m : Run α) : Prop :=
  ∀ out, (m.run out).2 = out

/-- The computation does not fail. -/
def Unfailing (m : Run α) : Prop :=
  ∀ out, ∃ a, (m.run out).1 = .ok a

/-- If the computation fails, it has written nothing. -/
def FailsSilently (m : Run α) : Prop :=
  ∀ out e, (m.run out).1 = .error e → (m.run out).2 = out

/-- One step after another: the second goes on with what the first has written, if that succeeds. -/
theorem run_bind (m : Run α) (next : α → Run β) (out : List Char) :
    (m >>= next).run out =
      match m.run out with
      | (.ok a, written) => (next a).run written
      | (.error e, written) => (.error e, written) := by
  have hsteps : (m >>= next).run out = ExceptT.bindCont next (m.run out).1 (m.run out).2 := rfl
  rw [hsteps]
  generalize m.run out = first
  obtain ⟨x, written⟩ := first
  cases x <;> rfl

theorem Unfailing.failsSilently {m : Run α} (h : Unfailing m) : FailsSilently m := by
  intro out e he
  obtain ⟨a, ha⟩ := h out
  rw [ha] at he
  cases he

/-- Behind a step that writes nothing, the rest decides. -/
theorem Silent.bind {m : Run α} {next : α → Run β} (hm : Silent m)
    (hnext : ∀ a, FailsSilently (next a)) : FailsSilently (m >>= next) := by
  intro out e
  have hout := hm out
  rw [run_bind]
  split
  next a written h =>
    rw [h] at hout
    subst hout
    exact hnext a written e
  next e' written h =>
    rw [h] at hout
    exact fun _ => hout

theorem Unfailing.bind {m : Run α} {next : α → Run β} (hm : Unfailing m)
    (hnext : ∀ a, Unfailing (next a)) : Unfailing (m >>= next) := by
  intro out
  obtain ⟨a, ha⟩ := hm out
  rw [run_bind]
  split
  next b written h => exact hnext b written
  next e written h =>
    rw [h] at ha
    cases ha

theorem silent_pure (a : α) : Silent (pure a : Run α) :=
  fun _ => rfl

theorem silent_orFail (failure : ε → Failure) (x : Except ε α) : Silent (orFail failure x) := by
  cases x <;> exact fun _ => rfl

theorem unfailing_write (cs : List Char) : Unfailing (write cs) :=
  fun _ => ⟨(), rfl⟩

/-! ## Commands -/

section Commands

variable (env : Environment) (c : Configuration)

/-- Once a form is expanded, whatever is shown of it is written. -/
theorem unfailing_showExpansion (output : OutputOptions) (input : Form) (rule? : Option Rule)
    (e : Expansion) : Unfailing (showExpansion env c output input rule? e) := by
  have hform : Unfailing (if output.json then write (Report.json e.output.toJson)
      else write (Report.form (if output.pretty then some c.width else none) e.output)) := by
    split <;> exact unfailing_write _
  unfold showExpansion
  dsimp only
  by_cases hexplain : output.explain = true
  · rw [if_pos hexplain]
    cases rule? with
    | some rule => exact (unfailing_write _).bind fun _ => hform
    | none => exact hform
  · rwa [if_neg hexplain]

theorem failsSilently_runExpand (rules : String) (form : Option String) (output : OutputOptions) :
    FailsSilently (runExpand env c rules form output) := by
  rw [runExpand]
  refine (silent_orFail _ _).bind fun text => (silent_orFail _ _).bind fun definitions => ?_
  have hshown : ∀ source : String, FailsSilently (do
      let input ← orFail id (formOfText inlineName source)
      let e ← orFail .dispatch (definitions.tryRules input)
      showExpansion env c output input
        ((definitions.rulesFor? input).bind fun r => r.rules[e.index]?) e) :=
    fun source => (silent_orFail _ _).bind fun input => (silent_orFail _ _).bind fun e =>
      (unfailing_showExpansion env c output input _ e).failsSilently
  cases form with
  | some text => exact (silent_pure text).bind hshown
  | none => exact (silent_orFail _ _).bind hshown

theorem failsSilently_runBundle (file : String) (output : OutputOptions) :
    FailsSilently (runBundle env c file output) := by
  rw [runBundle]
  refine (silent_orFail _ _).bind fun text => (silent_orFail _ _).bind fun bundle =>
    (silent_orFail _ _).bind fun parts => (silent_orFail _ _).bind fun e => ?_
  exact (unfailing_showExpansion env c output parts.1 _ e).failsSilently

theorem failsSilently_runMatch (pattern literals form : String) (json : Bool) :
    FailsSilently (runMatch c pattern literals form json) := by
  rw [runMatch]
  refine (silent_orFail _ _).bind fun pattern => (silent_orFail _ _).bind fun literals =>
    (silent_orFail _ _).bind fun form => (silent_orFail _ _).bind fun literals =>
    (silent_orFail _ _).bind fun _ => (silent_orFail _ _).bind fun b => ?_
  exact (unfailing_write _).failsSilently

/-- All forms of a file are read before the first is written. -/
theorem failsSilently_runFormat (file : String) (pretty : Bool) :
    FailsSilently (runFormat env c file pretty) := by
  rw [runFormat]
  refine (silent_orFail _ _).bind fun text => (silent_orFail _ _).bind fun forms => ?_
  rw [forM_write]
  exact (unfailing_write _).failsSilently

end Commands

theorem failsSilently_execute (env : Environment) (i : Invocation) :
    FailsSilently (execute env i) := by
  rw [execute]
  refine (silent_orFail _ _).bind fun c => ?_
  cases i.command with
  | expand rules form output => exact failsSilently_runExpand env c rules form output
  | run file output => exact failsSilently_runBundle env c file output
  | matching pattern literals form json => exact failsSilently_runMatch c pattern literals form json
  | fmt file pretty => exact failsSilently_runFormat env c file pretty

/-! ## Outcomes -/

section Outcomes

variable {env : Environment} {i : Invocation}

theorem stdout_of_error {e : Failure} (h : (outcome env i).result = .error e) :
    (outcome env i).stdout = [] :=
  failsSilently_execute env i [] e h

/-- A file that is out of balance anywhere is not formatted. -/
theorem exists_outcome_fmt_eq {file text : String} {pretty : Bool}
    (command : i.command = .fmt file pretty) (hfile : env.file? file = some text)
    (hbalanced : ¬ Reader.Balanced text.toList) : ∃ e, outcome env i = ⟨[], .error e⟩ := by
  cases hresolved : resolveConfiguration env i.overrides with
  | error e =>
    refine ⟨e, outcome_of_throw ?_⟩
    rw [execute, hresolved, orFail_error_bind, id]
  | ok c =>
    refine ⟨.reading file (Reader.refusal text.toList), outcome_of_throw ?_⟩
    rw [execute, hresolved, orFail_ok_bind, command]
    change runFormat env c file pretty = _
    rw [runFormat, readFile, hfile, orFail_ok_bind, Reader.read_of_not_balanced hbalanced,
      orFail_error_bind]

/-- A form that the rules of a file do not expand is not explained. -/
theorem outcome_expand_of_error {c : Configuration} {rules text source : String}
    {form : Option String} {output : OutputOptions} {definitions : Definitions} {input : Form}
    {error : DispatchError} (resolved : resolveConfiguration env i.overrides = .ok c)
    (command : i.command = .expand rules form output) (hfile : env.file? rules = some text)
    (hdefinitions : definitionsOfText c.toMatchSettings rules text = .ok definitions)
    (hsource : form = some source ∨ form = none ∧ env.stdin? = some source)
    (hinput : Reader.readOne source = .ok input)
    (herror : definitions.tryRules input = .error error) :
    outcome env i = ⟨[], .error (.dispatch error)⟩ := by
  have hform : formOfText inlineName source = .ok input := by
    rw [formOfText, hinput]
    rfl
  apply outcome_of_throw
  rw [execute, resolved, orFail_ok_bind, command]
  change runExpand env c rules form output = _
  rw [runExpand, readFile, hfile, orFail_ok_bind, hdefinitions, orFail_ok_bind]
  obtain rfl | ⟨rfl, hstdin⟩ := hsource
  · simp only [pure_bind, hform, orFail_ok_bind, herror, orFail_error_bind]
  · simp only [readStdin, hstdin, hform, orFail_ok_bind, herror, orFail_error_bind]

/-- **Failing invocations print nothing.** If an invocation fails, for whatever reason, nothing has
been written on standard output. So nothing is printed of a file to be formatted that is out of
balance anywhere, and no explanation of an expansion that fails. -/
theorem stdout_eq_nil_of_error (env : Environment) (i : Invocation) :
    (∀ e, (outcome env i).result = .error e → (outcome env i).stdout = []) ∧
    (∀ (file text : String) (pretty : Bool), i.command = .fmt file pretty →
      env.file? file = some text → ¬ Reader.Balanced text.toList →
        ∃ e, outcome env i = ⟨[], .error e⟩) ∧
    ∀ (c : Configuration) (rules text source : String) (form : Option String)
      (output : OutputOptions) (definitions : Definitions) (input : Form) (error : DispatchError),
      resolveConfiguration env i.overrides = .ok c → i.command = .expand rules form output →
      env.file? rules = some text →
      definitionsOfText c.toMatchSettings rules text = .ok definitions →
      (form = some source ∨ form = none ∧ env.stdin? = some source) →
      Reader.readOne source = .ok input → definitions.tryRules input = .error error →
        outcome env i = ⟨[], .error (.dispatch error)⟩ :=
  ⟨fun _ => stdout_of_error, fun _ _ _ => exists_outcome_fmt_eq,
    fun _ _ _ _ _ _ _ _ _ => outcome_expand_of_error⟩

end Outcomes

/-- A file whose second form is not closed, and the explanation of a rule that needs an argument on
a form without any. -/
theorem stdout_eq_nil_of_error_explain :
    let file? : String → Option String := fun path =>
      if path = "forms" then some "(a)\n(b"
      else if path = "rules" then some "(syntax-rules () ((put x ...) (got x)))"
      else none
    let env : Environment := ⟨file?, some "(put)", false⟩
    let formatting : Invocation := ⟨0, {}, .fmt "forms" true⟩
    let expanding : Invocation := ⟨0, {}, .expand "rules" none { explain := true }⟩
    let error : DispatchError := .template 0 (.emptyCapture "x")
    ¬ Reader.Balanced "(a)\n(b".toList ∧ (∃ e, outcome env formatting = ⟨[], .error e⟩) ∧
      outcome env expanding = ⟨[], .error (.dispatch error)⟩ ∧
      (outcome env expanding).result = .error (.dispatch error) ∧
      (outcome env expanding).stdout = [] := by
  intro file? env formatting expanding error
  let form : Form := .list [.atom "syntax-rules", .list [], .list [.list [.atom "put", .atom "x",
    .atom "..."], .list [.atom "got", .atom "x"]]]
  let rules : RuleSet := ⟨.empty, [⟨.list [.atom "put", .atom "x", .atom "..."],
    .list [.atom "got", .atom "x"]⟩], {}⟩
  have hbalanced : ¬ Reader.Balanced "(a)\n(b".toList := by
    rw [← Reader.findFault_eq_none_iff]
    decide +kernel
  have hforms : env.file? "forms" = some "(a)\n(b" := by simp [env, file?]
  have hrules : env.file? "rules" = some "(syntax-rules () ((put x ...) (got x)))" := by
    simp [env, file?]
  have resolved : resolveConfiguration env expanding.overrides = .ok {} := by
    let c : Configuration := {}
    have valid : c.validate = .ok () := by
      have marker : Configuration.isMarker "..." = true := by decide
      simp [c, Configuration.validate, marker]
    change (c.validate.mapError Failure.configuration >>= fun _ => .ok c) = .ok c
    rw [valid]
    rfl
  have hread : Reader.read "(syntax-rules () ((put x ...) (got x)))" = .ok [form] := by
    decide +kernel
  have hloaded : Definitions.ofForms {} [form] = .ok (.single rules) := by decide +kernel
  have hdefinitions : definitionsOfText {} "rules" "(syntax-rules () ((put x ...) (got x)))" =
      .ok (.single rules) := by
    rw [definitionsOfText, hread]
    change (Definitions.ofForms {} [form]).mapError Failure.definition = _
    rw [hloaded]
    rfl
  have hinput : Reader.readOne "(put)" = .ok (.list [.atom "put"]) := by decide +kernel
  have herror : (Definitions.single rules).tryRules (.list [.atom "put"]) = .error error := by
    decide +kernel
  obtain ⟨hnothing, -, hexpand⟩ := stdout_eq_nil_of_error env expanding
  have hfails := hexpand {} "rules" _ "(put)" none _ _ _ error resolved rfl hrules hdefinitions
    (.inr ⟨rfl, rfl⟩) hinput herror
  have hresult : (outcome env expanding).result = .error (.dispatch error) := by rw [hfails]
  exact ⟨hbalanced, (stdout_eq_nil_of_error env formatting).2.1 _ _ _ rfl hforms hbalanced, hfails,
    hresult, hnothing _ hresult⟩

end MacroByExample.CommandLine
