import MacroByExample.Proofs.CommandLine.Run
import MacroByExample.Proofs.Reader.Writing
import MacroByExample.Proofs.Rules.Firing
import MacroByExample.Proofs.Rules.Loading

/-!
# Ways to supply rules

A form and the rules to expand it come from one file, as a bundle, or the form comes from the command
line or standard input and the rules from a file that holds one rule set, without a name or under
the name that the form calls. All three build the rule set from the same literals and clauses, try
the form by it and look the rule that fired up in it, so they print the same and end alike.

* `applyRules`: what all three come down to.
* `Definitions.Delegates`: definitions that leave a form to one rule set.
* `runBundle_eq_applyRules`, `runExpand_eq_applyRules`: a bundle, and a file of definitions.
* `outcome_run_eq_of_delegates`: texts that agree, however they are written.
* `outcome_run_eq_outcome_expand`: the three ways agree.
-/

namespace MacroByExample

/-! ## Definitions of one rule set -/

section Definitions

variable {s : MatchSettings} {literals : Form} {clauses : List Form}

namespace Definitions

/-- The definitions leave a form to a rule set. -/
structure Delegates (d : Definitions) (form : Form) (rules : RuleSet) : Prop where
  tryRules_eq : d.tryRules form = rules.tryRules form
  rulesFor?_eq : d.rulesFor? form = some rules

theorem ofForms_rulesForm :
    ofForms s [rulesForm literals clauses] = (RuleSet.build s literals clauses).map .single := by
  have hhead : (rulesForm literals clauses).headToken? = some rulesKeyword := rfl
  rw [ofForms, if_pos hhead, ofForm_rulesForm]

theorem delegates_single (form : Form) (rules : RuleSet) : (single rules).Delegates form rules :=
  ⟨rfl, rfl⟩

theorem ofForms_definitionForm (name : String) :
    ofForms s [definitionForm name literals clauses] =
      (RuleSet.build s literals clauses).map fun rules =>
        .table (MacroTable.empty.register name rules) := by
  have hhead : (definitionForm name literals clauses).headToken? ≠ some rulesKeyword := by
    change some definitionKeyword ≠ some rulesKeyword
    decide
  rw [ofForms, if_neg hhead, addDefinitions, definitionForm, definitionOfForm, if_pos rfl,
    ofForm_rulesForm]
  cases RuleSet.build s literals clauses <;> rfl

/-- A table of one name leaves the forms that call the name to its rules. -/
theorem delegates_table (name : String) (arguments : List Form) (rules : RuleSet) :
    (table (MacroTable.empty.register name rules)).Delegates (.list (.atom name :: arguments))
      rules := by
  have hget : (MacroTable.empty.register name rules).get? name = some rules := by
    rw [MacroTable.get?_register, if_pos rfl]
  have hcalled : (Form.list (.atom name :: arguments)).headToken? = some name := rfl
  constructor
  · simp only [Definitions.tryRules, MacroTable.tryRules, hcalled, hget]
  · exact hget

end Definitions

/-! ## Definitions as texts -/

theorem isToken_rulesKeyword : Reader.IsToken rulesKeyword := by decide +kernel

theorem isToken_definitionKeyword : Reader.IsToken definitionKeyword := by decide +kernel

theorem readable_rulesForm (h : ∀ f ∈ literals :: clauses, ∀ t ∈ f.atoms, Reader.IsToken t) :
    Reader.Readable (rulesForm literals clauses) := by
  apply Reader.readable_list
  intro f hf
  obtain rfl | hf := List.mem_cons.mp hf
  · simpa using isToken_rulesKeyword
  · exact h f hf

theorem readable_definitionForm {name : String} (hname : Reader.IsToken name)
    (h : ∀ f ∈ literals :: clauses, ∀ t ∈ f.atoms, Reader.IsToken t) :
    Reader.Readable (definitionForm name literals clauses) := by
  apply Reader.readable_list
  simp only [List.forall_mem_cons, Form.atoms_atom, List.mem_singleton, forall_eq]
  exact ⟨isToken_definitionKeyword, hname, (readable_rulesForm h).isToken⟩

end Definitions

namespace CommandLine

/-! ## Commands that apply rules -/

section Commands

variable {env : Environment} {c : Configuration} {output : OutputOptions} {input literals : Form}
  {clauses : List Form}

/-- Expands a form by rules, if they could be loaded. -/
def applyRules (env : Environment) (c : Configuration) (output : OutputOptions) (input : Form)
    (loaded : Except DefinitionError RuleSet) : Run Unit := do
  let rules ← orFail .definition loaded
  let e ← orFail .dispatch (rules.tryRules input)
  showExpansion env c output input rules.rules[e.index]? e

/-- Running a bundle applies the rules that stand behind its form. -/
theorem runBundle_eq_applyRules {file text : String} (hfile : env.file? file = some text)
    (hread : Reader.readOne text = .ok (.list (input :: literals :: clauses))) :
    runBundle env c file output =
      applyRules env c output input (RuleSet.build c.toMatchSettings literals clauses) := by
  rw [runBundle, readFile, hfile, orFail_ok_bind, formOfText, orFail_mapError, hread,
    orFail_ok_bind, bundleOfForm_list, orFail_map_bind, applyRules]

/-- Expanding a form by a file whose definitions leave the form to one rule set applies that set. -/
theorem runExpand_eq_applyRules {rules text source : String} {form : Option String}
    {forms : List Form} {loaded : Except DefinitionError RuleSet} {define : RuleSet → Definitions}
    (hfile : env.file? rules = some text) (hread : Reader.read text = .ok forms)
    (hloaded : Definitions.ofForms c.toMatchSettings forms = loaded.map define)
    (hdelegates : ∀ r, (define r).Delegates input r)
    (hsource : form = some source ∨ form = none ∧ env.stdin? = some source)
    (hinput : Reader.readOne source = .ok input) :
    runExpand env c rules form output = applyRules env c output input loaded := by
  have hdefinitions : definitionsOfText c.toMatchSettings rules text =
      (loaded.map define).mapError .definition := by
    rw [definitionsOfText, hread, ← hloaded]
    rfl
  rw [runExpand, readFile, hfile, orFail_ok_bind, hdefinitions, orFail_mapError, orFail_map_bind,
    applyRules]
  congr 1
  funext r
  have hform : formOfText inlineName source = .ok input := by
    rw [formOfText, hinput]
    rfl
  -- from here on only the step that finds the text of the form differs
  obtain rfl | ⟨rfl, hstdin⟩ := hsource
  · simp only [pure_bind, hform, orFail_ok_bind, (hdelegates r).tryRules_eq,
      (hdelegates r).rulesFor?_eq, Option.bind_some]
  · simp only [readStdin, hstdin, hform, orFail_ok_bind, (hdelegates r).tryRules_eq,
      (hdelegates r).rulesFor?_eq, Option.bind_some]

/-- Running a bundle ends like expanding its form by a text of one definition that makes the same
literals and clauses a rule set and leaves the form to it. -/
theorem outcome_run_eq_of_delegates (v v' : Nat) (o : Overrides)
    {bundle rules bundleText rulesText source : String} {form : Option String} {definition : Form}
    {define : RuleSet → Definitions} (hbundle : env.file? bundle = some bundleText)
    (hread : Reader.readOne bundleText = .ok (.list (input :: literals :: clauses)))
    (hrules : env.file? rules = some rulesText)
    (hdefinition : Reader.readOne rulesText = .ok definition)
    (hloaded : ∀ s, Definitions.ofForms s [definition] =
      (RuleSet.build s literals clauses).map define)
    (hdelegates : ∀ r, (define r).Delegates input r)
    (hsource : form = some source ∨ form = none ∧ env.stdin? = some source)
    (hinput : Reader.readOne source = .ok input) :
    outcome env ⟨v, o, .run bundle output⟩ = outcome env ⟨v', o, .expand rules form output⟩ := by
  have hcommands : ∀ c, runBundle env c bundle output = runExpand env c rules form output := by
    intro c
    rw [runBundle_eq_applyRules hbundle hread, runExpand_eq_applyRules hrules
      (Reader.readOne_eq_ok_iff.mp hdefinition) (hloaded _) hdelegates hsource hinput]
  have hexecute : execute env ⟨v, o, .run bundle output⟩ =
      execute env ⟨v', o, .expand rules form output⟩ := by
    simp only [execute, hcommands]
  rw [outcome, outcome, hexecute]

/-- **The ways to supply rules agree.** Let the tokens of a form, of literals and of clauses be
tokens that can stand in a text, and let the form be no atom that makes a text blank. Running the
bundle of all of them and expanding the form, from the command line or standard input, by a file
that holds the rule set of the literals and clauses print the same and end in the same success or
error, whatever the settings and output options. If the form calls a name, a file that defines the
name as the rule set serves as well. -/
theorem outcome_run_eq_outcome_expand (v v' : Nat) (o : Overrides) (output : OutputOptions)
    {bundle : String} {form : Option String} (hinput : Reader.Readable input)
    (htokens : ∀ f ∈ literals :: clauses, ∀ t ∈ f.atoms, Reader.IsToken t)
    (hbundle : env.file? bundle = some (Form.list (input :: literals :: clauses)).text)
    (hsource : form = some input.text ∨ form = none ∧ env.stdin? = some input.text) :
    (∀ rules : String, env.file? rules = some (rulesForm literals clauses).text →
      outcome env ⟨v, o, .run bundle output⟩ = outcome env ⟨v', o, .expand rules form output⟩) ∧
    ∀ (rules name : String) (arguments : List Form), input = .list (.atom name :: arguments) →
      env.file? rules = some (definitionForm name literals clauses).text →
        outcome env ⟨v, o, .run bundle output⟩ =
          outcome env ⟨v', o, .expand rules form output⟩ := by
  have hread : Reader.readOne (Form.list (input :: literals :: clauses)).text =
      .ok (.list (input :: literals :: clauses)) :=
    Reader.readOne_text (Reader.readable_list (List.forall_mem_cons.mpr ⟨hinput.isToken, htokens⟩))
  have hform := Reader.readOne_text hinput
  constructor
  · intro rules hrules
    have hdefinition := Reader.readOne_text (readable_rulesForm htokens)
    exact outcome_run_eq_of_delegates v v' o hbundle hread hrules hdefinition
      (fun _ => Definitions.ofForms_rulesForm) (Definitions.delegates_single input) hsource hform
  · rintro rules name arguments rfl hrules
    have hname : Reader.IsToken name := hinput.isToken name (by simp)
    have hdefinition := Reader.readOne_text (readable_definitionForm hname htokens)
    exact outcome_run_eq_of_delegates v v' o hbundle hread hrules hdefinition
      (fun _ => Definitions.ofForms_definitionForm name)
      (Definitions.delegates_table name arguments) hsource hform

end Commands

/-- A form on standard input that calls a macro of one clause, explained and broken within eight
columns, with what is printed. -/
theorem outcome_run_eq_outcome_expand_swap :
    let input : Form := .list [.atom "swap", .atom "a", .atom "b"]
    let literals : Form := .list []
    let clauses : List Form := [.list [.list [.atom "swap", .atom "x", .atom "y"],
      .list [.atom "let", .atom "y", .atom "x"]]]
    let file? : String → Option String := fun path =>
      if path = "bundle" then some (Form.list (input :: literals :: clauses)).text
      else if path = "rules" then some (rulesForm literals clauses).text
      else if path = "table" then some (definitionForm "swap" literals clauses).text
      else none
    let env : Environment := ⟨file?, some input.text, false⟩
    let o : Overrides := { lenient := true, width := some 8 }
    let output : OutputOptions := { explain := true, pretty := true }
    let bundled : Outcome := outcome env ⟨0, o, .run "bundle" output⟩
    Reader.Readable input ∧ (∀ f ∈ literals :: clauses, ∀ t ∈ f.atoms, Reader.IsToken t) ∧
      bundled = outcome env ⟨1, o, .expand "rules" none output⟩ ∧
      bundled = outcome env ⟨1, o, .expand "table" none output⟩ ∧
      bundled.stdout =
        ("--- rule 0: (swap x y) ---\nswap = swap\nx = a\ny = b\n\n" ++
          "-(swap\n- a\n- b)\n+(let\n+ b\n+ a)\n(let\n b\n a)\n").toList := by
  intro input literals clauses file? env o output bundled
  have hinput : Reader.Readable input := ⟨by decide +kernel, nofun⟩
  have htokens : ∀ f ∈ literals :: clauses, ∀ t ∈ f.atoms, Reader.IsToken t := by decide +kernel
  have hbundle : env.file? "bundle" = some (Form.list (input :: literals :: clauses)).text := by
    simp [env, file?]
  have hrules : env.file? "rules" = some (rulesForm literals clauses).text := by
    simp [env, file?]
  have htable : env.file? "table" = some (definitionForm "swap" literals clauses).text := by
    simp [env, file?]
  have hagree := outcome_run_eq_outcome_expand 0 1 o output hinput htokens hbundle
    (.inr ⟨rfl, rfl⟩)
  exact ⟨hinput, htokens, hagree.1 "rules" hrules, hagree.2 "table" "swap" _ rfl htable,
    by decide +kernel⟩

end CommandLine

end MacroByExample
