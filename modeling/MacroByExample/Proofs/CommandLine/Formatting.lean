import MacroByExample.Proofs.CommandLine.Run
import MacroByExample.Proofs.Reader.BlankText
import MacroByExample.Proofs.Reader.Writing

/-!
# Formatting

Formatting a file writes each of its forms anew, flat or within a number of columns, and ends it with
a line feed. What is written is read as the same forms. This needs the tokens of the forms to be
written so that they stay apart, and it needs the file to be blank exactly when what is written is:
a text of blank characters is read as no forms, whatever the grammar finds in it.

* `Report.forms`: what formatting writes.
* `readsAllAs_forms`, `read_forms`: reading what was written.
* `runFormat_eq_write`, `outcome_fmt`: formatting as one step of writing.
* `outcome_fmt_stable`: formatting keeps the forms of a file, and formatting again changes nothing.
-/

namespace MacroByExample

/-- The forms of a file as they are written, each on lines of its own. -/
def Report.forms (width : Option Nat) (fs : List Form) : List Char :=
  fs.flatMap (Report.form width)

namespace Reader

/-! ## Reading what was written -/

/-- A form as it is written, up to the line feed behind it. -/
theorem exists_readsAs_form (width : Option Nat) {f : Form} (h : ∀ t ∈ f.atoms, IsToken t) :
    ∃ cs, ReadsAs f cs ∧ Report.form width f = cs ++ ['\n'] := by
  cases width with
  | none => exact ⟨f.chars, readsAs_chars h, rfl⟩
  | some width => exact ⟨f.layoutChars width 0, readsAs_layoutChars h width 0, rfl⟩

theorem readsAllAs_forms (width : Option Nat) {fs : List Form}
    (h : ∀ f ∈ fs, ∀ t ∈ f.atoms, IsToken t) : ReadsAllAs fs (Report.forms width fs) := by
  induction fs with
  | nil => exact readsAllAs_nil
  | cons f fs ih =>
    obtain ⟨cs, hcs, hform⟩ := exists_readsAs_form width (h f List.mem_cons_self)
    have hrest := ih fun g hg => h g (List.mem_cons_of_mem f hg)
    rw [Report.forms, List.flatMap_cons, hform]
    exact readsAllAs_cons hcs (List.cons_ne_nil _ _) (by simp [isSeparator]) hrest

/-- The forms of a text are read again when they are written. -/
theorem read_forms (width : Option Nat) {text : String} {fs : List Form}
    (h : read text = .ok fs) : read (String.ofList (Report.forms width fs)) = .ok fs := by
  cases hblank : Text.isBlankText text.toList with
  | true =>
    rw [read_of_blank hblank] at h
    cases h
    rfl
  | false =>
    have hbalanced := exists_read_iff.mp ⟨fs, h⟩
    have hwritten := readsAllAs_forms width (isToken_of_read h)
    obtain ⟨hforms, hleft⟩ := hwritten.forms_leftover
    rw [read_of_balanced hblank hbalanced] at h
    -- both texts hold the same forms, so both or none of them are blank
    have hsame : Text.isBlankText (Report.forms width fs) = false := by
      rw [isBlankText_eq_all hleft hforms, ← isBlankText_eq_all (leftover_eq_nil_iff.mpr hbalanced) h,
        hblank]
    rw [← String.toList_ofList (l := Report.forms width fs)] at hsame hwritten
    exact read_of_readsAllAs hsame hwritten

end Reader

namespace CommandLine

/-! ## The command -/

section Formatting

variable {env : Environment} {c : Configuration} {file text : String} {pretty : Bool}
  {fs : List Form}

/-- Formatting a file whose text can be read is writing its forms. -/
theorem runFormat_eq_write (hfile : env.file? file = some text) (hread : Reader.read text = .ok fs) :
    runFormat env c file pretty =
      write (Report.forms (if pretty then some c.width else none) fs) := by
  rw [runFormat, readFile, hfile, orFail_ok_bind, hread, orFail_ok_bind, forM_write, Report.forms]

theorem outcome_fmt {i : Invocation} (resolved : resolveConfiguration env i.overrides = .ok c)
    (command : i.command = .fmt file pretty) (hfile : env.file? file = some text)
    (hread : Reader.read text = .ok fs) :
    outcome env i = ⟨Report.forms (if pretty then some c.width else none) fs, .ok ()⟩ := by
  apply outcome_of_write
  rw [execute, resolved, orFail_ok_bind, command]
  exact runFormat_eq_write hfile hread

/-- **Formatting keeps the forms and is stable.** Formatting a file that can be read succeeds,
whatever the width, and what is printed is read as the same forms. Formatting with the same options
a file with that text prints the text unchanged. -/
theorem outcome_fmt_stable {i : Invocation}
    (resolved : resolveConfiguration env i.overrides = .ok c)
    (command : i.command = .fmt file pretty) (hfile : env.file? file = some text)
    (hread : Reader.read text = .ok fs) :
    ∃ printed : String, outcome env i = ⟨printed.toList, .ok ()⟩ ∧
      Reader.read printed = .ok fs ∧
      ∀ (env' : Environment) (i' : Invocation) (file' : String),
        resolveConfiguration env' i'.overrides = .ok c → i'.command = .fmt file' pretty →
          env'.file? file' = some printed → outcome env' i' = ⟨printed.toList, .ok ()⟩ := by
  let width : Option Nat := if pretty then some c.width else none
  have hprinted : Reader.read (String.ofList (Report.forms width fs)) = .ok fs :=
    Reader.read_forms width hread
  refine ⟨String.ofList (Report.forms width fs), ?_, hprinted, ?_⟩
  · rw [String.toList_ofList]
    exact outcome_fmt resolved command hfile hread
  · intro env' i' file' resolved' command' hfile'
    rw [String.toList_ofList]
    exact outcome_fmt resolved' command' hfile' hprinted

end Formatting

/-- A file with three kinds of brackets and an atom of a blank character, formatted within eight
columns, and what was printed formatted again. -/
theorem outcome_fmt_stable_let :
    let text : String := "[let \x7b(x 1)\x7d]\t\u00A0 (body\r\n)"
    let env : Environment := ⟨fun path => if path = "forms" then some text else none, none, false⟩
    let i : Invocation := ⟨0, { width := some 8 }, .fmt "forms" true⟩
    let c : Configuration := { width := 8 }
    let fs : List Form := [.list [.atom "let", .list [.list [.atom "x", .atom "1"]]],
      .atom "\u00A0", .list [.atom "body"]]
    resolveConfiguration env i.overrides = .ok c ∧ env.file? "forms" = some text ∧
      Reader.read text = .ok fs ∧
      ∃ printed : String, outcome env i = ⟨printed.toList, .ok ()⟩ ∧
        Reader.read printed = .ok fs ∧
        outcome { env with file? := fun _ => some printed } i = ⟨printed.toList, .ok ()⟩ := by
  intro text env i c fs
  have valid : c.validate = .ok () := by
    have marker : Configuration.isMarker "..." = true := by decide
    simp [c, Configuration.validate, marker]
  -- without a configuration file the environment does not matter
  have resolved : ∀ env, resolveConfiguration env i.overrides = .ok c := fun env => by
    change (c.validate.mapError Failure.configuration >>= fun _ => .ok c) = .ok c
    rw [valid]
    rfl
  have hfile : env.file? "forms" = some text := by simp [env]
  have hread : Reader.read text = .ok fs := by decide +kernel
  obtain ⟨printed, first, hprinted, again⟩ := outcome_fmt_stable (resolved env) rfl hfile hread
  let env' : Environment := { env with file? := fun _ => some printed }
  exact ⟨resolved env, hfile, hread, printed, first, hprinted,
    again env' i "forms" (resolved env') rfl rfl⟩

end CommandLine

end MacroByExample
