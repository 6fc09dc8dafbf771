import MacroByExample.Proofs.Form.LayoutLines
import MacroByExample.Proofs.Rules.Provenance
import MacroByExample.Report

/-!
# What printed bindings say

Bindings are printed one variable on a line. The line is the flat text of forms side by side: the
variable, the mark of a repeated variable, an equality sign and the captured forms. Where variables
and captures are made of tokens, no line is broken by a line feed and each is read back as its
forms. The second of them is the mark if the variable is repeated and the equality sign if not, so
even variables and captures that look like one of the two cause no doubt.

* `Bindings.lineForms`, `Bindings.mapM_forms_lineChars`: the forms of a line.
* `Bindings.Legible`: bindings that are made of tokens and mark bound variables only.
* `Report.bindingsLines`, `Report.bindings_eq_joinLines`: the printed lines.
* `legible_of_matchRule`: what a match of forms that are made of tokens binds.
* `Report.bindings_determined`: the text determines the bindings.
-/

namespace MacroByExample

open Reader (IsToken Piece)

theorem Form.charsOfItems_cons (f : Form) (rest : List Form) :
    charsOfItems (f :: rest) = f.chars ++ rest.flatMap fun g => ' ' :: g.chars := by
  induction rest generalizing f with
  | nil => simp [charsOfItems]
  | cons g rest ih => rw [charsOfItems, ih, List.flatMap_cons, List.cons_append]

namespace Bindings

/-! ## One line -/

/-- The forms that the line of a variable consists of. -/
def lineForms (repeated : Bool) (var : String) (forms : List Form) : List Form :=
  .atom var :: ((if repeated then [.atom "..."] else []) ++ .atom "=" :: forms)

theorem lineChars_eq_charsOfItems (repeated : Bool) (var : String) (forms : List Form) :
    lineChars repeated var forms = Form.charsOfItems (lineForms repeated var forms) := by
  cases repeated <;> simp [lineChars, lineForms, Form.charsOfItems_cons]

/-- The forms of a line determine its variable, its mark and its captures. -/
theorem lineForms_inj {repeated repeated' : Bool} {var var' : String} {forms forms' : List Form}
    (h : lineForms repeated var forms = lineForms repeated' var' forms') :
    repeated = repeated' ∧ var = var' ∧ forms = forms' := by
  -- a mark never takes the place of the equality sign
  have hne : "..." ≠ "=" := by decide
  cases repeated <;> cases repeated' <;> simp_all [lineForms]

section Line

variable {repeated : Bool} {var : String} {forms : List Form}

theorem isToken_of_mem_lineForms (hvar : IsToken var)
    (hforms : ∀ f ∈ forms, ∀ t ∈ f.atoms, IsToken t) :
    ∀ f ∈ lineForms repeated var forms, ∀ t ∈ f.atoms, IsToken t := by
  have hatom : ∀ {u : String}, IsToken u → ∀ t ∈ (Form.atom u).atoms, IsToken t :=
    fun hu t ht => List.mem_singleton.mp ht ▸ hu
  have hmark : ∀ f ∈ (if repeated then [Form.atom "..."] else []), ∀ t ∈ f.atoms, IsToken t := by
    cases repeated with
    | false => nofun
    | true => exact List.forall_mem_singleton.mpr (hatom (by decide))
  rw [lineForms]
  simp only [List.forall_mem_cons, List.forall_mem_append]
  exact ⟨hatom hvar, hmark, hatom (by decide), hforms⟩

/-- A line is read back as the forms it consists of. -/
theorem mapM_forms_lineChars (hvar : IsToken var)
    (hforms : ∀ f ∈ forms, ∀ t ∈ f.atoms, IsToken t) :
    (Reader.forms (lineChars repeated var forms)).1.mapM Piece.form =
      .ok (lineForms repeated var forms) := by
  rw [lineChars_eq_charsOfItems, Form.charsOfItems_eq_intercalate]
  refine (Reader.readsAllAs_intercalate (List.cons_ne_nil _ _) (by simp [Reader.isSeparator])
    fun f hf => ?_).forms_leftover.1
  exact Reader.readsAs_chars (isToken_of_mem_lineForms hvar hforms f hf)

theorem lineFeed_notMem_lineChars (hvar : IsToken var)
    (hforms : ∀ f ∈ forms, ∀ t ∈ f.atoms, IsToken t) :
    '\n' ∉ lineChars repeated var forms := by
  rw [lineChars_eq_charsOfItems]
  intro hfeed
  rcases mem_charsOfItems hfeed with hspace | ⟨f, hf, hfeed⟩
  · cases hspace
  · rcases mem_chars hfeed with hplain | ⟨t, ht, hfeed⟩
    · exact absurd hplain (by decide)
    · have htoken := isToken_of_mem_lineForms hvar hforms f hf t ht
      exact htoken.notMem_reservedChars '\n' hfeed (by decide)

end Line

/-! ## All lines -/

/-- The bindings are made of tokens, and only bound variables are marked. -/
structure Legible (b : Bindings) : Prop where
  isToken_var : ∀ var ∈ b.domain, IsToken var
  isToken_captured : ∀ var ∈ b.domain, ∀ f ∈ b.captured var, ∀ t ∈ f.atoms, IsToken t
  marked_mem : ∀ var ∈ b.repeated.toList, var ∈ b.domain

instance (b : Bindings) : Decidable b.Legible :=
  decidable_of_iff ((∀ var ∈ b.domain, IsToken var) ∧
    (∀ var ∈ b.domain, ∀ f ∈ b.captured var, ∀ t ∈ f.atoms, IsToken t) ∧
    ∀ var ∈ b.repeated.toList, var ∈ b.domain)
    ⟨fun h => ⟨h.1, h.2.1, h.2.2⟩,
      fun h => ⟨h.isToken_var, h.isToken_captured, h.marked_mem⟩⟩

/-- What is printed of the variables: whether each is repeated, its name and its captures. -/
def rows (b : Bindings) : List (Bool × String × List Form) :=
  b.captures.entries.map fun e => (b.repeated.contains e.1, e)

/-- The characters of a row. -/
def rowChars (row : Bool × String × List Form) : List Char :=
  lineChars row.1 row.2.1 row.2.2

/-- The rows of legible bindings are made of tokens. -/
theorem Legible.isToken_of_mem_rows {b : Bindings} (h : b.Legible)
    {row : Bool × String × List Form} (hrow : row ∈ b.rows) :
    IsToken row.2.1 ∧ ∀ f ∈ row.2.2, ∀ t ∈ f.atoms, IsToken t := by
  obtain ⟨e, he, rfl⟩ := List.mem_map.mp hrow
  have hdomain : e.1 ∈ b.domain := List.mem_map_of_mem he
  have hcaptured : b.captured e.1 = e.2 :=
    captured_of_get? (TokenMap.get?_of_mem_entries he)
  refine ⟨h.isToken_var _ hdomain, ?_⟩
  rw [← hcaptured]
  exact h.isToken_captured _ hdomain

/-- The lines of legible bindings are read back as the forms they consist of. -/
theorem Legible.mapM_forms_rowChars {b : Bindings} (h : b.Legible) :
    ∀ row ∈ b.rows, (Reader.forms (rowChars row)).1.mapM Piece.form =
      .ok (lineForms row.1 row.2.1 row.2.2) := by
  intro row hrow
  obtain ⟨hvar, hforms⟩ := h.isToken_of_mem_rows hrow
  exact mapM_forms_lineChars hvar hforms

theorem rows_of_isEmpty {b : Bindings} (h : b.isEmpty = true) : b.rows = [] := by
  rw [isEmpty, TokenMap.isEmpty, List.isEmpty_iff] at h
  rw [rows, h, List.map_nil]

/-- Bindings that mark bound variables only are determined by their rows. -/
theorem eq_of_rows {b c : Bindings} (hb : b.Legible) (hc : c.Legible) (h : b.rows = c.rows) :
    b = c := by
  have hentries : b.captures.entries = c.captures.entries := by
    have hsnd := congrArg (List.map Prod.snd) h
    simpa [rows, Function.comp_def] using hsnd
  have hcaptures : b.captures = c.captures :=
    TokenMap.ext_get? fun var => by rw [TokenMap.get?, hentries, TokenMap.get?]
  have hdomain : b.domain = c.domain := by rw [domain, hcaptures, domain]
  have hmarks : ∀ var ∈ b.domain, b.isRepeated var = c.isRepeated var := by
    intro var hvar
    obtain ⟨e, he, rfl⟩ := List.mem_map.mp hvar
    rw [rows, rows, ← hentries, List.map_inj_left] at h
    exact congrArg Prod.fst (h e he)
  refine ext_get? (fun var => by rw [get?, hcaptures, get?]) fun var => ?_
  by_cases hvar : var ∈ b.domain
  · exact hmarks var hvar
  · have hunmarked : ∀ d : Bindings, d.Legible → d.domain = b.domain → d.isRepeated var = false :=
      fun d hd heq => Bool.eq_false_iff.mpr fun hmarked =>
        hvar (heq ▸ hd.marked_mem var (TokenSet.mem_toList_iff.mpr hmarked))
    rw [hunmarked b hb rfl, hunmarked c hc hdomain.symm]

end Bindings

namespace Report

open Bindings (rowChars)

/-- The lines that are printed of bindings. -/
def bindingsLines (b : Bindings) : List (List Char) :=
  if b.isEmpty then ["(no bindings)".toList] else b.rows.map rowChars

theorem charsOfEntries_eq_joinLines (repeated : TokenSet) (entries : List (String × List Form)) :
    Bindings.charsOfEntries repeated entries =
      Text.joinLines (entries.map fun e => rowChars (repeated.contains e.1, e)) := by
  match entries with
  | [] => rfl
  | [e] => rfl
  | e :: e' :: rest =>
    rw [Bindings.charsOfEntries, charsOfEntries_eq_joinLines repeated (e' :: rest)]
    rfl

theorem bindings_eq_joinLines (b : Bindings) :
    bindings b = Text.joinLines (bindingsLines b) ++ ['\n'] := by
  rw [bindings, bindingsLines]
  split
  · rfl
  · rw [Bindings.text, String.toList_ofList, charsOfEntries_eq_joinLines, Bindings.rows,
      List.map_map]
    rfl

theorem splitLines_joinLines_bindingsLines {b : Bindings} (h : b.Legible) :
    Text.splitLines (Text.joinLines (bindingsLines b)) = bindingsLines b := by
  refine Text.splitLines_joinLines ?_ fun line hline => ?_
  · rw [bindingsLines]
    split
    · exact List.cons_ne_nil _ _
    · next hempty => simpa [Bindings.rows, Bindings.isEmpty, TokenMap.isEmpty] using hempty
  · rw [bindingsLines] at hline
    split at hline
    · rw [List.mem_singleton.mp hline]
      decide
    · obtain ⟨row, hrow, rfl⟩ := List.mem_map.mp hline
      obtain ⟨hvar, hforms⟩ := h.isToken_of_mem_rows hrow
      exact Bindings.lineFeed_notMem_lineChars hvar hforms

/-- The printed lines of legible bindings are lines of the text. -/
theorem bindingsLines_eq_of_bindings_eq {b c : Bindings} (hb : b.Legible) (hc : c.Legible)
    (h : bindings b = bindings c) : bindingsLines b = bindingsLines c := by
  rw [bindings_eq_joinLines, bindings_eq_joinLines, List.append_cancel_right_eq] at h
  rw [← splitLines_joinLines_bindingsLines hb, h, splitLines_joinLines_bindingsLines hc]

/-- Bindings print their line for no bindings only if they bind nothing: it is one list to a reader,
    where every other line begins with an atom. -/
theorem mem_bindingsLines_iff_isEmpty {b : Bindings} (h : b.Legible) :
    "(no bindings)".toList ∈ bindingsLines b ↔ b.isEmpty = true := by
  rw [bindingsLines]
  cases hempty : b.isEmpty with
  | true => exact ⟨fun _ => rfl, fun _ => List.mem_singleton_self _⟩
  | false =>
    refine ⟨fun hmem => ?_, fun hfalse => absurd hfalse Bool.false_ne_true⟩
    obtain ⟨row, hrow, hline⟩ := List.mem_map.mp hmem
    have hread := h.mapM_forms_rowChars row hrow
    have hlist : (Reader.forms "(no bindings)".toList).1.mapM Piece.form =
        .ok [.list [.atom "no", .atom "bindings"]] := by decide +kernel
    rw [hline, hlist] at hread
    cases hread

/-- The lines of legible bindings determine the rows. -/
theorem rows_eq_of_bindingsLines_eq {b c : Bindings} (hb : b.Legible) (hc : c.Legible)
    (h : bindingsLines b = bindingsLines c) : b.rows = c.rows := by
  have hempty : b.isEmpty = c.isEmpty := by
    rw [Bool.eq_iff_iff, ← mem_bindingsLines_iff_isEmpty hb, h, mem_bindingsLines_iff_isEmpty hc]
  have hrows : b.rows.map rowChars = c.rows.map rowChars := by
    rw [bindingsLines, bindingsLines, hempty] at h
    cases hbool : c.isEmpty with
    | true => rw [Bindings.rows_of_isEmpty (hempty.trans hbool), Bindings.rows_of_isEmpty hbool]
    | false => simpa [hbool] using h
  -- reading the lines on both sides gives the forms, which tell the rows apart
  have hforms := congrArg (List.map fun line => (Reader.forms line).1.mapM Piece.form) hrows
  simp only [List.map_map, Function.comp_def] at hforms
  rw [List.map_congr_left hb.mapM_forms_rowChars,
    List.map_congr_left hc.mapM_forms_rowChars] at hforms
  refine List.map_injective_iff.mpr (fun row row' heq => ?_) hforms
  obtain ⟨hmark, hvar, hcaptured⟩ := Bindings.lineForms_inj (Except.ok.inj heq)
  exact Prod.ext hmark (Prod.ext hvar hcaptured)

end Report

/-! ## Bindings of a match -/

/-- What a match of forms that are made of tokens binds is legible. -/
theorem legible_of_matchRule {literals : TokenSet} {s : MatchSettings} {pattern form : Form}
    {b : Bindings} (hpattern : ∀ t ∈ pattern.atoms, IsToken t)
    (hform : ∀ t ∈ form.atoms, IsToken t) (h : matchRule literals s pattern form = .ok b) :
    b.Legible where
  isToken_var var hvar := by
    have hmem := mem_atoms_of_contains (matchWhole_of_matchRule h) (Bindings.mem_domain_iff.mp hvar)
    exact hpattern var (s.atoms_matchedPart_subset pattern hmem)
  isToken_captured var _ f hf t ht := by
    have hpart := atoms_subset_of_mem_captured (matchWhole_of_matchRule h) hf ht
    exact hform t (s.atoms_matchedPart_subset form hpart)
  marked_mem var hvar := by
    have hmarked : b.isRepeated var = true := TokenSet.mem_toList_iff.mp hvar
    exact Bindings.mem_domain_iff.mpr (contains_of_isRepeated (matchWhole_of_matchRule h) hmarked)

/-- **Printed bindings determine the bindings.** Legible bindings that are printed alike are equal:
    they bind the same variables, to the same captures in the same order, and mark the same of them.
    The text `(no bindings)` is printed only where nothing is bound. Whatever a match of forms that
    are made of tokens binds, as all forms are that a reader gives, is legible. -/
theorem Report.bindings_determined :
    (∀ b c : Bindings, b.Legible → c.Legible → Report.bindings b = Report.bindings c → b = c) ∧
      (∀ b : Bindings, b.Legible →
        (Report.bindings b = "(no bindings)\n".toList ↔ b = .empty)) ∧
      ∀ (literals : TokenSet) (s : MatchSettings) (pattern form : Form) (b : Bindings),
        (∀ t ∈ pattern.atoms, IsToken t) → (∀ t ∈ form.atoms, IsToken t) →
        matchRule literals s pattern form = .ok b → b.Legible := by
  have hinj : ∀ b c : Bindings, b.Legible → c.Legible →
      Report.bindings b = Report.bindings c → b = c := fun b c hb hc h =>
    Bindings.eq_of_rows hb hc
      (Report.rows_eq_of_bindingsLines_eq hb hc (Report.bindingsLines_eq_of_bindings_eq hb hc h))
  refine ⟨hinj, fun b hb => ⟨fun h => ?_, fun h => h ▸ rfl⟩,
    fun _ _ _ _ _ hpattern hform => legible_of_matchRule hpattern hform⟩
  exact hinj b .empty hb (by decide) h

/-- Variables and captures that look like marks, captured in two orders, and the pattern `(x ...)`
    on a form that repeats nothing. -/
theorem Report.bindings_determined_marks :
    let b := ((Bindings.empty.capture "=" (.atom "...")).declareRepeated "...").capture "..."
      (.list [.atom "="])
    let c := ((Bindings.empty.declareRepeated "...").capture "..." (.list [.atom "="])).capture "="
      (.atom "...")
    let pattern : Form := .list [.atom "x", .atom "..."]
    b.Legible ∧ c.Legible ∧ Report.bindings b = "... ... = (=)\n= = ...\n".toList ∧
      Report.bindings b = Report.bindings c ∧ b = c ∧
      ∃ d, matchRule .empty {} pattern (.list []) = .ok d ∧ d.Legible ∧
        Report.bindings d = "x ... =\n".toList ∧ d ≠ .empty := by
  intro b c pattern
  have hb : b.Legible := by decide +kernel
  have hc : c.Legible := by decide +kernel
  have halike : Report.bindings b = Report.bindings c := by decide +kernel
  have hmatch : matchRule .empty {} pattern (.list []) =
      .ok (Bindings.empty.declareRepeated "x") := by decide +kernel
  obtain ⟨hinj, hempty, hlegible⟩ := Report.bindings_determined
  have hd := hlegible _ _ pattern (.list []) _ (by decide +kernel) (by decide +kernel) hmatch
  exact ⟨hb, hc, by decide +kernel, halike, hinj b c hb hc halike, _, hmatch, hd,
    by decide +kernel, fun h => absurd ((hempty _ hd).mpr h) (by decide +kernel)⟩

end MacroByExample
