import MacroByExample.CommandLine.Execute
import MacroByExample.Proofs.Configuration

/-!
# Overridden settings

A setting on the command line replaces the one of the configuration file. Two files that differ in
replaced settings only come to one configuration. But a file must be valid by itself before anything
in it is replaced, so a replaced setting still counts in this one respect: a value that is not valid
makes the file refused, whatever stands in its place on the command line.

* `Environment.Describes`: the configuration that a file gives, valid or not.
* `Overrides.SameBeyond`: configurations that differ in replaced settings only.
* `Overrides.apply_eq_of_sameBeyond`: overrides make them the same.
* `resolveConfiguration_of_describes`: a file is checked by itself, then with the overrides.
* `resolveConfiguration_overridden`: where replaced settings do not count, and where they do.
* `not_forall_overridden_width_ignored`: a replaced width that counts.
-/

namespace MacroByExample.CommandLine

/-! ## Files -/

/-- The file holds the text of the configuration, which need not be valid. -/
def Environment.Describes (env : Environment) (path : String) (c : Configuration) : Prop :=
  ∃ text, env.file? path = some text ∧
    Json.readAll (Json.configuration Json.maxLevels) text = .ok c

/-! ## Overrides -/

/-- The configurations agree in every setting that the overrides do not replace. -/
structure Overrides.SameBeyond (o : Overrides) (c c' : Configuration) : Prop where
  ellipsis : o.ellipsis = none → c.ellipsis = c'.ellipsis
  trailing : o.lenient = false → c.trailing = c'.trailing
  ignoreKeyword : o.ignoreKeyword = false → c.ignoreKeyword = c'.ignoreKeyword
  width : o.width = none → c.width = c'.width

section Overriding

variable {o : Overrides} {c c' : Configuration} {env env' : Environment} {path : String}

theorem Overrides.apply_eq_of_sameBeyond (h : o.SameBeyond c c') : o.apply c = o.apply c' := by
  have hellipsis : o.ellipsis.getD c.ellipsis = o.ellipsis.getD c'.ellipsis := by
    cases hgiven : o.ellipsis with
    | none => exact h.ellipsis hgiven
    | some ellipsis => rfl
  have htrailing : (if o.lenient then .lenient else c.trailing) =
      if o.lenient then .lenient else c'.trailing := by
    cases hgiven : o.lenient with
    | false => exact h.trailing hgiven
    | true => rfl
  have hkeyword : (c.ignoreKeyword || o.ignoreKeyword) =
      (c'.ignoreKeyword || o.ignoreKeyword) := by
    cases hgiven : o.ignoreKeyword with
    | false => rw [h.ignoreKeyword hgiven]
    | true => rw [Bool.or_true, Bool.or_true]
  have hwidth : o.width.getD c.width = o.width.getD c'.width := by
    cases hgiven : o.width with
    | none => exact h.width hgiven
    | some width => rfl
  rw [Overrides.apply, hellipsis, htrailing, hkeyword, hwidth, ← Overrides.apply]

/-! ## Resolving -/

/-- The text of a configuration gives it if it is valid. -/
theorem ofJson_of_readAll {text : String}
    (h : Json.readAll (Json.configuration Json.maxLevels) text = .ok c) :
    Configuration.ofJson text = c.validate.map fun _ => c := by
  rw [Configuration.ofJson, h]
  dsimp only
  cases c.validate <;> rfl

theorem baseConfiguration_of_describes (h : env.Describes path c) :
    baseConfiguration env (some path) =
      (c.validate.map fun _ => c).mapError Failure.configuration := by
  obtain ⟨text, htext, hread⟩ := h
  rw [← ofJson_of_readAll hread]
  simp only [baseConfiguration, readFile, htext]
  rfl

/-- A configuration file is checked as it is, and once more with the overrides. -/
theorem resolveConfiguration_of_describes (hpath : o.config = some path)
    (h : env.Describes path c) :
    resolveConfiguration env o =
      (c.validate.bind fun _ => (o.apply c).validate.map fun _ => o.apply c).mapError
        Failure.configuration := by
  rw [resolveConfiguration, hpath, baseConfiguration_of_describes h]
  cases c.validate with
  | error e => rfl
  | ok _ =>
    change ((o.apply c).validate.mapError Failure.configuration >>= fun _ => pure (o.apply c)) =
      ((o.apply c).validate.map fun _ => o.apply c).mapError Failure.configuration
    cases (o.apply c).validate <;> rfl

/-- **Overridden settings count only for the validity of their file.** Suppose that the
    configuration files of two environments differ in settings only that the command line replaces.
    If both are valid by themselves, or both are refused by themselves for the same reason, the
    environments give the same answer: the same configuration, or the same failure. A file that is
    refused by itself makes the answer the failure it is refused with, whatever is replaced. -/
theorem resolveConfiguration_overridden (hpath : o.config = some path)
    (hfile : env.Describes path c) (hfile' : env'.Describes path c')
    (hsame : o.SameBeyond c c') :
    (c.validate = c'.validate → resolveConfiguration env o = resolveConfiguration env' o) ∧
    (∀ e, c.validate = .error e → resolveConfiguration env o = .error (.configuration e)) ∧
    ∀ e, c'.validate = .error e → resolveConfiguration env' o = .error (.configuration e) := by
  rw [resolveConfiguration_of_describes hpath hfile, resolveConfiguration_of_describes hpath hfile']
  refine ⟨fun hvalid => ?_, fun e he => ?_, fun e he => ?_⟩
  · rw [hvalid, Overrides.apply_eq_of_sameBeyond hsame]
  · rw [he]
    rfl
  · rw [he]
    rfl

end Overriding

/-- Two valid files that differ in the marker, the policy and the width, all three replaced, and a
    file with no width, which is refused although its width is replaced. -/
theorem resolveConfiguration_overridden_flags :
    let env : String → Environment := fun text => ⟨fun _ => some text, none, false⟩
    let o : Overrides :=
      { config := some "c", ellipsis := some "___", lenient := true, width := some 20 }
    let wide := env "\x7b\"ellipsis\":\"..*\",\"width\":40,\"ignore_keyword\":true\x7d"
    let standard := env "\x7b\"ignore_keyword\":true,\"trailing\":\"lenient\"\x7d"
    let empty := env "\x7b\"ignore_keyword\":true,\"width\":0\x7d"
    let c : Configuration := { ellipsis := "..*", ignoreKeyword := true, width := 40 }
    let c' : Configuration := { trailing := .lenient, ignoreKeyword := true }
    let c'' : Configuration := { ignoreKeyword := true, width := 0 }
    (wide.Describes "c" c ∧ standard.Describes "c" c' ∧ o.SameBeyond c c' ∧
      c.validate = c'.validate ∧
      resolveConfiguration wide o = resolveConfiguration standard o) ∧
    empty.Describes "c" c'' ∧ o.SameBeyond c c'' ∧ c''.validate = .error .noWidth ∧
      resolveConfiguration empty o = .error (.configuration .noWidth) := by
  intro env o wide standard empty c c' c''
  have hwide : wide.Describes "c" c := ⟨_, rfl, rfl⟩
  have hstandard : standard.Describes "c" c' := ⟨_, rfl, rfl⟩
  have hempty : empty.Describes "c" c'' := ⟨_, rfl, rfl⟩
  have hsame : o.SameBeyond c c' := ⟨nofun, nofun, fun _ => rfl, nofun⟩
  have hsame' : o.SameBeyond c c'' := ⟨nofun, nofun, fun _ => rfl, nofun⟩
  have hvalid : c.validate = .ok () :=
    Configuration.validate_eq_ok_iff.mpr ⟨by decide +kernel, by decide⟩
  have hvalid' : c'.validate = .ok () :=
    Configuration.validate_eq_ok_iff.mpr ⟨by decide +kernel, by decide⟩
  have hrefused : c''.validate = .error .noWidth :=
    Configuration.validate_eq_noWidth_iff.mpr ⟨by decide +kernel, rfl⟩
  have hequal : c.validate = c'.validate := hvalid.trans hvalid'.symm
  exact ⟨⟨hwide, hstandard, hsame, hequal,
      (resolveConfiguration_overridden rfl hwide hstandard hsame).1 hequal⟩,
    hempty, hsame', hrefused,
    (resolveConfiguration_overridden rfl hwide hempty hsame').2.2 _ hrefused⟩

/-- A width of zero in a file counts although the command line replaces it. -/
theorem not_forall_overridden_width_ignored :
    ¬ ∀ (o : Overrides) (path : String) (env env' : Environment) (c c' : Configuration),
      o.config = some path → env.Describes path c → env'.Describes path c' → o.SameBeyond c c' →
        resolveConfiguration env o = resolveConfiguration env' o := by
  intro hall
  let o : Overrides := { config := some "c", width := some 10 }
  let zero : Environment := ⟨fun _ => some "\x7b\"width\":0\x7d", none, false⟩
  let five : Environment := ⟨fun _ => some "\x7b\"width\":5\x7d", none, false⟩
  have hzero : zero.Describes "c" { width := 0 } := ⟨_, rfl, rfl⟩
  have hfive : five.Describes "c" { width := 5 } := ⟨_, rfl, rfl⟩
  have hrefused : Configuration.validate { width := 0 } = .error .noWidth :=
    Configuration.validate_eq_noWidth_iff.mpr ⟨by decide +kernel, rfl⟩
  have hvalid : Configuration.validate { width := 5 } = .ok () :=
    Configuration.validate_eq_ok_iff.mpr ⟨by decide +kernel, by decide⟩
  have happlied : (o.apply { width := 5 }).validate = .ok () :=
    Configuration.validate_eq_ok_iff.mpr ⟨by decide +kernel, by decide⟩
  have hrefusal : resolveConfiguration zero o = .error (.configuration .noWidth) := by
    rw [resolveConfiguration_of_describes rfl hzero, hrefused]
    rfl
  have hanswer : resolveConfiguration five o = .ok (o.apply { width := 5 }) := by
    rw [resolveConfiguration_of_describes rfl hfive, hvalid]
    change ((o.apply { width := 5 }).validate.map fun _ => _).mapError _ = _
    rw [happlied]
    rfl
  have hequal := hall o "c" zero five _ _ rfl hzero hfive
    ⟨fun _ => rfl, fun _ => rfl, fun _ => rfl, nofun⟩
  rw [hrefusal, hanswer] at hequal
  cases hequal

end MacroByExample.CommandLine
