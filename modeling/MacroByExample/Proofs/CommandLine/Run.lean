import Mathlib
import MacroByExample.CommandLine.Execute

/-!
# Computations that write

A step that succeeds passes its value on, and the failure of a step may be translated before the
step or in it. Texts that are written one after the other are one text.

* `orFail_ok_bind`, `orFail_error_bind`, `orFail_map_bind`, `orFail_mapError`: steps that may fail.
* `forM_write`: writing several texts.
* `outcome_of_write`, `outcome_of_throw`: the outcome of writing alone, and of failing alone.
-/

namespace MacroByExample.CommandLine

variable {α β ε : Type}

/-! ## Steps that may fail -/

@[simp]
theorem orFail_ok_bind (failure : ε → Failure) (a : α) (next : α → Run β) :
    (orFail failure (.ok a) >>= next) = next a :=
  pure_bind a next

@[simp]
theorem orFail_error_bind (failure : ε → Failure) (e : ε) (next : α → Run β) :
    (orFail failure (.error e) >>= next) = throw (failure e) := rfl

/-- A step whose result is translated goes on with the translation. -/
theorem orFail_map_bind {γ : Type} (failure : ε → Failure) (x : Except ε α) (g : α → γ)
    (next : γ → Run β) :
    (orFail failure (x.map g) >>= next) = (orFail failure x >>= fun a => next (g a)) := by
  cases x <;> rfl

/-- A step that fails as a failure already fails as it is. -/
theorem orFail_mapError (failure : ε → Failure) (x : Except ε α) :
    orFail id (x.mapError failure) = orFail failure x := by
  cases x <;> rfl

/-! ## Writing -/

/-- Writing several texts is writing one. -/
theorem forM_write (chars : α → List Char) (items : List α) :
    (items.forM fun a => write (chars a)) = write (items.flatMap chars) := by
  induction items with
  | nil =>
    funext out
    change (Except.ok (), out) = (Except.ok (), out ++ [])
    rw [List.append_nil]
  | cons a items ih =>
    change (write (chars a) >>= fun _ => items.forM fun a => write (chars a)) = _
    rw [ih, List.flatMap_cons]
    funext out
    change (Except.ok (), out ++ chars a ++ items.flatMap chars) =
      (Except.ok (), out ++ (chars a ++ items.flatMap chars))
    rw [List.append_assoc]

/-! ## Outcomes -/

/-- An invocation that writes a text and nothing else. -/
theorem outcome_of_write {env : Environment} {i : Invocation} {cs : List Char}
    (h : execute env i = write cs) : outcome env i = ⟨cs, .ok ()⟩ := by
  rw [outcome, h]
  rfl

/-- An invocation that fails before it writes. -/
theorem outcome_of_throw {env : Environment} {i : Invocation} {e : Failure}
    (h : execute env i = throw e) : outcome env i = ⟨[], .error e⟩ := by
  rw [outcome, h]
  rfl

end MacroByExample.CommandLine
