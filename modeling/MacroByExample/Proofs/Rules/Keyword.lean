import MacroByExample.Proofs.Rules.Extension

/-!
# Keywords

A rule's pattern and the form it is tried on both start with a keyword. Settings may leave it out of
the match: then it does not matter what stands there. Settings that keep it match it like any other
item, and a keyword that is a variable of its own captures the first item of the form. Apart from
this capture, the two ways to match agree.

* `MatchSettings.skippingKeyword`: the settings that leave the keyword out.
* `matchWhole_congr_settings`: what a match of a whole form depends on.
* `matchWhole_keyword`: a match with a variable for its keyword.
* `matchRule_skippingKeyword`: matches without the keyword and with it.
-/

namespace MacroByExample

/-- The settings with the keyword left out. -/
def MatchSettings.skippingKeyword (s : MatchSettings) : MatchSettings :=
  { s with ignoreKeyword := true }

section Keyword

variable {literals : TokenSet} {s s' : MatchSettings} {patterns forms : List Form}
  {first : Form} {name : String} {b : Bindings}

/-! ## Settings of a match -/

/-- A match of a whole form depends on the marker and on the policy among the settings. -/
theorem matchWhole_congr_settings (hellipsis : s'.ellipsis = s.ellipsis)
    (htrailing : s'.trailing = s.trailing) (pattern form : Form) :
    matchWhole literals s' pattern form = matchWhole literals s pattern form := by
  induction pattern using Form.markerInduction s.ellipsis generalizing form with
  | atom t => rfl
  | nil => cases form <;> simp only [matchWhole, matchForm, matchItems, htrailing]
  | repeated item rest ih ihRest =>
    cases form with
    | atom t => simp [matchWhole, matchForm]
    | list forms =>
      have hdeclared : declareVariables literals s' item .empty =
          declareVariables literals s item .empty := by rw [declareVariables, hellipsis]; rfl
      have hrepeated : matchWhole literals s' (.list (item :: .atom s'.ellipsis :: rest))
          (.list forms) = _ := matchWhole_repeated forms
      rw [hellipsis, hdeclared] at hrepeated
      rw [hrepeated, matchWhole_repeated, ihRest]
      simp only [ih]
  | single item rest hmarker ih ihRest =>
    cases form with
    | atom t => simp [matchWhole, matchForm]
    | list forms =>
      have hmarker' : rest.head? ≠ some (.atom s'.ellipsis) := by rwa [hellipsis]
      cases forms with
      | nil =>
        simp only [matchWhole, matchForm, matchItems_single_nil literals hmarker,
          matchItems_single_nil literals hmarker']
      | cons first others =>
        rw [matchWhole_single hmarker, matchWhole_single hmarker', ih, ihRest]

/-! ## With and without the keyword -/

/-- Without the keyword, a list pattern is matched from its second item on. -/
theorem matchRule_cons (keyword : Form) :
    matchRule literals s.skippingKeyword (.list (keyword :: patterns)) (.list (first :: forms)) =
      matchWhole literals s (.list patterns) (.list forms) := by
  have hellipsis : s.skippingKeyword.ellipsis = s.ellipsis := rfl
  have htrailing : s.skippingKeyword.trailing = s.trailing := rfl
  rw [← matchWhole_congr_settings hellipsis htrailing]
  rfl

/-- A variable in front of a list pattern captures the first item, and the rest of the pattern is
    matched as it is alone. -/
theorem matchWhole_keyword (hliteral : literals.contains name = false)
    (hmarker : patterns.head? ≠ some (.atom s.ellipsis)) :
    matchWhole literals s (.list (.atom name :: patterns)) (.list (first :: forms)) =
      (matchWhole literals s (.list patterns) (.list forms)).map
        (Bindings.empty.capture name first ++ ·) := by
  have hfirst : matchWhole literals s (.atom name) first =
      .ok (Bindings.empty.capture name first) := by
    rw [matchWhole, matchForm, matchToken, hliteral]
    rfl
  rw [matchWhole_single hmarker, hfirst]
  rfl

/-- To put a capture in front of bindings without the variable is to give the variable this one
    form. -/
theorem capture_append_eq_withSingle (hfresh : b.contains name = false) (form : Form) :
    Bindings.empty.capture name form ++ b = b.withSingle name form := by
  refine Bindings.ext_get? (fun var => ?_) fun var => ?_
  · rw [Bindings.get?_withSingle]
    by_cases hvar : var = name
    · subst hvar
      rw [Bindings.get?_append_of_left hfresh, Bindings.get?_capture, if_pos rfl, if_pos rfl]
      rfl
    · have hother : (Bindings.empty.capture name form).contains var = false := by
        simp [Bindings.contains_capture, Bindings.contains_empty, hvar]
      rw [Bindings.get?_append_of_right hother, if_neg hvar]
  · rw [Bindings.isRepeated_append, Bindings.isRepeated_capture, Bindings.isRepeated_empty,
      Bool.false_or, Bindings.isRepeated_withSingle]

/-- **Matching without the keyword.** With the keyword left out, it does not matter which items stand
in front of the pattern and of the form. If a variable stands in front of the pattern, one that does
not occur behind it and is not repeated, then the pattern matches without the keyword exactly when it
matches as a whole. The bindings of the whole match are those of the other with one more variable:
the keyword, which is not marked and has captured the first item of the form. -/
theorem matchRule_skippingKeyword (literals : TokenSet) (s : MatchSettings)
    (patterns forms : List Form) :
    (∀ keyword keyword' first first',
      matchRule literals s.skippingKeyword (.list (keyword :: patterns)) (.list (first :: forms)) =
        matchRule literals s.skippingKeyword (.list (keyword' :: patterns))
          (.list (first' :: forms))) ∧
    ∀ name first, literals.contains name = false → name ∉ (Form.list patterns).atoms →
      patterns.head? ≠ some (.atom s.ellipsis) →
        ((∃ b, matchRule literals s.skippingKeyword (.list (.atom name :: patterns))
            (.list (first :: forms)) = .ok b) ↔
          ∃ c, matchWhole literals s (.list (.atom name :: patterns)) (.list (first :: forms)) =
            .ok c) ∧
        ∀ b c, matchRule literals s.skippingKeyword (.list (.atom name :: patterns))
            (.list (first :: forms)) = .ok b →
          matchWhole literals s (.list (.atom name :: patterns)) (.list (first :: forms)) = .ok c →
            c = b.withSingle name first ∧ b.contains name = false ∧ c.isRepeated name = false := by
  refine ⟨fun _ _ _ _ => by rw [matchRule_cons, matchRule_cons], ?_⟩
  intro name first hliteral hfresh hmarker
  rw [matchRule_cons, matchWhole_keyword hliteral hmarker]
  constructor
  · constructor
    · rintro ⟨b, hb⟩
      exact ⟨_, map_eq_ok_iff.mpr ⟨b, hb, rfl⟩⟩
    · rintro ⟨c, hc⟩
      obtain ⟨b, hb, -⟩ := map_eq_ok_iff.mp hc
      exact ⟨b, hb⟩
  · intro b c hb hc
    rw [hb] at hc
    obtain rfl : Bindings.empty.capture name first ++ b = c := Except.ok.inj hc
    have hunbound : b.contains name = false := by
      rw [← Bool.not_eq_true]
      exact fun hbound => hfresh (mem_atoms_of_contains hb hbound)
    have hunmarked : b.isRepeated name = false := by
      rw [← Bool.not_eq_true]
      intro hmark
      rw [contains_of_isRepeated hb hmark] at hunbound
      cases hunbound
    rw [capture_append_eq_withSingle hunbound]
    exact ⟨rfl, hunbound, hunmarked⟩

/-- The pattern `(let ((name value) ...) => body ...)` against a call of another name. -/
theorem matchRule_skippingKeyword_let :
    let literals : TokenSet := .ofList ["=>"]
    let s : MatchSettings := { trailing := .lenient }
    let patterns : List Form :=
      [.list [.list [.atom "name", .atom "value"], .atom "..."], .atom "=>", .atom "body",
        .atom "..."]
    let forms : List Form :=
      [.list [.list [.atom "a", .atom "1"], .list [.atom "b", .atom "2", .atom "3"]], .atom "=>",
        .atom "a", .atom "b"]
    (literals.contains "let" = false ∧ "let" ∉ (Form.list patterns).atoms ∧
      patterns.head? ≠ some (.atom s.ellipsis)) ∧
    (matchRule literals s.skippingKeyword (.list (.atom "let" :: patterns))
        (.list (.atom "m" :: forms)) =
      matchRule literals s.skippingKeyword (.list (.list [] :: patterns))
        (.list (.atom "=>" :: forms))) ∧
    ∃ b c, matchRule literals s.skippingKeyword (.list (.atom "let" :: patterns))
        (.list (.atom "m" :: forms)) = .ok b ∧
      matchWhole literals s (.list (.atom "let" :: patterns)) (.list (.atom "m" :: forms)) =
        .ok c ∧
      c = b.withSingle "let" (.atom "m") ∧ b.contains "let" = false ∧
        c.isRepeated "let" = false := by
  intro literals s patterns forms
  obtain ⟨heads, keeps⟩ := matchRule_skippingKeyword literals s patterns forms
  have hliteral : literals.contains "let" = false := by decide +kernel
  have hfresh : "let" ∉ (Form.list patterns).atoms := by decide +kernel
  have hmarker : patterns.head? ≠ some (.atom s.ellipsis) := by decide +kernel
  obtain ⟨succeeds, adds⟩ := keeps "let" (.atom "m") hliteral hfresh hmarker
  obtain ⟨b, hb⟩ : ∃ b, matchRule literals s.skippingKeyword (.list (.atom "let" :: patterns))
      (.list (.atom "m" :: forms)) = .ok b := ⟨_, rfl⟩
  obtain ⟨c, hc⟩ := succeeds.mp ⟨b, hb⟩
  exact ⟨⟨hliteral, hfresh, hmarker⟩, heads _ _ _ _, b, c, hb, hc, adds b c hb hc⟩

end Keyword

end MacroByExample
