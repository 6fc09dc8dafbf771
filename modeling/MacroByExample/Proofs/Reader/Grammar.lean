import MacroByExample.Proofs.Reader.Balance
import MacroByExample.Proofs.Reader.ParsingExpression

/-!
# The search and the grammar

The search for forms follows the grammar: run as parsing expressions, the nonterminals give the
pieces that the search finds, and fail where it finds none.

* `derives_skip`, `derives_tokenChar`: the characters.
* `derives_atom`, `derives_enclosed`, `derives_list`: the parts of a form.
* `derives_form_forms`: a form gives what `form?` finds, and repeated what `forms` finds.
* `derives_program_iff`: a whole text gives what `program?` finds, and nothing else.
-/

namespace MacroByExample.Reader

variable {text : List Char}

/-! ## Characters -/

theorem eat_of_true {p : Char → Bool} {c : Char} (h : p c = true) (cs : List Char) :
    eat p (c :: cs) = some ([], cs) :=
  if_pos h

theorem eat_of_false {p : Char → Bool} {c : Char} (h : p c = false) (cs : List Char) :
    eat p (c :: cs) = none :=
  if_neg (by simp [h])

theorem Derives.char_self {atomic : Bool} {c : Char} {cs : List Char} :
    Derives text atomic (.char c) (c :: cs) (some ([], cs)) := by
  rw [← eat_of_true (p := (· == c)) (beq_self_eq_true c)]
  exact .char

theorem Derives.char_fail {atomic : Bool} {c : Char} {cs : List Char} (h : cs.head? ≠ some c) :
    Derives text atomic (.char c) cs none := by
  have hchar : eat (· == c) cs = none := by
    cases cs with
    | nil => rfl
    | cons d cs => exact eat_of_false (beq_eq_false_iff_ne.mpr fun hd => h (congrArg some hd)) cs
  rw [← hchar]
  exact .char

theorem derives_oneOf {atomic : Bool} {c : Char} {ds cs : List Char} :
    Derives text atomic (Peg.oneOf c ds) cs (eat (fun x => decide (x ∈ c :: ds)) cs) := by
  induction ds generalizing c with
  | nil =>
    have hsame : (fun x => decide (x ∈ [c])) = (· == c) := by
      funext x
      simp [Bool.beq_eq_decide_eq]
    rw [hsame]
    exact .char
  | cons d ds ih =>
    cases cs with
    | nil => exact .choiceElse (.char_fail nofun) ih
    | cons x xs =>
      by_cases hx : x = c
      · rw [hx, eat_of_true (by simp)]
        exact .choice .char_self
      · have hsame : eat (fun x => decide (x ∈ c :: d :: ds)) (x :: xs) =
            eat (fun x => decide (x ∈ d :: ds)) (x :: xs) := by
          simp [eat, hx]
        rw [hsame]
        exact .choiceElse (.char_fail fun h => hx (Option.some.inj h)) ih

/-- A silent nonterminal gives what its expression gives. -/
theorem Derives.silent {atomic : Bool} {n : Nonterminal} {cs : List Char} {r : Outcome}
    (hn : n.isSilent = true) (h : Derives text (atomic || n.isAtomic) n.body cs r) :
    Derives text atomic (.ref n) cs r := by
  have hmade : (fun made : List Piece × List Char =>
      (n.emitted atomic cs made.2 made.1, made.2)) = id := by
    funext made
    simp [Nonterminal.emitted, hn]
  have href := Derives.ref h
  rwa [hmade, Option.map_id] at href

/-- A nonterminal fails where its expression fails. -/
theorem Derives.refFail {atomic : Bool} {n : Nonterminal} {cs : List Char}
    (h : Derives text (atomic || n.isAtomic) n.body cs none) :
    Derives text atomic (.ref n) cs none :=
  .ref h

/-- A nonterminal that makes a piece puts the pieces of its expression inside. -/
theorem Derives.made {n : Nonterminal} {cs stop : List Char} {inner : List Piece}
    (hn : n.isSilent = false) (h : Derives text n.isAtomic n.body cs (some (inner, stop))) :
    Derives text false (.ref n) cs (some ([.mk n cs stop inner], stop)) := by
  have hmade : n.emitted false cs stop inner = [.mk n cs stop inner] := by
    simp [Nonterminal.emitted, hn]
  rw [← Bool.false_or n.isAtomic] at h
  rw [← hmade]
  exact .ref h

/-- A silent nonterminal for one of some characters takes that character. -/
theorem derives_oneOf_ref {n : Nonterminal} {p : Char → Bool} {c : Char} {ds : List Char}
    (hn : n.isSilent = true) (hbody : n.body = Peg.oneOf c ds)
    (hp : ∀ x, p x = true ↔ x ∈ c :: ds) (atomic : Bool) (cs : List Char) :
    Derives text atomic (.ref n) cs (eat p cs) := by
  have hsame : p = fun x => decide (x ∈ c :: ds) := by
    funext x
    rw [Bool.eq_iff_iff, hp, decide_eq_true_eq]
  have hchars : Derives text (atomic || n.isAtomic) n.body cs (eat p cs) := by
    rw [hbody, hsame]
    exact derives_oneOf
  exact .silent hn hchars

theorem derives_separator (text : List Char) (atomic : Bool) (cs : List Char) :
    Derives text atomic (.ref .separator) cs (eat isSeparator cs) :=
  derives_oneOf_ref rfl rfl (fun _ => isSeparator_iff) atomic cs

theorem derives_delimiter (text : List Char) (atomic : Bool) (cs : List Char) :
    Derives text atomic (.ref .delimiter) cs (eat isDelimiter cs) :=
  derives_oneOf_ref rfl rfl (fun _ => isDelimiter_iff) atomic cs

/-- Repeating an expression for one character takes the longest run of such characters. -/
theorem derives_star_eat {atomic : Bool} {e : Peg} {p : Char → Bool}
    (h : ∀ cs, Derives text atomic e cs (eat p cs)) (cs : List Char) :
    Derives text atomic (.star e) cs (some ([], cs.dropWhile p)) := by
  induction cs with
  | nil => exact .starEnd (h [])
  | cons c cs ih =>
    have hone := h (c :: cs)
    rw [List.dropWhile_cons]
    cases hc : p c with
    | true =>
      rw [eat_of_true hc] at hone
      exact .star hone ih
    | false =>
      rw [eat_of_false hc] at hone
      exact .starEnd hone

theorem derives_skip (text cs : List Char) :
    Derives text false .skip cs (some ([], skipSeparators cs)) :=
  .skip (derives_star_eat (derives_separator text false) cs)

/-! ## Atoms -/

theorem derives_tokenChar (text cs : List Char) :
    Derives text true Peg.tokenChar cs (eat isTokenChar cs) := by
  have hdelimiter := derives_delimiter text true cs
  have hseparator := derives_separator text true cs
  have hany : Derives text true .any cs (eat (fun _ => true) cs) := .any
  cases cs with
  | nil => exact .seq (.not (.choiceElse hdelimiter hseparator)) (.seq .skipNone hany)
  | cons c cs =>
    cases hd : isDelimiter c with
    | true =>
      rw [eat_of_true hd] at hdelimiter
      rw [eat_of_false (by simp [isTokenChar, hd])]
      exact .seqFail (.not (.choice hdelimiter))
    | false =>
      rw [eat_of_false hd] at hdelimiter
      cases hs : isSeparator c with
      | true =>
        rw [eat_of_true hs] at hseparator
        rw [eat_of_false (by simp [isTokenChar, hs])]
        exact .seqFail (.not (.choiceElse hdelimiter hseparator))
      | false =>
        rw [eat_of_false hs] at hseparator
        rw [eat_of_true (by simp [isTokenChar, hd, hs])]
        exact .seq (.not (.choiceElse hdelimiter hseparator)) (.seq .skipNone hany)

theorem derives_tokenChars (text cs : List Char) :
    Derives text true (.star (.seq .skip Peg.tokenChar)) cs
      (some ([], cs.dropWhile isTokenChar)) := by
  refine derives_star_eat (fun cs => ?_) cs
  have hone : Derives text true (.seq .skip Peg.tokenChar) cs _ :=
    .seq .skipNone (derives_tokenChar text cs)
  simpa using hone

theorem derives_atom {c : Char} {cs : List Char} (h : isTokenChar c = true) :
    Derives text false (.ref .atom) (c :: cs)
      (some ([.mk .atom (c :: cs) (cs.dropWhile isTokenChar) []], cs.dropWhile isTokenChar)) := by
  have hone := derives_tokenChar text (c :: cs)
  rw [eat_of_true h] at hone
  have hbody : Derives text true Nonterminal.atom.body (c :: cs)
      (some ([], cs.dropWhile isTokenChar)) := .seq hone (derives_tokenChars text cs)
  exact .made rfl hbody

theorem derives_atom_fail {cs : List Char} (h : eat isTokenChar cs = none) :
    Derives text false (.ref .atom) cs none := by
  have hone := derives_tokenChar text cs
  rw [h] at hone
  exact .refFail (.seqFail hone)

/-! ## Lists -/

/-- Repeating the form gives the forms that the search finds. Inside a list and at the start of a
    text separators are skipped before the first form and behind the last, which leaves the same
    over. -/
structure DerivesForms (text cs : List Char) : Prop where
  turns : Derives text false (.star (.seq .skip (.ref .form))) cs (some (forms cs))
  many : ∃ rest, Derives text false (.many (.ref .form)) (skipSeparators cs)
    (some ((forms cs).1, rest)) ∧ skipSeparators rest = leftover cs

theorem derives_enclosed_fail {b : Bracket} {cs : List Char} (h : cs.head? ≠ some b.opener) :
    Derives text false (.enclosed b) cs none :=
  .seqFail (.char_fail h)

/-- Behind the opener and the forms, the closer decides. -/
theorem derives_enclosed {b : Bracket} {cs : List Char} {r : Outcome} (h : DerivesForms text cs)
    (hcloser : Derives text false (.char b.closer) (leftover cs) r) :
    Derives text false (.enclosed b) (b.opener :: cs)
      (r.map fun made => ((forms cs).1 ++ made.1, made.2)) := by
  obtain ⟨rest, hmany, hrest⟩ := h.many
  have hskip := derives_skip text rest
  rw [hrest] at hskip
  have hall : Derives text false (.enclosed b) (b.opener :: cs) _ :=
    .seq .char_self (.seq (derives_skip text cs) (.seq hmany (.seq hskip hcloser)))
  simpa [Option.map_map, Function.comp_def] using hall

/-- Of the three kinds of lists, only the one whose opener is there can succeed. -/
theorem derives_list {b : Bracket} {cs : List Char} {r : Outcome}
    (h : Derives text false (.enclosed b) cs r) (hhead : cs.head? = some b.opener) :
    Derives text false Nonterminal.list.body cs r := by
  have hother : ∀ b', b' ≠ b → Derives text false (.enclosed b') cs none := by
    intro b' hb'
    refine derives_enclosed_fail fun hhead' => hb' ?_
    exact Bracket.opener_injective (Option.some.inj (hhead'.symm.trans hhead))
  cases b with
  | round =>
    cases r with
    | none => exact .choiceElse h (.choiceElse (hother .square nofun) (hother .curly nofun))
    | some made => exact .choice h
  | square =>
    refine .choiceElse (hother .round nofun) ?_
    cases r with
    | none => exact .choiceElse h (hother .curly nofun)
    | some made => exact .choice h
  | curly => exact .choiceElse (hother .round nofun) (.choiceElse (hother .square nofun) h)

theorem derives_list_fail {cs : List Char} (h : ∀ b : Bracket, cs.head? ≠ some b.opener) :
    Derives text false (.ref .list) cs none :=
  .refFail (.choiceElse (derives_enclosed_fail (h .round))
    (.choiceElse (derives_enclosed_fail (h .square)) (derives_enclosed_fail (h .curly))))

/-! ## Forms -/

/-- What running the expression of a piece gives when the search finds the piece or none. -/
def Piece.outcome (p? : Option Piece) : Outcome :=
  p?.map fun p => ([p], p.stop)

/-- Running the grammar gives the form that the search finds, and likewise the forms. -/
theorem derives_form_forms (text : List Char) :
    (∀ cs, Derives text false (.ref .form) cs (Piece.outcome (form? cs))) ∧
      ∀ cs, DerivesForms text cs := by
  -- An opener leaves only its own kind of list to succeed, a token character only the atom.
  refine form?_forms_induction ?nil ?opener ?token ?other ?none ?some
  case nil =>
    exact .silent rfl (.choiceElse (derives_list_fail nofun) (derives_atom_fail rfl))
  case opener =>
    intro b cs hforms
    by_cases hclosed : ∃ after, leftover cs = b.closer :: after
    · obtain ⟨after, hafter⟩ := hclosed
      have hcloser : Derives text false (.char b.closer) (leftover cs) (some ([], after)) := by
        rw [hafter]
        exact .char_self
      have hlist := derives_list (derives_enclosed hforms hcloser) rfl
      rw [Option.map_some, List.append_nil] at hlist
      rw [form?_opener hafter]
      exact .silent rfl (.choice (.made rfl hlist))
    · have hopen : ∀ after, leftover cs ≠ b.closer :: after := fun after h => hclosed ⟨after, h⟩
      have hcloser : Derives text false (.char b.closer) (leftover cs) none := by
        refine .char_fail fun hhead => ?_
        obtain ⟨after, hafter⟩ := List.head?_eq_some_iff.mp hhead
        exact hopen after hafter
      have hlist := derives_list (derives_enclosed hforms hcloser) rfl
      have hatom : eat isTokenChar (b.opener :: cs) = none := eat_of_false (isTokenChar_opener b) cs
      rw [form?_opener_eq_none hopen]
      exact .silent rfl (.choiceElse (.refFail hlist) (derives_atom_fail hatom))
  case token =>
    intro c cs hc
    rw [form?_token hc]
    refine .silent rfl (.choiceElse (derives_list_fail ?_) (derives_atom hc))
    rintro b hb
    rw [Option.some.inj hb, isTokenChar_opener] at hc
    cases hc
  case other =>
    intro c cs hopened hc
    rw [form?_eq_none_of_head hopened hc]
    refine .silent rfl (.choiceElse (derives_list_fail ?_) (derives_atom_fail (eat_of_false hc cs)))
    rintro b hb
    rw [Option.some.inj hb, openedBy?_opener] at hopened
    cases hopened
  case none =>
    intro cs hform hone
    rw [hform] at hone
    constructor
    · rw [forms_of_none hform]
      exact .starEnd (.seq (derives_skip text cs) hone)
    · refine ⟨skipSeparators cs, ?_, ?_⟩
      · rw [forms_of_none hform]
        exact .choiceElse (.seqFail hone) .empty
      · rw [skipSeparators_skipSeparators, leftover_of_none hform]
  case some =>
    intro cs p hform hone hmore
    rw [hform] at hone
    constructor
    · rw [forms_of_some hform]
      exact .star (.seq (derives_skip text cs) hone) hmore.turns
    · refine ⟨(forms p.stop).2, ?_, ?_⟩
      · rw [forms_of_some hform]
        exact .choice (.seq hone hmore.turns)
      · rw [leftover_of_some hform, leftover]

theorem derives_forms (text cs : List Char) : DerivesForms text cs :=
  (derives_form_forms text).2 cs

/-! ## The whole text -/

theorem derives_endOfText (text cs : List Char) :
    Derives text false (.ref .endOfText) cs
      (if cs = [] then some ([.mk .endOfText [] [] []], []) else none) := by
  have hany : Derives text false .any cs (eat (fun _ => true) cs) := .any
  cases cs with
  | nil => exact .made rfl (.not hany)
  | cons c cs => exact .refFail (.not hany)

theorem derives_program :
    Derives text false (.ref .program) text (Piece.outcome (program? text)) := by
  obtain ⟨rest, hmany, hrest⟩ := (derives_forms text text).many
  have hskip := derives_skip text rest
  have hend := derives_endOfText text (leftover text)
  have hstart : Derives text false .startOfText text (if text = text then _ else _) := .startOfText
  rw [hrest] at hskip
  rw [if_pos rfl] at hstart
  have hprogram : Derives text false (.ref .program) text _ :=
    .ref (.seq hstart (.seq (derives_skip text _) (.seq hmany (.seq hskip hend))))
  by_cases hleft : leftover text = []
  · rw [program?_of_leftover hleft]
    rw [if_pos hleft] at hprogram
    exact hprogram
  · rw [program?_eq_none_iff.mpr hleft]
    rw [if_neg hleft] at hprogram
    exact hprogram

/-- Running the grammar on a whole text gives the program that the search finds, and nothing else:
    it fails exactly where the search finds none. -/
theorem derives_program_iff {r : Outcome} :
    Derives text false (.ref .program) text r ↔ r = Piece.outcome (program? text) := by
  constructor
  · intro h
    exact derives_program.unique h
  · rintro rfl
    exact derives_program

end MacroByExample.Reader
