import MacroByExample.Proofs.Reader.BlankText

/-!
# Reading depends on lexemes only

The lexemes of a text are its longest runs of token characters and its delimiters. Reading builds
the same forms from any two texts in balance whose lexemes differ in the kinds of brackets at most:
the forms of a text are spelled by its lexemes, and no two lists of forms have one spelling.

* `Lexeme`, `lexemes`: the lexemes of a text; `Lexeme.rounded` forgets the kind of a bracket.
* `Form.lexemes`, `Form.eq_of_flatMap_lexemes`: the spelling of a form, which determines the form.
* `rounded_lexemes_of_read`: the lexemes of a text spell the forms that are read.
* `Apart`, `lexemes_append`: where a text may be cut.
* `read_eq_of_lexemes`: lexemes determine what is read.
-/

namespace MacroByExample

namespace Reader

/-! ## Lexemes -/

/-- A delimiter or a run of token characters. -/
inductive Lexeme where
  | opener (kind : Bracket)
  | closer (kind : Bracket)
  | word (token : String)
deriving DecidableEq, Repr

namespace Lexeme

/-- The lexeme with a round bracket in place of any other. -/
def rounded : Lexeme → Lexeme
  | opener _ => opener .round
  | closer _ => closer .round
  | word token => word token

@[simp]
theorem rounded_opener (b : Bracket) : (opener b).rounded = opener .round := rfl

@[simp]
theorem rounded_closer (b : Bracket) : (closer b).rounded = closer .round := rfl

@[simp]
theorem rounded_word (t : String) : (word t).rounded = word t := rfl

/-- Whether the lexeme is a word of blank characters. -/
def isBlank : Lexeme → Bool
  | opener _ => false
  | closer _ => false
  | word token => Text.isBlankText token.toList

@[simp]
theorem isBlank_rounded (l : Lexeme) : l.rounded.isBlank = l.isBlank := by
  cases l <;> rfl

end Lexeme

/-- The lexemes of a text: its delimiters and its longest runs of token characters. -/
def lexemes : List Char → List Lexeme
  | [] => []
  | c :: cs =>
    if isTokenChar c then
      .word (String.ofList (c :: cs.takeWhile isTokenChar)) :: lexemes (cs.dropWhile isTokenChar)
    else
      match openedBy? c, closedBy? c with
      | some b, _ => .opener b :: lexemes cs
      | none, some b => .closer b :: lexemes cs
      | none, none => lexemes cs
termination_by cs => cs.length
decreasing_by
  · exact Nat.lt_succ_of_le (List.length_dropWhile_le _ _)
  all_goals exact Nat.lt_succ_self _

@[simp]
theorem lexemes_nil : lexemes [] = [] := by
  rw [lexemes]

theorem lexemes_token {c : Char} (h : isTokenChar c = true) (cs : List Char) :
    lexemes (c :: cs) =
      .word (String.ofList (c :: cs.takeWhile isTokenChar)) ::
        lexemes (cs.dropWhile isTokenChar) := by
  rw [lexemes, if_pos h]

@[simp]
theorem lexemes_opener (b : Bracket) (cs : List Char) :
    lexemes (b.opener :: cs) = .opener b :: lexemes cs := by
  rw [lexemes, if_neg (by simp), openedBy?_opener]

@[simp]
theorem lexemes_closer (b : Bracket) (cs : List Char) :
    lexemes (b.closer :: cs) = .closer b :: lexemes cs := by
  rw [lexemes, if_neg (by simp), openedBy?_closer, closedBy?_closer]

theorem lexemes_separator {c : Char} (h : isSeparator c = true) (cs : List Char) :
    lexemes (c :: cs) = lexemes cs := by
  obtain ⟨hopened, hclosed⟩ := isDelimiter_eq_false_iff.mp (isDelimiter_of_isSeparator h)
  rw [lexemes, if_neg (by simp [isTokenChar_of_isSeparator h]), hopened, hclosed]

/-- Induction along the lexemes of a text. -/
theorem lexemesInduction {motive : List Char → Prop} (nil : motive [])
    (token : ∀ c cs, isTokenChar c = true → motive (cs.dropWhile isTokenChar) → motive (c :: cs))
    (opener : ∀ (b : Bracket) cs, motive cs → motive (b.opener :: cs))
    (closer : ∀ (b : Bracket) cs, motive cs → motive (b.closer :: cs))
    (separator : ∀ c cs, isSeparator c = true → motive cs → motive (c :: cs))
    (cs : List Char) : motive cs := by
  induction h : cs.length using Nat.strong_induction_on generalizing cs with
  | _ n ih =>
    subst h
    cases cs with
    | nil => exact nil
    | cons c cs =>
      have hrest : motive cs := ih cs.length (Nat.lt_succ_self _) cs rfl
      cases hsep : isSeparator c with
      | true => exact separator c cs hsep hrest
      | false =>
        cases hdelim : isDelimiter c with
        | true =>
          obtain ⟨b, rfl⟩ | ⟨b, rfl⟩ := exists_bracket_of_isDelimiter hdelim
          · exact opener b cs hrest
          · exact closer b cs hrest
        | false =>
          have hlength : (cs.dropWhile isTokenChar).length < (c :: cs).length :=
            Nat.lt_succ_of_le (List.length_dropWhile_le _ _)
          exact token c cs (isTokenChar_iff.mpr ⟨hsep, hdelim⟩) (ih _ hlength _ rfl)

theorem lexemes_separators_append {seps : List Char} (h : ∀ c ∈ seps, isSeparator c = true)
    (cs : List Char) : lexemes (seps ++ cs) = lexemes cs := by
  induction seps with
  | nil => rfl
  | cons c seps ih =>
    rw [List.cons_append, lexemes_separator (h c List.mem_cons_self)]
    exact ih fun d hd => h d (List.mem_cons_of_mem _ hd)

theorem lexemes_skipSeparators (cs : List Char) : lexemes (skipSeparators cs) = lexemes cs := by
  have hcut : cs.takeWhile isSeparator ++ skipSeparators cs = cs := List.takeWhile_append_dropWhile
  conv_rhs => rw [← hcut, lexemes_separators_append fun c hc => List.mem_takeWhile_imp hc]

/-- A text is blank exactly when its lexemes are words of blank characters. -/
theorem isBlankText_eq_all_lexemes (cs : List Char) :
    Text.isBlankText cs = (lexemes cs).all Lexeme.isBlank := by
  induction cs using lexemesInduction with
  | nil => rw [lexemes_nil, Text.isBlankText, List.all_nil, List.all_nil]
  | token c cs hc ih =>
    rw [lexemes_token hc, List.all_cons, ← ih, Lexeme.isBlank, String.toList_ofList,
      ← isBlankText_append, List.cons_append, List.takeWhile_append_dropWhile]
  | opener b cs _ =>
    have hopener : Text.isBlank b.opener = false := by cases b <;> rfl
    rw [lexemes_opener, Text.isBlankText, List.all_cons, hopener]
    rfl
  | closer b cs _ =>
    have hcloser : Text.isBlank b.closer = false := by cases b <;> rfl
    rw [lexemes_closer, Text.isBlankText, List.all_cons, hcloser]
    rfl
  | separator c cs hc ih =>
    rw [lexemes_separator hc, ← ih, Text.isBlankText, List.all_cons, isBlank_of_isSeparator hc,
      Bool.true_and, Text.isBlankText]

end Reader

/-! ## The spelling of forms -/

namespace Form

open Reader (Lexeme)

mutual

/-- The lexemes that spell a form, with round brackets. -/
def lexemes : Form → List Lexeme
  | .atom t => [.word t]
  | .list items => .opener .round :: (lexemesOfItems items ++ [.closer .round])

/-- The lexemes that spell several forms. -/
def lexemesOfItems : List Form → List Lexeme
  | [] => []
  | f :: rest => lexemes f ++ lexemesOfItems rest

end

theorem lexemesOfItems_eq_flatMap (items : List Form) :
    lexemesOfItems items = items.flatMap lexemes := by
  induction items with
  | nil => rfl
  | cons f rest ih => rw [lexemesOfItems, ih, List.flatMap_cons]

@[simp]
theorem lexemes_atom (t : String) : (Form.atom t).lexemes = [.word t] := rfl

@[simp]
theorem lexemes_list (items : List Form) :
    (Form.list items).lexemes =
      .opener .round :: (items.flatMap lexemes ++ [.closer .round]) := by
  rw [lexemes, lexemesOfItems_eq_flatMap]

/-- A spelling starts with a word or an opener. -/
theorem exists_lexemes_eq_cons (f : Form) :
    ∃ l rest, f.lexemes = l :: rest ∧ ∀ b, l ≠ .closer b := by
  cases f with
  | atom t => exact ⟨_, _, rfl, nofun⟩
  | list items => exact ⟨_, _, rfl, nofun⟩

/-- The lexemes start with no form: there are none, or a closer comes first. -/
def EndsForms (ls : List Lexeme) : Prop :=
  ∀ l ∈ ls.head?, ∃ b, l = .closer b

theorem not_endsForms_lexemes_append (f : Form) (ls : List Lexeme) :
    ¬ EndsForms (f.lexemes ++ ls) := by
  obtain ⟨l, rest, hl, hne⟩ := f.exists_lexemes_eq_cons
  intro h
  obtain ⟨b, hb⟩ := h l (by rw [hl, List.cons_append, List.head?_cons, Option.mem_some_iff])
  exact hne b hb

/-- Spellings of forms one after the other, before lexemes that start with no form, are spellings of
    the same forms if the spelling of each determines it. -/
theorem eq_of_flatMap_lexemes_append {fs gs : List Form} {u v : List Lexeme}
    (hf : ∀ f ∈ fs, ∀ (g : Form) (u v : List Lexeme),
      f.lexemes ++ u = g.lexemes ++ v → f = g ∧ u = v)
    (hu : EndsForms u) (hv : EndsForms v)
    (h : fs.flatMap lexemes ++ u = gs.flatMap lexemes ++ v) : fs = gs ∧ u = v := by
  induction fs generalizing gs with
  | nil =>
    cases gs with
    | nil => exact ⟨rfl, h⟩
    | cons g gs =>
      rw [List.flatMap_nil, List.nil_append, List.flatMap_cons, List.append_assoc] at h
      exact absurd (h ▸ hu) (not_endsForms_lexemes_append g _)
  | cons f fs ih =>
    rw [List.flatMap_cons, List.append_assoc] at h
    cases gs with
    | nil =>
      rw [List.flatMap_nil, List.nil_append] at h
      exact absurd (h ▸ hv) (not_endsForms_lexemes_append f _)
    | cons g gs =>
      rw [List.flatMap_cons, List.append_assoc] at h
      obtain ⟨rfl, hrest⟩ := hf f List.mem_cons_self g _ _ h
      obtain ⟨rfl, huv⟩ := ih (fun f' hf' => hf f' (List.mem_cons_of_mem _ hf')) hrest
      exact ⟨rfl, huv⟩

theorem endsForms_closer (b : Reader.Bracket) (ls : List Lexeme) : EndsForms (.closer b :: ls) := by
  intro l hl
  rw [List.head?_cons, Option.mem_some_iff] at hl
  exact ⟨b, hl.symm⟩

theorem endsForms_nil : EndsForms [] := nofun

/-- The spelling of a form determines the form, and where it ends. -/
theorem eq_of_lexemes_append (f g : Form) (u v : List Lexeme)
    (h : f.lexemes ++ u = g.lexemes ++ v) : f = g ∧ u = v := by
  induction f using structuralInduction generalizing g u v with
  | atom t =>
    cases g with
    | atom t' => simpa using h
    | list items => simp at h
  | list items ih =>
    cases g with
    | atom t => simp at h
    | list items' =>
      have hitems : items.flatMap lexemes ++ .closer .round :: u =
          items'.flatMap lexemes ++ .closer .round :: v := by simpa using h
      obtain ⟨rfl, htail⟩ := eq_of_flatMap_lexemes_append (fun f hf g u v => ih f hf g u v)
        (endsForms_closer _ _) (endsForms_closer _ _) hitems
      exact ⟨rfl, (List.cons.inj htail).2⟩

/-- No two lists of forms have one spelling. -/
theorem eq_of_flatMap_lexemes {fs gs : List Form}
    (h : fs.flatMap lexemes = gs.flatMap lexemes) : fs = gs := by
  refine (eq_of_flatMap_lexemes_append (fun f _ => eq_of_lexemes_append f) endsForms_nil
    endsForms_nil ?_).1
  rw [h]

end Form

namespace Reader

/-! ## The lexemes of what is read -/

/-- The lexemes of a text spell the forms that it starts with, and behind them stand those of the
    text that is left over. -/
theorem rounded_lexemes_form_forms :
    (∀ cs p f, form? cs = some p → p.form = .ok f →
      (lexemes cs).map Lexeme.rounded = f.lexemes ++ (lexemes p.stop).map Lexeme.rounded) ∧
    ∀ cs fs, (forms cs).1.mapM Piece.form = .ok fs →
      (lexemes cs).map Lexeme.rounded =
        fs.flatMap Form.lexemes ++ (lexemes (leftover cs)).map Lexeme.rounded := by
  refine form?_forms_induction ?nil ?opener ?token ?other ?none ?some
  case nil =>
    intro p f hp
    cases hp
  case opener =>
    intro b cs ih p f hp hf
    obtain ⟨after, hafter, rfl⟩ := form?_opener_eq_some_iff.mp hp
    rw [Piece.form, formsOf_eq_mapM] at hf
    obtain ⟨items, hitems, rfl⟩ := map_eq_ok_iff.mp hf
    rw [lexemes_opener, List.map_cons, ih items hitems, hafter, lexemes_closer]
    simp
  case token =>
    intro c cs hc p f hp hf
    rw [form?_token hc] at hp
    cases hp
    rw [(builds_atom hc cs).form_eq] at hf
    cases hf
    rw [lexemes_token hc, List.map_cons]
    rfl
  case other =>
    intro c cs hopened hc p f hp
    rw [form?_eq_none_of_head hopened hc] at hp
    cases hp
  case none =>
    intro cs hform _ fs hfs
    rw [forms_of_none hform] at hfs
    cases hfs
    rw [leftover_of_none hform, lexemes_skipSeparators]
    rfl
  case some =>
    intro cs p hform hone hmany fs hfs
    rw [forms_of_some hform, List.mapM_cons] at hfs
    obtain ⟨f, hf, hfs⟩ := bind_eq_ok_iff.mp hfs
    obtain ⟨rest, hrest, heq⟩ := bind_eq_ok_iff.mp hfs
    cases heq
    rw [← lexemes_skipSeparators, hone p f hform hf, hmany rest hrest, leftover_of_some hform,
      List.flatMap_cons, List.append_assoc]

/-- The lexemes of a text that is not blank spell the forms that are read. -/
theorem rounded_lexemes_of_read {text : String} {fs : List Form}
    (hblank : Text.isBlankText text.toList = false) (h : read text = .ok fs) :
    (lexemes text.toList).map Lexeme.rounded = fs.flatMap Form.lexemes := by
  have hbalanced : Balanced text.toList := exists_read_iff.mp ⟨fs, h⟩
  rw [read_of_balanced hblank hbalanced] at h
  rw [rounded_lexemes_form_forms.2 _ _ h, leftover_eq_nil_iff.mpr hbalanced, lexemes_nil,
    List.map_nil, List.append_nil]

/-- Texts with the same lexemes up to the kinds of brackets are both blank or both not. -/
theorem isBlankText_eq_of_rounded {cs ds : List Char}
    (h : (lexemes cs).map Lexeme.rounded = (lexemes ds).map Lexeme.rounded) :
    Text.isBlankText cs = Text.isBlankText ds := by
  have hall : ∀ ls : List Lexeme, ls.all Lexeme.isBlank = (ls.map Lexeme.rounded).all
      Lexeme.isBlank := by
    intro ls
    rw [List.all_map]
    congr 1
    funext l
    exact (Lexeme.isBlank_rounded l).symm
  rw [isBlankText_eq_all_lexemes, isBlankText_eq_all_lexemes, hall, h, ← hall]

theorem eq_of_read_of_rounded {text text' : String} {fs fs' : List Form}
    (hread : read text = .ok fs) (hread' : read text' = .ok fs')
    (h : (lexemes text.toList).map Lexeme.rounded = (lexemes text'.toList).map Lexeme.rounded) :
    fs = fs' := by
  have hsame := isBlankText_eq_of_rounded h
  cases hblank : Text.isBlankText text.toList with
  | true =>
    rw [read_of_blank hblank] at hread
    rw [read_of_blank (hsame ▸ hblank)] at hread'
    cases hread
    cases hread'
    rfl
  | false =>
    rw [rounded_lexemes_of_read hblank hread,
      rounded_lexemes_of_read (hsame ▸ hblank) hread'] at h
    exact Form.eq_of_flatMap_lexemes h

/-! ## Changing a text in one place -/

/-- No word goes on from the first text into the second. -/
def Apart (front back : List Char) : Prop :=
  (∀ c ∈ front.getLast?, isTokenChar c = false) ∨ ∀ c ∈ back.head?, isTokenChar c = false

theorem Apart.of_append {front middle back : List Char} (h : Apart (front ++ middle) back) :
    Apart middle back := by
  refine h.imp_left fun hlast c hc => hlast c ?_
  rw [List.getLast?_append, hc]
  rfl

theorem Apart.of_cons {c : Char} {cs back : List Char} (h : Apart (c :: cs) back) :
    Apart cs back := by
  rw [← List.singleton_append] at h
  exact h.of_append

theorem apart_delimiter {front back : List Char} {c : Char} (h : isDelimiter c = true) :
    Apart front (c :: back) := by
  right
  intro d hd
  obtain rfl := Option.some.inj hd
  simp [isTokenChar, h]

theorem apart_separators {front seps back : List Char} (h : ∀ c ∈ seps, isSeparator c = true)
    (hapart : Apart front back) : Apart front (seps ++ back) := by
  cases seps with
  | nil => exact hapart
  | cons c seps =>
    right
    intro d hd
    obtain rfl := Option.some.inj hd
    exact isTokenChar_of_isSeparator (h c List.mem_cons_self)

/-- A word ends before the cut. -/
theorem span_append {c : Char} {cs back : List Char} (hc : isTokenChar c = true)
    (h : Apart (c :: cs) back) :
    (cs ++ back).takeWhile isTokenChar = cs.takeWhile isTokenChar ∧
      (cs ++ back).dropWhile isTokenChar = cs.dropWhile isTokenChar ++ back := by
  induction cs generalizing c with
  | nil =>
    have hback : ∀ d ∈ back.head?, isTokenChar d = false := by
      refine h.resolve_left fun hlast => ?_
      rw [hlast c rfl] at hc
      cases hc
    cases back with
    | nil => exact ⟨rfl, rfl⟩
    | cons d back => simp [hback d rfl]
  | cons d cs ih =>
    cases hd : isTokenChar d with
    | false => simp [hd]
    | true => simp [hd, ih hd h.of_cons]

/-- The lexemes of a text that is cut anywhere but inside of a word. -/
theorem lexemes_append {front back : List Char} (h : Apart front back) :
    lexemes (front ++ back) = lexemes front ++ lexemes back := by
  induction front using lexemesInduction with
  | nil => rw [lexemes_nil, List.nil_append, List.nil_append]
  | token c cs hc ih =>
    obtain ⟨htake, hdrop⟩ := span_append hc h
    have hrest : Apart (cs.dropWhile isTokenChar) back := by
      have hcs : Apart cs back := h.of_cons
      rw [← List.takeWhile_append_dropWhile (p := isTokenChar) (l := cs)] at hcs
      exact hcs.of_append
    rw [List.cons_append, lexemes_token hc, lexemes_token hc, htake, hdrop, ih hrest,
      List.cons_append]
  | opener b cs ih =>
    rw [List.cons_append, lexemes_opener, lexemes_opener, ih h.of_cons, List.cons_append]
  | closer b cs ih =>
    rw [List.cons_append, lexemes_closer, lexemes_closer, ih h.of_cons, List.cons_append]
  | separator c cs hc ih =>
    rw [List.cons_append, lexemes_separator hc, lexemes_separator hc, ih h.of_cons]

/-- Separators between words leave the lexemes as they are. -/
theorem lexemes_insert_separators {front seps back : List Char}
    (hseps : ∀ c ∈ seps, isSeparator c = true) (h : Apart front back) :
    lexemes (front ++ (seps ++ back)) = lexemes (front ++ back) := by
  rw [lexemes_append (apart_separators hseps h), lexemes_append h,
    lexemes_separators_append hseps]

/-- A pair of brackets has the same lexemes up to kinds whichever kind it is of. -/
theorem rounded_lexemes_pair (b : Bracket) (front inside back : List Char) :
    (lexemes (front ++ b.opener :: (inside ++ b.closer :: back))).map Lexeme.rounded =
      (lexemes front).map Lexeme.rounded ++ .opener .round ::
        ((lexemes inside).map Lexeme.rounded ++ .closer .round ::
          (lexemes back).map Lexeme.rounded) := by
  rw [lexemes_append (apart_delimiter (isDelimiter_opener b)), lexemes_opener,
    lexemes_append (apart_delimiter (isDelimiter_closer b)), lexemes_closer]
  simp

theorem balanced_pair_iff {inside : List Char} (h : Balanced inside) (b : Bracket)
    (front back : List Char) :
    Balanced (front ++ b.opener :: (inside ++ b.closer :: back)) ↔ Balanced (front ++ back) := by
  have hpair : Balanced (b.opener :: (inside ++ b.closer :: [])) := .pair b h .nil
  have hinsert := hpair.insert_iff front back
  rwa [List.cons_append, List.append_assoc, List.cons_append, List.nil_append] at hinsert

/-- Of two texts with the same lexemes up to the kinds of brackets, both in balance or neither, the
    same is read. -/
theorem read_eq_ok_iff_of_rounded {text text' : String} {fs : List Form}
    (hbalanced : Balanced text.toList ↔ Balanced text'.toList)
    (h : (lexemes text.toList).map Lexeme.rounded = (lexemes text'.toList).map Lexeme.rounded) :
    read text = .ok fs ↔ read text' = .ok fs := by
  constructor
  · intro hread
    obtain ⟨fs', hread'⟩ := exists_read_iff.mpr (hbalanced.mp (exists_read_iff.mp ⟨fs, hread⟩))
    rw [eq_of_read_of_rounded hread hread' h, hread']
  · intro hread
    obtain ⟨fs', hread'⟩ := exists_read_iff.mpr (hbalanced.mpr (exists_read_iff.mp ⟨fs, hread⟩))
    rw [eq_of_read_of_rounded hread hread' h.symm, hread']

/-- **Reading depends on lexemes only.** Two texts that can be read, and whose lexemes are the same
once all brackets are round, hold the same forms. So what is read, and whether anything is, stays
the same when separators are put in or taken out where they part no word, and when the two brackets
of a pair are exchanged for those of another kind. -/
theorem read_eq_of_lexemes :
    (∀ (text text' : String) (fs fs' : List Form), read text = .ok fs → read text' = .ok fs' →
      (lexemes text.toList).map Lexeme.rounded = (lexemes text'.toList).map Lexeme.rounded →
        fs = fs') ∧
    (∀ (front seps back : List Char) (fs : List Form), (∀ c ∈ seps, isSeparator c = true) →
      Apart front back → (read (String.ofList (front ++ (seps ++ back))) = .ok fs ↔
        read (String.ofList (front ++ back)) = .ok fs)) ∧
    ∀ (b b' : Bracket) (front inside back : List Char) (fs : List Form), Balanced inside →
      (read (String.ofList (front ++ b.opener :: (inside ++ b.closer :: back))) = .ok fs ↔
        read (String.ofList (front ++ b'.opener :: (inside ++ b'.closer :: back))) = .ok fs) := by
  refine ⟨fun _ _ _ _ => eq_of_read_of_rounded, ?separators, ?brackets⟩
  case separators =>
    intro front seps back fs hseps hapart
    have hplain : Balanced seps := .of_plain fun c hc => isDelimiter_of_isSeparator (hseps c hc)
    apply read_eq_ok_iff_of_rounded
    · simpa using hplain.insert_iff front back
    · simp [lexemes_insert_separators hseps hapart]
  case brackets =>
    intro b b' front inside back fs hinside
    apply read_eq_ok_iff_of_rounded
    · simp [balanced_pair_iff hinside]
    · simp [rounded_lexemes_pair]

/-- A form in round brackets, in brackets of other kinds with other separators, without one of its
    separators, and with one pair exchanged. -/
theorem read_eq_of_lexemes_let :
    let text := "(let ((x 1)) x)"
    let text' := "[let\x7b(x\t1 )\x7dx]"
    let f : Form := .list [.atom "let", .list [.list [.atom "x", .atom "1"]], .atom "x"]
    let bracketed (b : Bracket) : String :=
      String.ofList ("(let ".toList ++ b.opener :: ("(x 1)".toList ++ b.closer :: " x)".toList))
    (∃ fs fs', read text = .ok fs ∧ read text' = .ok fs' ∧
      (lexemes text.toList).map Lexeme.rounded = (lexemes text'.toList).map Lexeme.rounded ∧
        fs = fs') ∧
    ((∀ c ∈ [' '], isSeparator c = true) ∧ Apart "(let".toList "((x 1)) x)".toList ∧
      (read (String.ofList ("(let".toList ++ ([' '] ++ "((x 1)) x)".toList))) = .ok [f] ↔
        read (String.ofList ("(let".toList ++ "((x 1)) x)".toList)) = .ok [f])) ∧
    Balanced "(x 1)".toList ∧
      (read (bracketed .round) = .ok [f] ↔ read (bracketed .curly) = .ok [f]) := by
  intro text text' f bracketed
  have hread : read text = .ok [f] := by decide +kernel
  have hread' : read text' = .ok [f] := by decide +kernel
  have hlexemes : (lexemes text.toList).map Lexeme.rounded =
      (lexemes text'.toList).map Lexeme.rounded := by decide +kernel
  have hseps : ∀ c ∈ [' '], isSeparator c = true := by simp [isSeparator]
  have hapart : Apart "(let".toList "((x 1)) x)".toList := apart_delimiter rfl
  have hinside : Balanced "(x 1)".toList :=
    exists_read_iff.mp ⟨[.list [.atom "x", .atom "1"]], by decide +kernel⟩
  exact ⟨⟨_, _, hread, hread', hlexemes, read_eq_of_lexemes.1 _ _ _ _ hread hread' hlexemes⟩,
    ⟨hseps, hapart, read_eq_of_lexemes.2.1 _ _ _ _ hseps hapart⟩,
    hinside, read_eq_of_lexemes.2.2 _ _ _ _ _ _ hinside⟩

end Reader

end MacroByExample
