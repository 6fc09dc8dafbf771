import MacroByExample.Reader.Grammar

/-!
# The grammar as parsing expressions

The grammar of forms in the notation it is written down in: one parsing expression for each
nonterminal, run as parsing expressions are. A choice is settled by its first alternative that
succeeds, a repetition takes as many turns as it can, and neither is ever taken back. Between the
parts of a sequence and the turns of a repetition separators are skipped, except inside of atoms.

* `Peg`, `Nonterminal.body`: parsing expressions, and the one for each nonterminal.
* `Derives`: what running an expression gives.
* `Derives.unique`: it gives one result.
-/

namespace MacroByExample.Reader

/-! ## Expressions -/

/-- A parsing expression. -/
inductive Peg where
  /-- Nothing. -/
  | empty
  /-- The given character. -/
  | char (c : Char)
  /-- Any character. -/
  | any
  /-- Nothing, at the start of the text. -/
  | startOfText
  /-- A piece of the given kind. -/
  | ref (n : Nonterminal)
  /-- Both, one behind the other. -/
  | seq (first second : Peg)
  /-- The first, or the second where the first fails. -/
  | choice (first second : Peg)
  /-- As many times as it succeeds. -/
  | star (e : Peg)
  /-- Nothing, where the expression fails. -/
  | not (e : Peg)
  /-- The separators that may stand here. -/
  | skip

namespace Peg

/-- Both, with separators between them. -/
def andThen (first second : Peg) : Peg :=
  .seq first (.seq .skip second)

/-- Once or more, with separators between. -/
def some1 (e : Peg) : Peg :=
  .seq e (.star (.seq .skip e))

/-- Any number of times, with separators between. -/
def many (e : Peg) : Peg :=
  .choice (some1 e) .empty

/-- The first of the characters that is there. -/
def oneOf (c : Char) : List Char → Peg
  | [] => .char c
  | d :: ds => .choice (.char c) (oneOf d ds)

/-- Forms in a pair of brackets. -/
def enclosed (b : Bracket) : Peg :=
  andThen (.char b.opener) (andThen (many (.ref .form)) (.char b.closer))

/-- One character of a token. -/
def tokenChar : Peg :=
  andThen (.not (.choice (.ref .delimiter) (.ref .separator))) .any

end Peg

/-! ## The grammar -/

namespace Nonterminal

open Peg

/-- The expression that defines a nonterminal. -/
def body : Nonterminal → Peg
  | .program => andThen .startOfText (andThen (many (.ref .form)) (.ref .endOfText))
  | .form => .choice (.ref .list) (.ref .atom)
  | .list => .choice (enclosed .round) (.choice (enclosed .square) (enclosed .curly))
  | .delimiter => oneOf '(' [')', '[', ']', '\x7b', '\x7d']
  | .atom => some1 tokenChar
  | .separator => oneOf ' ' ['\t', '\r', '\n']
  | .endOfText => .not .any

/-- Whether the nonterminal makes no piece of its own. -/
def isSilent : Nonterminal → Bool
  | .form | .delimiter | .separator => true
  | .program | .list | .atom | .endOfText => false

/-- Whether no separators are skipped inside of the nonterminal, and no pieces made. -/
def isAtomic : Nonterminal → Bool
  | .atom | .separator => true
  | .program | .form | .list | .delimiter | .endOfText => false

/-- The pieces that a nonterminal makes of what it matched. -/
def emitted (n : Nonterminal) (atomic : Bool) (start stop : List Char) (inner : List Piece) :
    List Piece :=
  if atomic || n.isSilent then inner else [.mk n start stop inner]

end Nonterminal

/-! ## Running expressions -/

/-- What running an expression gives: the pieces made and the text behind, or nothing where the
    expression fails. -/
abbrev Outcome :=
  Option (List Piece × List Char)

/-- The first character is taken if it is as asked for. -/
def eat (p : Char → Bool) : List Char → Outcome
  | [] => none
  | c :: cs => if p c then some ([], cs) else none

/-- Running the expression at the rest `cs` of the text gives the outcome. The flag says whether
    this is inside of an atom, where nothing is skipped and no pieces are made. -/
inductive Derives (text : List Char) : Bool → Peg → List Char → Outcome → Prop where
  | empty {atomic : Bool} {cs : List Char} : Derives text atomic .empty cs (some ([], cs))
  | char {atomic : Bool} {c : Char} {cs : List Char} :
    Derives text atomic (.char c) cs (eat (· == c) cs)
  | any {atomic : Bool} {cs : List Char} : Derives text atomic .any cs (eat (fun _ => true) cs)
  | startOfText {atomic : Bool} {cs : List Char} :
    Derives text atomic .startOfText cs (if cs = text then some ([], cs) else none)
  | ref {atomic : Bool} {n : Nonterminal} {cs : List Char} {r : Outcome}
    (body : Derives text (atomic || n.isAtomic) n.body cs r) :
    Derives text atomic (.ref n) cs (r.map fun made => (n.emitted atomic cs made.2 made.1, made.2))
  | seq {atomic : Bool} {e f : Peg} {cs mid : List Char} {ps : List Piece} {r : Outcome}
    (first : Derives text atomic e cs (some (ps, mid))) (second : Derives text atomic f mid r) :
    Derives text atomic (.seq e f) cs (r.map fun made => (ps ++ made.1, made.2))
  | seqFail {atomic : Bool} {e f : Peg} {cs : List Char} (first : Derives text atomic e cs none) :
    Derives text atomic (.seq e f) cs none
  | choice {atomic : Bool} {e f : Peg} {cs : List Char} {made : List Piece × List Char}
    (first : Derives text atomic e cs (some made)) :
    Derives text atomic (.choice e f) cs (some made)
  | choiceElse {atomic : Bool} {e f : Peg} {cs : List Char} {r : Outcome}
    (first : Derives text atomic e cs none) (second : Derives text atomic f cs r) :
    Derives text atomic (.choice e f) cs r
  | star {atomic : Bool} {e : Peg} {cs mid : List Char} {ps : List Piece} {r : Outcome}
    (turn : Derives text atomic e cs (some (ps, mid)))
    (more : Derives text atomic (.star e) mid r) :
    Derives text atomic (.star e) cs (r.map fun made => (ps ++ made.1, made.2))
  | starEnd {atomic : Bool} {e : Peg} {cs : List Char} (turn : Derives text atomic e cs none) :
    Derives text atomic (.star e) cs (some ([], cs))
  | not {atomic : Bool} {e : Peg} {cs : List Char} {r : Outcome}
    (inner : Derives text atomic e cs r) :
    Derives text atomic (.not e) cs (if r.isSome then none else some ([], cs))
  | skip {cs : List Char} {r : Outcome}
    (separators : Derives text false (.star (.ref .separator)) cs r) :
    Derives text false .skip cs r
  | skipNone {cs : List Char} : Derives text true .skip cs (some ([], cs))

variable {text : List Char}

/-- An expression gives one outcome. -/
theorem Derives.unique {atomic : Bool} {e : Peg} {cs : List Char} {r r' : Outcome}
    (h : Derives text atomic e cs r) (h' : Derives text atomic e cs r') : r' = r := by
  induction h generalizing r' with
  | empty => cases h'; rfl
  | char => cases h'; rfl
  | any => cases h'; rfl
  | startOfText => cases h'; rfl
  | ref _ ih =>
    cases h' with
    | ref body => rw [ih body]
  | seq _ _ ihFirst ihSecond =>
    cases h' with
    | seq first second =>
      cases ihFirst first
      rw [ihSecond second]
    | seqFail first => cases ihFirst first
  | seqFail _ ih =>
    cases h' with
    | seq first _ => cases ih first
    | seqFail _ => rfl
  | choice _ ih =>
    cases h' with
    | choice first => exact ih first
    | choiceElse first _ => cases ih first
  | choiceElse _ _ ihFirst ihSecond =>
    cases h' with
    | choice first => cases ihFirst first
    | choiceElse _ second => exact ihSecond second
  | star _ _ ihTurn ihMore =>
    cases h' with
    | star turn more =>
      cases ihTurn turn
      rw [ihMore more]
    | starEnd turn => cases ihTurn turn
  | starEnd _ ih =>
    cases h' with
    | star turn _ => cases ih turn
    | starEnd _ => rfl
  | not _ ih =>
    cases h' with
    | not inner => rw [ih inner]
  | skip _ ih =>
    cases h' with
    | skip separators => exact ih separators
  | skipNone => cases h'; rfl

end MacroByExample.Reader
