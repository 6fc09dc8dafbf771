import MacroByExample.Text.CharColumns

/-!
# Columns of a text

How many columns a terminal needs for a text. Most characters take the columns they take alone, but
some sequences count as a whole: a carriage return with its line feed takes one column; emoji take
two, whether they are built by a selector, a skin tone, a pair of regional letters or by joining
others; and the ligatures of some scripts take one.

The text is read from its end, because what a character takes depends on what stands after it.

These are the widths of the package `unicode-width`, by which `write_block` counts the columns of a
layout.

Main definitions:
* `Text.Follower`, `Text.After`: what stands after a character, as far as its columns depend on it.
* `Text.columnsBefore`: the columns that a character adds to those of what stands after it.
* `Text.columns`: the columns of a text.
-/

namespace MacroByExample.Text

/-! ## What stands after a character -/

/-- The end of a ligature. -/
inductive LigatureEnd where
  /-- The Hebrew letter lamed, which joins an alef. -/
  | lamed
  /-- The Buginese letter ya, and the vowel sign before it. -/
  | ya
  | vowelYa
  /-- A Tifinagh consonant, and the joiner before it. -/
  | tifinagh
  | joinedTifinagh
  /-- The second of two Lisu tone letters. -/
  | lisu
  /-- The last letter of the Old Turkic ligature. -/
  | orkhon
  /-- A Khmer letter that can be written below another. -/
  | khmer
deriving DecidableEq

/-- What the next character is, or what the next characters are together. -/
inductive Follower where
  /-- Nothing that the character could join. -/
  | other
  | lineFeed
  | skinTone
  /-- One regional letter. -/
  | regional
  /-- A row of regional letters. -/
  | regionals
  /-- An emoji, or a sequence that is shown as one. -/
  | emoji
  /-- A joiner and an emoji, whose columns are counted. -/
  | joined
  /-- A keycap before a joiner and an emoji. -/
  | joinedKeycap
  /-- Regional letters before a joiner and an emoji: one, an even number of them, or an odd one. -/
  | joinedRegional
  | joinedEven
  | joinedOdd
  /-- The end of a tag, with so many letters or digits, before a joiner and an emoji. -/
  | tagLetters (count : Nat)
  | tagDigits (count : Nat)
  /-- A Kirat Rai vowel sign that a vowel sign before it changes into another. -/
  | kiratE
  | kiratAi
  /-- The Arabic letter alef, which joins a lam. -/
  | alef
  /-- The end of a ligature; `joiner` tells whether a joiner stands before it, if it needs one. -/
  | ligature (last : LigatureEnd) (joiner : Bool)
deriving DecidableEq

/-- What a variation selector asks of the character before it. -/
inductive Selector where
  | emoji
  | text
  | wide
deriving DecidableEq

/-- What stands after a character: perhaps a selector, and then something to join. -/
structure After where
  selector : Option Selector
  follower : Follower
deriving DecidableEq

namespace After

/-- Nothing that the columns of a character depend on. -/
def nothing : After := ⟨none, .other⟩

/-- A follower without a selector. -/
def plain (f : Follower) : After := ⟨none, f⟩

end After

/-- Whether a selector that finds no use leaves the follower to be joined. -/
def Follower.outlastsSelector : Follower → Bool
  | .alef => true
  | .ligature _ _ => true
  | _ => false

/-- Whether an emoji that a selector makes shares the columns of the follower. -/
def Follower.sharesColumns : Follower → Bool
  | .joined => true
  | .joinedKeycap => true
  | _ => false

/-- What is left of what stands after a character that has no use for the selector. -/
def After.unselected (a : After) : After :=
  match a.selector with
  | none => a
  | some _ => if a.follower.outlastsSelector then .plain a.follower else .nothing

/-- What stands after the character before a selector, which takes the place of any selector after
    it. -/
def After.select (a : After) (s : Selector) : After :=
  let f := a.unselected.follower
  if f.outlastsSelector || (s == .emoji && f.sharesColumns) then ⟨some s, f⟩ else ⟨some s, .other⟩

/-! ## Characters one by one -/

/-- The columns that a character adds, and what then stands after the character before it. -/
abbrev Step := Int × After

/-- A character that joins nothing, to be joined by others. -/
def followerOf (c : Char) : Follower :=
  if c = '\u05DC' then .ligature .lamed false
  else if isAlef c then .alef
  else if isKhmer c then .ligature .khmer true
  else if c = '\u1A10' then .ligature .ya false
  else if isTifinagh c then .ligature .tifinagh false
  else if isSecondLisuTone c then .ligature .lisu true
  else if isLastOrkhon c then .ligature .orkhon false
  else if c.toNat = 0x16D67 then .kiratE
  else if c.toNat = 0x16D68 then .kiratAi
  else if isRegional c then .regional
  else if isSkinTone c then .skinTone
  else if isEmoji c then .emoji
  else .other

/-- A character that joins nothing. -/
def standAlone (c : Char) : Step :=
  (charColumns c, .plain (followerOf c))

/-- A selector, if the character is one. The second of the selectors asks for the wide form. -/
def selector? (c : Char) : Option Selector :=
  if c = '\uFE0F' then some .emoji
  else if c = '\uFE0E' then some .text
  else if c = '\uFE01' then some .wide
  else none

/-- A character before a follower that it joins: the columns it adds, and what they are together. -/
def join? (c : Char) : Follower → Option (Int × Follower)
  | .alef =>
    if isLam c then some (0, .other)
    else if isJoinedAcross c then some (0, .alef)
    else none
  | .ligature last joiner =>
    if c = '\u200D' then some (0, .ligature last true)
    else if isUnnoticed c then some (0, .ligature last joiner)
    else
      match last, joiner with
      | .lamed, true => if c = '\u05D0' then some (0, .other) else none
      | .khmer, _ => if c = '\u17D2' then some (-1, .other) else none
      | .ya, true => if c = '\u1A17' then some (0, .ligature .vowelYa true) else none
      | .vowelYa, _ => if c = '\u1A15' then some (0, .other) else none
      | .tifinagh, _ =>
        if c = '\u2D7F' then some (1, .ligature .joinedTifinagh true)
        else if joiner && isTifinagh c then some (0, .other)
        else none
      | .joinedTifinagh, _ => if isTifinagh c then some (-1, .other) else none
      | .lisu, _ => if isFirstLisuTone c then some (0, .other) else none
      | .orkhon, true => if isFirstOrkhon c then some (0, .other) else none
      | _, _ => none
  | .skinTone =>
    if isToneable c then some (0, .emoji)
    else if c = '\u200D' then some (0, .joined)
    else none
  | .regional => if isRegional c then some (1, .regionals) else none
  | .regionals =>
    if isRegional c then some (1, .regionals)
    else if c = '\u200D' then some (0, .joined)
    else none
  | .emoji => if c = '\u200D' then some (0, .joined) else none
  | .joined =>
    if c = '\u20E3' then some (0, .joinedKeycap)
    else if isRegional c then some (1, .joinedRegional)
    else if isSkinTone c then some (0, .skinTone)
    else if isTagEnd c then some (0, .tagLetters 0)
    else if followerOf c = .emoji then some (0, .emoji)
    else none
  | .joinedRegional => if isRegional c then some (-1, .joinedEven) else none
  | .joinedEven =>
    if isRegional c then some (3, .joinedOdd)
    else if c = '\u200D' then some (0, .joined)
    else none
  | .joinedOdd =>
    if isRegional c then some (-1, .joinedEven)
    else if c = '\u200D' then some (0, .joined)
    else none
  | .tagLetters count =>
    if isTagLetter c && count < 6 then some (0, .tagLetters (count + 1))
    else if isTagDigit c && count < 5 then some (0, .tagDigits 1)
    else if isTaggedFlag c && 3 ≤ count then some (0, .emoji)
    else none
  | .tagDigits count =>
    if isTagDigit c && count < 3 then some (0, .tagDigits (count + 1))
    else if isTaggedFlag c && count == 3 then some (0, .emoji)
    else none
  | .kiratE =>
    if c.toNat = 0x16D63 then some (0, .other)
    else if c.toNat = 0x16D67 then some (0, .kiratAi)
    else if c.toNat = 0x16D68 then some (1, .kiratE)
    else if c.toNat = 0x16D69 then some (0, .other)
    else none
  | .kiratAi => if c.toNat = 0x16D63 then some (0, .other) else none
  | _ => none

/-- A character that no selector and no joining concerns. -/
def plainBefore (c : Char) (f : Follower) : Step :=
  if c = '\n' then (1, .plain .lineFeed)
  else if c = '\r' && f == .lineFeed then (0, .nothing)
  else (1, .nothing)

/-- A character before what stands after it. -/
def columnsBefore (c : Char) (a : After) : Step :=
  if a.selector == some .emoji && hasEmojiForm c then
    (if a.follower.sharesColumns then 0 else 2, .plain .emoji)
  else if isPlain c then plainBefore c a.unselected.follower
  else
    match selector? c with
    | some s => (0, a.select s)
    | none =>
      if a.selector == some .text && hasTextForm c then (1, .nothing)
      else if a.selector == some .wide && isCurlyQuote c then (2, .nothing)
      else
        match join? c a.unselected.follower with
        | some (n, f) => (n, .plain f)
        | none => standAlone c

/-! ## Texts -/

/-- The columns of a text, and what stands at its front. -/
def columnsAndFront : List Char → Step
  | [] => (0, .nothing)
  | c :: cs =>
    match columnsAndFront cs with
    | (total, after) =>
      match columnsBefore c after with
      | (n, front) => (n + total, front)

/-- The columns of a text. -/
def columns (cs : List Char) : Nat :=
  (columnsAndFront cs).1.toNat

end MacroByExample.Text
