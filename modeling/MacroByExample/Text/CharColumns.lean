import MacroByExample.Text.Blank
import MacroByExample.Text.ColumnTable

/-!
# Columns of a character

How many columns a terminal needs for a character that stands alone, and the classes of characters
whose columns depend on what stands next to them, as the package `unicode-width` has them.

Main definitions:
* `Text.charColumns`: the columns of a character that stands alone.
* `Text.isEmoji`, `Text.hasEmojiForm`, `Text.isToneable`, …: the classes of emoji.
* `Text.isAlef`, `Text.isLam`, `Text.isTifinagh`, …: the classes of letters that join into
  ligatures.
-/

namespace MacroByExample.Text

/-! ## Widths -/

/-- Whether the character comes before the signs of Latin-1: an ASCII or control character, or the
    no-break space. Each takes one column, even the control characters. -/
def isPlain (c : Char) : Bool :=
  c.toNat ≤ 0xA0

/-- The columns of a character that stands alone. The Khmer sign for "and so on" stands for three
    letters. -/
def charColumns (c : Char) : Nat :=
  if isPlain c then 1
  else if inRanges zeroColumnRanges c.toNat then 0
  else if inRanges twoColumnRanges c.toNat then 2
  else if c = '\u17D8' then 3
  else 1

/-! ## Emoji -/

/-- Whether the character is an emoji without being asked for. -/
def isEmoji (c : Char) : Bool :=
  inRanges emojiRanges c.toNat

/-- Whether a selector can ask for the emoji form of the character. -/
def hasEmojiForm (c : Char) : Bool :=
  inRanges emojiFormRanges c.toNat

/-- Whether a selector makes an emoji a sign of one column; squared ideographs stay wide. -/
def hasTextForm (c : Char) : Bool :=
  hasEmojiForm c && isEmoji c && !inRanges [(0x1F200, 0x1F2FF)] c.toNat

/-- Whether the character sets the skin tone of the emoji before it. -/
def isSkinTone (c : Char) : Bool :=
  inRanges [(0x1F3FB, 0x1F3FF)] c.toNat

/-- Whether the character is an emoji whose skin tone can be set. -/
def isToneable (c : Char) : Bool :=
  inRanges toneableRanges c.toNat

/-- Whether the character is one of the two letters that make the flag of a region. -/
def isRegional (c : Char) : Bool :=
  inRanges [(0x1F1E6, 0x1F1FF)] c.toNat

/-- Whether the character is the flag that a tag can turn into the flag of a subdivision. -/
def isTaggedFlag (c : Char) : Bool :=
  c.toNat == 0x1F3F4

/-- Whether the character is a letter of a tag. -/
def isTagLetter (c : Char) : Bool :=
  inRanges [(0xE0061, 0xE007A)] c.toNat

/-- Whether the character is a digit of a tag. -/
def isTagDigit (c : Char) : Bool :=
  inRanges [(0xE0030, 0xE0039)] c.toNat

/-- Whether the character ends a tag. -/
def isTagEnd (c : Char) : Bool :=
  c.toNat == 0xE007F

/-! ## Letters of ligatures -/

/-- Whether the character is a mark that no ligature notices. -/
def isUnnoticed (c : Char) : Bool :=
  inRanges [(0x034F, 0x034F), (0x17B4, 0x17B5), (0x180B, 0x180D), (0x180F, 0x180F),
    (0xFE00, 0xFE0F), (0xE0100, 0xE01EF)] c.toNat

/-- Whether the character takes no column and Arabic letters join across it. -/
def isJoinedAcross (c : Char) : Bool :=
  inRanges zeroColumnRanges c.toNat && !inRanges nonJoiningRanges c.toNat

/-- Whether the character is an Arabic alef. -/
def isAlef (c : Char) : Bool :=
  inRanges [(0x0622, 0x0623), (0x0625, 0x0625), (0x0627, 0x0627), (0x0671, 0x0673),
    (0x0675, 0x0675), (0x0773, 0x0774), (0x0870, 0x0882)] c.toNat

/-- Whether the character is an Arabic lam. -/
def isLam (c : Char) : Bool :=
  inRanges [(0x0644, 0x0644), (0x06B5, 0x06B8), (0x076A, 0x076A), (0x08A6, 0x08A6),
    (0x08C7, 0x08C7)] c.toNat

/-- Whether the character is a Khmer letter that can be written below another. -/
def isKhmer (c : Char) : Bool :=
  inRanges [(0x1780, 0x1782), (0x1784, 0x1787), (0x1789, 0x178C), (0x178E, 0x1793),
    (0x1795, 0x1798), (0x179B, 0x179D), (0x17A0, 0x17A0), (0x17A2, 0x17A2), (0x17A7, 0x17A7),
    (0x17AB, 0x17AC), (0x17AF, 0x17AF)] c.toNat

/-- Whether the character is a Tifinagh consonant. -/
def isTifinagh (c : Char) : Bool :=
  inRanges [(0x2D31, 0x2D65), (0x2D6F, 0x2D6F)] c.toNat

/-- Whether the character is the first of two Lisu tone letters. -/
def isFirstLisuTone (c : Char) : Bool :=
  inRanges [(0xA4F8, 0xA4FB)] c.toNat

/-- Whether the character is the second of two Lisu tone letters. -/
def isSecondLisuTone (c : Char) : Bool :=
  inRanges [(0xA4FC, 0xA4FD)] c.toNat

/-- Whether the character is the first letter of the Old Turkic ligature. -/
def isFirstOrkhon (c : Char) : Bool :=
  c.toNat == 0x10C32

/-- Whether the character is the last letter of the Old Turkic ligature. -/
def isLastOrkhon (c : Char) : Bool :=
  c.toNat == 0x10C03

/-- Whether the character is a curly quotation mark, which has a wide form. -/
def isCurlyQuote (c : Char) : Bool :=
  inRanges [(0x2018, 0x2019), (0x201C, 0x201D)] c.toNat

end MacroByExample.Text
