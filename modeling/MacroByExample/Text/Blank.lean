/-!
# Blank characters

The characters that Unicode calls white space. A text made of them alone holds no form, and none
of them may stand in an ellipsis marker: `parse_spanned` trims them off a text, and `validate` looks
for them in a marker. The reader separates tokens by fewer characters: see
`MacroByExample.Reader.Delimiter`.

Main definitions:
* `Text.isBlank`: the property White_Space of Unicode.
* `Text.isBlankText`: a text with nothing but blank characters.
-/

namespace MacroByExample.Text

/-- The white-space characters above ASCII, as ranges of code points. -/
def blankRanges : List (Nat × Nat) :=
  [(0x85, 0x85), (0xA0, 0xA0), (0x1680, 0x1680), (0x2000, 0x200A), (0x2028, 0x2029),
   (0x202F, 0x202F), (0x205F, 0x205F), (0x3000, 0x3000)]

/-- Whether a code point lies in one of the ranges, ends included. -/
def inRanges (ranges : List (Nat × Nat)) (n : Nat) : Bool :=
  ranges.any fun r => r.1 ≤ n && n ≤ r.2

/-- Whether the character is white space (`is_whitespace`). -/
def isBlank (c : Char) : Bool :=
  c == ' ' || (0x09 ≤ c.toNat && c.toNat ≤ 0x0D) || inRanges blankRanges c.toNat

/-- Whether every character of the text is white space. -/
def isBlankText (cs : List Char) : Bool :=
  cs.all isBlank

end MacroByExample.Text
