import MacroByExample.Text.Blank
import MacroByExample.Text.ColumnTable
import MacroByExample.Text.UnseenTable

/-!
# Quoted text in messages

A text that a message quotes shows every character so that it can be told apart: quotes,
backslashes and the usual control characters behind a backslash, and all others that would not be
seen by themselves by their code points. The package `serde_json` quotes the text that it finds in
place of another value in this way.

Main definitions:
* `Text.isSelfEvident`: whether a character is shown as it is.
* `Text.quoted`: a text in quotes.
-/

namespace MacroByExample.Text

/-- Letters and signs that take no column of their own and can be seen by themselves. -/
def visibleRanges : List (Nat × Nat) :=
  [(0x0D4E, 0x0D4E), (0x1161, 0x11FF), (0xA8FA, 0xA8FA), (0xD7B0, 0xD7C6), (0xD7CB, 0xD7FB),
   (0x111C2, 0x111C3), (0x113D1, 0x113D1), (0x1193F, 0x1193F), (0x11941, 0x11941),
   (0x11A84, 0x11A89), (0x11D46, 0x11D46), (0x11F02, 0x11F02)]

/-- Whether a character is shown as it is. -/
def isSelfEvident (c : Char) : Bool :=
  if c.toNat < 0x7F then 0x20 ≤ c.toNat
  else !inRanges unseenRanges c.toNat
    && (!inRanges zeroColumnRanges c.toNat || inRanges visibleRanges c.toNat)

/-- A character as it stands in a quoted text. -/
def quotedChar (c : Char) : List Char :=
  if c = '"' then ['\\', '"']
  else if c = '\\' then ['\\', '\\']
  else if c = '\x00' then ['\\', '0']
  else if c = '\t' then ['\\', 't']
  else if c = '\n' then ['\\', 'n']
  else if c = '\r' then ['\\', 'r']
  else if isSelfEvident c then [c]
  else ['\\', 'u', '\x7b'] ++ (Nat.toDigits 16 c.toNat ++ ['\x7d'])

/-- A text in quotes. -/
def quoted (s : String) : String :=
  String.ofList ('"' :: (s.toList.flatMap quotedChar ++ ['"']))

end MacroByExample.Text
