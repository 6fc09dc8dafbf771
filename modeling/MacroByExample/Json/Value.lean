/-!
# JSON values and their texts

The texts are those that the package `serde_json` writes.

Main definitions:
* `Value`: the values that the library writes.
* `Value.compact`: the text without white space.
* `Value.pretty`: the text with one item or member on a line, two spaces further in on each level.
-/

namespace MacroByExample.Json

/-- A JSON value. Objects keep the order of their members. -/
inductive Value where
  | boolean (value : Bool)
  | natural (value : Nat)
  | string (value : String)
  | array (items : List Value)
  | object (members : List (String × Value))

/-! ## Strings -/

/-- The hexadecimal digit of a number below sixteen. -/
def hexDigitChar (n : Nat) : Char :=
  Nat.digitChar n

/-- A character as it is written in a string: quotes, backslashes and control characters are
    escaped, and nothing else. -/
def escapeChar (c : Char) : List Char :=
  if c = '"' then ['\\', '"']
  else if c = '\\' then ['\\', '\\']
  else if c = '\x08' then ['\\', 'b']
  else if c = '\t' then ['\\', 't']
  else if c = '\n' then ['\\', 'n']
  else if c = '\x0c' then ['\\', 'f']
  else if c = '\r' then ['\\', 'r']
  else if c.toNat < 0x20 then
    ['\\', 'u', '0', '0', hexDigitChar (c.toNat / 16), hexDigitChar (c.toNat % 16)]
  else [c]

/-- A string in quotes. -/
def stringChars (s : String) : List Char :=
  '"' :: (s.toList.flatMap escapeChar ++ ['"'])

/-! ## Values -/

/-- The characters of the truth value or the number. -/
def booleanChars (b : Bool) : List Char :=
  (if b then "true" else "false").toList

/-- The characters of a natural number in decimal. -/
def naturalChars (n : Nat) : List Char :=
  (Nat.repr n).toList

namespace Value

mutual

/-- The characters of the text without white space. -/
def compactChars : Value → List Char
  | .boolean b => booleanChars b
  | .natural n => naturalChars n
  | .string s => stringChars s
  | .array items => '[' :: (compactItems items ++ [']'])
  | .object members => '\x7b' :: (compactMembers members ++ ['\x7d'])

/-- The items of an array, separated by commas. -/
def compactItems : List Value → List Char
  | [] => []
  | [v] => compactChars v
  | v :: w :: rest => compactChars v ++ ',' :: compactItems (w :: rest)

/-- The members of an object, separated by commas. -/
def compactMembers : List (String × Value) → List Char
  | [] => []
  | [(key, v)] => stringChars key ++ ':' :: compactChars v
  | (key, v) :: w :: rest =>
    stringChars key ++ ':' :: (compactChars v ++ ',' :: compactMembers (w :: rest))

end

/-- The text without white space (`to_string`). -/
def compact (v : Value) : String :=
  String.ofList v.compactChars

/-- A line feed and the indentation of a level. -/
def newLine (level : Nat) : List Char :=
  '\n' :: List.replicate (2 * level) ' '

mutual

/-- The characters of the text of a value that stands on the given level. -/
def prettyChars (level : Nat) : Value → List Char
  | .boolean b => booleanChars b
  | .natural n => naturalChars n
  | .string s => stringChars s
  | .array items =>
    if items.isEmpty then ['[', ']']
    else '[' :: (prettyItems (level + 1) items ++ (newLine level ++ [']']))
  | .object members =>
    if members.isEmpty then ['\x7b', '\x7d']
    else '\x7b' :: (prettyMembers (level + 1) members ++ (newLine level ++ ['\x7d']))

/-- The items of an array, each on a line of its own. -/
def prettyItems (level : Nat) : List Value → List Char
  | [] => []
  | [v] => newLine level ++ prettyChars level v
  | v :: w :: rest => newLine level ++ (prettyChars level v ++ ',' :: prettyItems level (w :: rest))

/-- The members of an object, each on a line of its own. -/
def prettyMembers (level : Nat) : List (String × Value) → List Char
  | [] => []
  | [(key, v)] => newLine level ++ (stringChars key ++ ':' :: ' ' :: prettyChars level v)
  | (key, v) :: w :: rest =>
    newLine level ++ (stringChars key ++ ':' :: ' ' ::
      (prettyChars level v ++ ',' :: prettyMembers level (w :: rest)))

end

/-- The text with one item or member on a line (`to_string_pretty`). -/
def pretty (v : Value) : String :=
  String.ofList (v.prettyChars 0)

end Value

end MacroByExample.Json
