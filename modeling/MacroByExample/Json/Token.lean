import MacroByExample.Json.Error
import MacroByExample.Text.Bytes

/-!
# The smallest parts of a JSON text

White space, words, strings and numbers, each read from the front of a text. A number without a
fraction or an exponent is an integer if 64 bits hold it; any other number is a double, computed
from the digits that 64 bits hold and a power of ten. The package `serde_json` reads them so.

Main definitions:
* `Reader`: what reads a value and the text after it.
* `skipBlank`, `word`, `stringTail`, `number`: the parts.
-/

namespace MacroByExample.Json

/-- Reads a value from the front of a text; the result has the text after it. -/
abbrev Reader (α : Type) := List Char → Except Error (α × List Char)

/-- Whether the character may stand between any two parts. -/
def isBlank (c : Char) : Bool :=
  c == ' ' || c == '\t' || c == '\n' || c == '\r'

/-- The text after its leading white space. -/
def skipBlank (cs : List Char) : List Char :=
  cs.dropWhile isBlank

/-- The text after the characters of a word. -/
def word : List Char → List Char → Except Error (List Char)
  | [], cs => .ok cs
  | _ :: _, [] => .error .unfinished
  | w :: ws, c :: cs => if c = w then word ws cs else .error .malformed

/-! ## Strings -/

/-- The value of a hexadecimal digit. -/
def hexDigit? (c : Char) : Option Nat :=
  if '0' ≤ c ∧ c ≤ '9' then some (c.toNat - '0'.toNat)
  else if 'a' ≤ c ∧ c ≤ 'f' then some (c.toNat - 'a'.toNat + 10)
  else if 'A' ≤ c ∧ c ≤ 'F' then some (c.toNat - 'A'.toNat + 10)
  else none

/-- The value of four hexadecimal digits. -/
def hexValue? (a b c d : Char) : Option Nat := do
  let a ← hexDigit? a
  let b ← hexDigit? b
  let c ← hexDigit? c
  let d ← hexDigit? d
  return ((a * 16 + b) * 16 + c) * 16 + d

/-- Fewer than four characters in place of four hexadecimal digits: the text has ended if they take
    fewer than four bytes. -/
def shortHex (cs : List Char) : Error :=
  if Text.byteLength cs < 4 then .unfinished else .malformed

/-- The character that an escape of two characters stands for. -/
def escaped? (c : Char) : Option Char :=
  if c = '"' ∨ c = '\\' ∨ c = '/' then some c
  else if c = 'b' then some '\x08'
  else if c = 'f' then some '\x0c'
  else if c = 'n' then some '\n'
  else if c = 'r' then some '\r'
  else if c = 't' then some '\t'
  else none

/-- Whether the unit is the first of a surrogate pair. -/
def isHighSurrogate (n : Nat) : Bool := 0xD800 ≤ n && n ≤ 0xDBFF

/-- Whether the unit is the second of a surrogate pair. -/
def isLowSurrogate (n : Nat) : Bool := 0xDC00 ≤ n && n ≤ 0xDFFF

/-- The code point of a surrogate pair. -/
def surrogatePair (high low : Nat) : Nat :=
  0x10000 + (high - 0xD800) * 0x400 + (low - 0xDC00)

/-- One more character in front of those of a string. -/
def push (c : Char) (r : Except Error (List Char × List Char)) :
    Except Error (List Char × List Char) :=
  r.map fun s => (c :: s.1, s.2)

/-- The characters of a string up to its closing quote, and the text after that. -/
def stringTail : List Char → Except Error (List Char × List Char)
  | [] => .error .unfinished
  | '"' :: rest => .ok ([], rest)
  | ['\\'] => .error .unfinished
  | '\\' :: 'u' :: a :: b :: c :: d :: rest =>
    match hexValue? a b c d with
    | none => .error .malformed
    | some n =>
      if isLowSurrogate n then .error .malformed
      else if isHighSurrogate n then
        match rest with
        | [] => .error .unfinished
        | ['\\'] => .error .unfinished
        | '\\' :: 'u' :: e :: f :: g :: h :: after =>
          match hexValue? e f g h with
          | none => .error .malformed
          | some m =>
            if isLowSurrogate m then push (Char.ofNat (surrogatePair n m)) (stringTail after)
            else .error .malformed
        | '\\' :: 'u' :: short => .error (shortHex short)
        | _ => .error .malformed
      else push (Char.ofNat n) (stringTail rest)
  | '\\' :: 'u' :: short => .error (shortHex short)
  | '\\' :: c :: rest =>
    match escaped? c with
    | some e => push e (stringTail rest)
    | none => .error .malformed
  | c :: rest => if c.toNat < 0x20 then .error .malformed else push c (stringTail rest)

/-- The text after a string that nobody asked for; its surrogates need not be paired. -/
def skipStringTail : List Char → Except Error (List Char)
  | [] => .error .unfinished
  | '"' :: rest => .ok rest
  | ['\\'] => .error .unfinished
  | '\\' :: 'u' :: a :: b :: c :: d :: rest =>
    if (hexValue? a b c d).isSome then skipStringTail rest else .error .malformed
  | '\\' :: 'u' :: short => .error (shortHex short)
  | '\\' :: c :: rest => if (escaped? c).isSome then skipStringTail rest else .error .malformed
  | c :: rest => if c.toNat < 0x20 then .error .malformed else skipStringTail rest

/-! ## Numbers -/

/-- A number as its text gives it. -/
inductive Number where
  | natural (value : Nat)
  /-- The integer below zero with this absolute value. -/
  | negative (value : Nat)
  | decimal (value : Float)

/-- What was found where a number stands. -/
def Number.found : Number → Found
  | .natural value => .natural value
  | .negative value => .negative value
  | .decimal value => .decimal value

/-- The digits at the front of a text, and the text after them. -/
def digits (cs : List Char) : List Nat × List Char :=
  ((cs.takeWhile Char.isDigit).map fun c => c.toNat - '0'.toNat, cs.dropWhile Char.isDigit)

/-- One digit at least; otherwise the text is malformed or ends too early. -/
def someDigits (cs : List Char) : Except Error (List Nat × List Char) :=
  match digits cs with
  | ([], []) => .error .unfinished
  | ([], _ :: _) => .error .malformed
  | r => .ok r

/-- The digits after `significand` that 64 bits hold together with it, and the number of those that
    they do not. -/
def accumulate (significand : Nat) : List Nat → Nat × Nat
  | [] => (significand, 0)
  | d :: ds =>
    if significand * 10 + d < Nat.pow 2 64 then accumulate (significand * 10 + d) ds
    else (significand, ds.length + 1)

/-- Divides by `10 ^ 308` until the exponent is in the range of doubles, or nothing is left. -/
def scaleDown (f : Float) : Nat → Nat → Float
  | 0, _ => f
  | fuel + 1, e =>
    if e ≤ 308 then f / Float.ofScientific 1 false e
    else if f == 0.0 then f
    else scaleDown (f / Float.ofScientific 1 false 308) fuel (e - 308)

/-- The double near `significand * 10 ^ e`; none if it is too large. -/
def double? (significand : Nat) (e : Int) : Option Float :=
  let f := Float.ofNat significand
  if 0 ≤ e then
    if e ≤ 308 then
      let g := f * Float.ofScientific 1 false e.toNat
      if g.isInf then none else some g
    else if significand = 0 then some f
    else none
  else some (scaleDown f e.natAbs e.natAbs)

/-- A double with its sign, or the error of one that is too large. -/
def signed (positive : Bool) (f : Option Float) : Except Error Number :=
  match f with
  | none => .error .malformed
  | some f => .ok (.decimal (if positive then f else -f))

/-- Exponents above this are not computed: the number is zero or too large. -/
def exponentLimit : Nat := Nat.pow 2 31 - 1

/-- The value of a digit sequence. -/
def valueOf (ds : List Nat) : Nat :=
  ds.foldl (fun n d => n * 10 + d) 0

/-- The number whose digits are read, at its exponent if it has one. -/
def numberExponent (positive : Bool) (significand : Nat) (e : Int) : Reader Number
  | [] => return (← signed positive (double? significand e), [])
  | c :: cs =>
    if c = 'e' ∨ c = 'E' then do
      let (down, cs) := match cs with
        | '+' :: rest => (false, rest)
        | '-' :: rest => (true, rest)
        | _ => (false, cs)
      let (ds, rest) ← someDigits cs
      let shift := valueOf ds
      if exponentLimit < shift then
        if significand ≠ 0 ∧ !down then .error .malformed
        else return (← signed positive (some 0.0), rest)
      else
        let e := if down then e - shift else e + shift
        return (← signed positive (double? significand e), rest)
    else return (← signed positive (double? significand e), c :: cs)

/-- The number whose whole digits are read: `dropped` of them are not in the significand. -/
def numberAfter (positive : Bool) (significand dropped : Nat) : Reader Number
  | '.' :: cs => do
    let (ds, rest) ← someDigits cs
    let (more, left) := accumulate significand ds
    numberExponent positive more ((dropped : Int) - (ds.length - left : Nat)) rest
  | cs =>
    if dropped = 0 ∧ cs.head? ≠ some 'e' ∧ cs.head? ≠ some 'E' then
      if positive then .ok (.natural significand, cs)
      else if 1 ≤ significand ∧ significand ≤ Nat.pow 2 63 then .ok (.negative significand, cs)
      else do return (← signed false (some (Float.ofNat significand)), cs)
    else numberExponent positive significand dropped cs

/-- A number after its sign; no zero may stand in front of another digit. -/
def unsignedNumber (positive : Bool) (cs : List Char) : Except Error (Number × List Char) := do
  let (ds, rest) ← someDigits cs
  match ds with
  | 0 :: _ :: _ => .error .malformed
  | _ =>
    let (significand, dropped) := accumulate 0 ds
    numberAfter positive significand dropped rest

/-- A number. -/
def number : Reader Number
  | '-' :: cs => unsignedNumber false cs
  | cs => unsignedNumber true cs

/-- The text after a number that nobody asked for. -/
def skipNumber (cs : List Char) : Except Error (List Char) := do
  let cs := match cs with
    | '-' :: rest => rest
    | _ => cs
  let whole := cs.takeWhile Char.isDigit
  let rest := cs.dropWhile Char.isDigit
  if whole.isEmpty || (whole.head? == some '0' && whole.length != 1) then .error .malformed
  let rest ← match rest with
    | '.' :: after =>
      if (after.takeWhile Char.isDigit).isEmpty then .error .malformed
      else .ok (after.dropWhile Char.isDigit)
    | _ => .ok rest
  match rest with
  | c :: after =>
    if c = 'e' ∨ c = 'E' then
      let after := match after with
        | '+' :: ds => ds
        | '-' :: ds => ds
        | _ => after
      if (after.takeWhile Char.isDigit).isEmpty then .error .malformed
      else .ok (after.dropWhile Char.isDigit)
    else .ok rest
  | [] => .ok rest

end MacroByExample.Json
