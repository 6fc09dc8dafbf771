import MacroByExample.Decimal.Shortest
import MacroByExample.Text.Quoted

/-!
# Errors of JSON texts

A JSON text can be malformed, can end too early, or can be well-formed and still describe no value
of the type that was asked for. Only the last kind says more, in the words of the package
`serde_json`; the places that end its messages are left out.

Main definitions:
* `Json.Error`: the three kinds.
* `Json.Problem`, `Json.Problem.message`: what is wrong with a well-formed value, and in words.
-/

namespace MacroByExample.Json

/-- What a text holds in place of the value that was asked for. -/
inductive Found where
  | null
  | boolean (value : Bool)
  | natural (value : Nat)
  /-- The integer below zero with this absolute value. -/
  | negative (value : Nat)
  | decimal (value : Float)
  | string (value : String)
  | sequence
  | map
  /-- The name of an alternative without the value that belongs to it. -/
  | bareName

/-- Decimals are shown positionally from five zeros after the point up to sixteen digits before it,
    and always with a point or an exponent. -/
def decimalStyle : Decimal.Style := ⟨-5, 15⟩

/-- What was found, in words. -/
def Found.text : Found → String
  | .null => "null"
  | .boolean value => s!"boolean `{value}`"
  | .natural value => s!"integer `{value}`"
  | .negative value => s!"integer `-{value}`"
  | .decimal value => "floating point `" ++ String.ofList (decimalStyle.floatChars value) ++ "`"
  | .string value => "string " ++ Text.quoted value
  | .sequence => "sequence"
  | .map => "map"
  | .bareName => "unit variant"

/-- What is wrong with a well-formed value. -/
inductive Problem where
  /-- The value is of another type. -/
  | invalidType (found : Found) (expected : String)
  /-- The value is of the right type and out of range. -/
  | invalidValue (found : Found) (expected : String)
  /-- A sequence in place of a record is too short. -/
  | invalidLength (length : Nat) (expected : String)
  /-- No alternative has this name. -/
  | unknownVariant (name : String) (known : List String)
  /-- No field has this name. -/
  | unknownField (name : String) (known : List String)
  /-- A field has no value. -/
  | missingField (name : String)
  /-- A field is given twice. -/
  | duplicateField (name : String)

/-- Names in quotes: the only one, one of two, or one of many. -/
def oneOf (names : List String) : String :=
  let quoted := names.map fun name => s!"`{name}`"
  match quoted with
  | [one] => one
  | [one, two] => s!"{one} or {two}"
  | _ => "one of " ++ ", ".intercalate quoted

/-- What is wrong, in words. -/
def Problem.message : Problem → String
  | .invalidType found expected => s!"invalid type: {found.text}, expected {expected}"
  | .invalidValue found expected => s!"invalid value: {found.text}, expected {expected}"
  | .invalidLength length expected => s!"invalid length {length}, expected {expected}"
  | .unknownVariant name known => s!"unknown variant `{name}`, expected {oneOf known}"
  | .unknownField name known => s!"unknown field `{name}`, expected {oneOf known}"
  | .missingField name => s!"missing field `{name}`"
  | .duplicateField name => s!"duplicate field `{name}`"

/-- Why a text describes no value of the type that was asked for. -/
inductive Error where
  /-- The text breaks a rule of the notation. -/
  | malformed
  /-- The text ends before the value does. -/
  | unfinished
  /-- The value is not of the type. -/
  | problem (problem : Problem)

/-- The error in words; for a text that is no JSON only its kind. -/
def Error.message : Error → String
  | .malformed => "<syntax>"
  | .unfinished => "<eof>"
  | .problem p => p.message

end MacroByExample.Json
