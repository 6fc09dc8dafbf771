import MacroByExample.Json.Token

/-!
# Reading typed values

A reader of a type takes the value it wants from the front of a text and stops at the first thing
that does not fit, in the order of the text. What else stands there is read only to be named in the
error. Brackets and braces open levels, and a text may open only so many; the readers take the
number of levels that are left. The package `serde_json` reads typed values so.

Main definitions:
* `string`, `boolean`, `natural`, `unit`: readers of plain values.
* `sequenceOf`: a reader of lists.
* `recordOf`, `pairOf`: readers of records, given as objects or as lists of their fields.
* `variantOf`: a reader of one of several named alternatives.
* `skipValue`: reads past any value.
* `readAll`: reads a value that is a whole text.
-/

namespace MacroByExample.Json

/-- The levels that a text may open. -/
def maxLevels : Nat := 127

/-- The levels that are left after one more is opened. -/
def enter : Nat → Except Error Nat
  | 0 => .error .malformed
  | levels + 1 => .ok levels

/-! ## Plain values -/

/-- What stands at the front of a text, for an error about it. -/
def foundAt : List Char → Except Error Found
  | [] => .error .unfinished
  | '"' :: rest => do
    let (cs, _) ← stringTail rest
    return .string (String.ofList cs)
  | '[' :: _ => .ok .sequence
  | '\x7b' :: _ => .ok .map
  | c :: rest =>
    if c = 'n' then do
      let _ ← word "ull".toList rest
      return .null
    else if c = 't' then do
      let _ ← word "rue".toList rest
      return .boolean true
    else if c = 'f' then do
      let _ ← word "alse".toList rest
      return .boolean false
    else if c = '-' ∨ c.isDigit then do
      let (n, _) ← number (c :: rest)
      return n.found
    else .error .malformed

/-- The error of a text that holds something else than was expected. -/
def unexpected {α : Type} (expected : String) (cs : List Char) : Except Error α := do
  let found ← foundAt cs
  .error (.problem (.invalidType found expected))

/-- Reads a string. -/
def string : Reader String := fun cs =>
  match skipBlank cs with
  | '"' :: rest => do
    let (s, rest) ← stringTail rest
    return (String.ofList s, rest)
  | cs => unexpected "a string" cs

/-- Reads a truth value. -/
def boolean : Reader Bool := fun cs =>
  match skipBlank cs with
  | 't' :: rest => do return (true, ← word "rue".toList rest)
  | 'f' :: rest => do return (false, ← word "alse".toList rest)
  | cs => unexpected "a boolean" cs

/-- Reads a natural number of 64 bits. -/
def natural : Reader Nat := fun cs =>
  match skipBlank cs with
  | [] => .error .unfinished
  | c :: rest =>
    if c = '-' ∨ c.isDigit then do
      match ← number (c :: rest) with
      | (.natural n, rest) => .ok (n, rest)
      | (.negative n, _) => .error (.problem (.invalidValue (.negative n) "usize"))
      | (.decimal f, _) => .error (.problem (.invalidType (.decimal f) "usize"))
    else unexpected "usize" (c :: rest)

/-- Reads the null value. -/
def unit : Reader Unit := fun cs =>
  match skipBlank cs with
  | 'n' :: rest => do return ((), ← word "ull".toList rest)
  | cs => unexpected "unit" cs

/-! ## Lists -/

/-- The text of the next item of a list, or none at the closing bracket. -/
def nextItem? (first : Bool) (cs : List Char) : Except Error (Option (List Char)) :=
  match skipBlank cs with
  | [] => .error .unfinished
  | ']' :: _ => .ok none
  | c :: rest =>
    if first then .ok (some (c :: rest))
    else if c = ',' then
      match skipBlank rest with
      | [] => .error .unfinished
      | ']' :: _ => .error .malformed
      | cs => .ok (some cs)
    else .error .malformed

/-- The text after the bracket that closes a list. -/
def closeList (cs : List Char) : Except Error (List Char) :=
  match skipBlank cs with
  | [] => .error .unfinished
  | ']' :: rest => .ok rest
  | _ => .error .malformed

/-- Reads the items of a list up to its closing bracket; the number bounds how many. -/
def itemsTail {α : Type} (item : Reader α) : Nat → Bool → Reader (List α)
  | 0, _, _ => .error .unfinished
  | fuel + 1, first, cs => do
    match ← nextItem? first cs with
    | none => return ([], ← closeList cs)
    | some cs => do
      let (x, rest) ← item cs
      let (xs, rest) ← itemsTail item fuel false rest
      return (x :: xs, rest)

/-- Reads a list whose items have one type. -/
def sequenceOf {α : Type} (levels : Nat) (item : Reader α) : Reader (List α) := fun cs =>
  match skipBlank cs with
  | '[' :: rest => do
    let _ ← enter levels
    itemsTail item (rest.length + 1) true rest
  | cs => unexpected "a sequence" cs

/-! ## Members of objects -/

/-- The text after a colon. -/
def colon (cs : List Char) : Except Error (List Char) :=
  match skipBlank cs with
  | [] => .error .unfinished
  | ':' :: rest => .ok rest
  | _ => .error .malformed

/-- The text after the quote that starts the next key, or the text after the closing brace. -/
def nextKey (first : Bool) (cs : List Char) : Except Error (List Char ⊕ List Char) :=
  match skipBlank cs with
  | [] => .error .unfinished
  | '\x7d' :: rest => .ok (.inr rest)
  | '"' :: rest => if first then .ok (.inl rest) else .error .malformed
  | ',' :: rest =>
    if first then .error .malformed
    else
      match skipBlank rest with
      | [] => .error .unfinished
      | '"' :: rest => .ok (.inl rest)
      | _ => .error .malformed
  | _ => .error .malformed

/-! ## Skipping -/

mutual

/-- The text after any value; the number bounds the depth of the search. -/
def skipValue : Nat → List Char → Except Error (List Char)
  | 0, _ => .error .unfinished
  | fuel + 1, cs =>
    match skipBlank cs with
    | [] => .error .unfinished
    | '"' :: rest => skipStringTail rest
    | '[' :: rest => skipItems fuel true rest
    | '\x7b' :: rest => skipMembers fuel true rest
    | c :: rest =>
      if c = 'n' then word "ull".toList rest
      else if c = 't' then word "rue".toList rest
      else if c = 'f' then word "alse".toList rest
      else if c = '-' ∨ c.isDigit then skipNumber (c :: rest)
      else .error .malformed

/-- The text after the items of a list and its closing bracket. -/
def skipItems : Nat → Bool → List Char → Except Error (List Char)
  | 0, _, _ => .error .unfinished
  | fuel + 1, first, cs => do
    match ← nextItem? first cs with
    | none => closeList cs
    | some cs => skipItems fuel false (← skipValue fuel cs)

/-- The text after the members of an object and its closing brace. -/
def skipMembers : Nat → Bool → List Char → Except Error (List Char)
  | 0, _, _ => .error .unfinished
  | fuel + 1, first, cs => do
    match ← nextKey first cs with
    | .inr rest => .ok rest
    | .inl rest => do
      let rest ← colon (← skipStringTail rest)
      skipMembers fuel false (← skipValue fuel rest)

end

/-- Reads past a value and keeps what there was. -/
def ignored {σ : Type} (state : σ) : Reader σ := fun cs => do
  return (state, ← skipValue (2 * cs.length + 2) cs)

/-! ## Records -/

/-- Reads the members of an object up to its closing brace. A key decides how its value is read
    into what the members before it amount to; the number bounds how many members there are. -/
def membersTail {σ : Type} (member : σ → String → Except Error (Reader σ)) :
    Nat → Bool → σ → Reader σ
  | 0, _, _, _ => .error .unfinished
  | fuel + 1, first, state, cs => do
    match ← nextKey first cs with
    | .inr rest => return (state, rest)
    | .inl rest => do
      let (key, rest) ← stringTail rest
      let value ← member state (String.ofList key)
      let (state, rest) ← value (← colon rest)
      membersTail member fuel false state rest

/-- Reads an object whose keys all have values of one type; `expected` names it in errors. -/
def membersOf {σ : Type} (levels : Nat) (expected : String)
    (member : σ → String → Except Error (Reader σ)) (start : σ) : Reader σ := fun cs =>
  match skipBlank cs with
  | '\x7b' :: rest => do
    let _ ← enter levels
    membersTail member (rest.length + 1) true start rest
  | cs => unexpected expected cs

/-- Reads a record: an object with its members, or a list with its fields in order. -/
def recordOf {σ : Type} (levels : Nat) (name : String)
    (member : σ → String → Except Error (Reader σ)) (start : σ) (fields : Reader σ) :
    Reader σ := fun cs =>
  match skipBlank cs with
  | '[' :: rest => do
    let _ ← enter levels
    let (state, rest) ← fields rest
    return (state, ← closeList rest)
  | cs => membersOf levels s!"struct {name}" member start cs

/-- The fields of a record of two given as a list. -/
def pairFields {α β : Type} (name : String) (first : Reader α) (second : Reader β) :
    Reader (Option α × Option β) := fun cs => do
  match ← nextItem? true cs with
  | none => .error (.problem (.invalidLength 0 s!"struct {name} with 2 elements"))
  | some cs => do
    let (a, rest) ← first cs
    match ← nextItem? false rest with
    | none => .error (.problem (.invalidLength 1 s!"struct {name} with 2 elements"))
    | some cs => do
      let (b, rest) ← second cs
      return ((some a, some b), rest)

/-- A member of a record of two: one of the two fields, not yet given, or a key to be ignored. -/
def pairMember {α β : Type} (key key' : String) (first : Reader α) (second : Reader β)
    (state : Option α × Option β) (name : String) : Except Error (Reader (Option α × Option β)) :=
  if name = key then
    if state.1.isSome then .error (.problem (.duplicateField name))
    else .ok fun cs => (first cs).map fun r => ((some r.1, state.2), r.2)
  else if name = key' then
    if state.2.isSome then .error (.problem (.duplicateField name))
    else .ok fun cs => (second cs).map fun r => ((state.1, some r.1), r.2)
  else .ok (ignored state)

/-- Reads a record with two fields, both of which must be given. -/
def pairOf {α β : Type} (levels : Nat) (name key key' : String) (first : Reader α)
    (second : Reader β) : Reader (α × β) := fun cs => do
  let (state, rest) ← recordOf levels name (pairMember key key' first second) (none, none)
    (pairFields name first second) cs
  match state with
  | (none, _) => .error (.problem (.missingField key))
  | (_, none) => .error (.problem (.missingField key'))
  | (some a, some b) => return ((a, b), rest)

/-! ## Alternatives -/

/-- The name of an alternative, one of the known names, and the text after its closing quote. -/
def variantName (known : List String) (cs : List Char) : Except Error (String × List Char) := do
  let (s, rest) ← stringTail cs
  let name := String.ofList s
  if name ∈ known then return (name, rest)
  else .error (.problem (.unknownVariant name known))

/-- Reads one of several alternatives: its name alone, or an object with its name as the only key
    and its value. -/
def variantOf {α : Type} (levels : Nat) (known : List String) (bare : String → Except Error α)
    (payload : String → Reader α) : Reader α := fun cs =>
  match skipBlank cs with
  | [] => .error .unfinished
  | '"' :: rest => do
    let (name, rest) ← variantName known rest
    return (← bare name, rest)
  | '\x7b' :: rest => do
    let _ ← enter levels
    match skipBlank rest with
    | [] => .error .unfinished
    | '"' :: rest => do
      let (name, rest) ← variantName known rest
      let (value, rest) ← payload name (← colon rest)
      match skipBlank rest with
      | [] => .error .unfinished
      | '\x7d' :: rest => .ok (value, rest)
      | _ => .error .malformed
    | _ => .error .malformed
  | _ => .error .malformed

/-! ## Whole texts -/

/-- Reads a value that is the whole text but for white space (`from_str`). -/
def readAll {α : Type} (value : Reader α) (text : String) : Except Error α := do
  let (x, rest) ← value text.toList
  if skipBlank rest = [] then return x else .error .malformed

end MacroByExample.Json
