import MacroByExample.Configuration
import MacroByExample.Rules.Dispatch

/-!
# JSON forms of the library's values

An atom is an object with the key `Atom`, a list one with the key `List`. A record is an object
with a member for each field; it may also be read from the list of its fields. Sets are lists in
increasing order, and maps are objects in increasing order of their keys. The shape of forms is
fixed by the specification (`SPEC_FULL.md` §11), the names in a configuration by its §18; the other
shapes are those that `serde` derives from the types.

Main definitions:
* `Form.toJson`, `Rule.toJson`, `Bindings.toJson`, …: the JSON value of each type.
* `Json.form`, `Json.rule`, `Json.bindings`, …: the reader of each type.
* `Configuration.ofJson`: a valid configuration from its text.
-/

namespace MacroByExample

/-! ## Writing -/

mutual

/-- The JSON value of a form. -/
def Form.toJson : Form → Json.Value
  | .atom t => .object [("Atom", .string t)]
  | .list items => .object [("List", .array (Form.toJsonItems items))]

/-- The JSON values of several forms. -/
def Form.toJsonItems : List Form → List Json.Value
  | [] => []
  | f :: rest => Form.toJson f :: Form.toJsonItems rest

end

/-- The JSON value of a rule. -/
def Rule.toJson (r : Rule) : Json.Value :=
  .object [("pattern", r.pattern.toJson), ("template", r.template.toJson)]

/-- The JSON value of a set of tokens. -/
def TokenSet.toJson (s : TokenSet) : Json.Value :=
  .array (s.toList.map .string)

/-- The JSON value of bindings. -/
def Bindings.toJson (b : Bindings) : Json.Value :=
  .object [("captures", .object (b.captures.entries.map fun e =>
      (e.1, .array (Form.toJsonItems e.2)))),
    ("repeated", b.repeated.toJson)]

/-- The name of a policy. -/
def TrailingPolicy.name : TrailingPolicy → String
  | .strict => "strict"
  | .lenient => "lenient"

/-- The JSON value of a policy. -/
def TrailingPolicy.toJson (p : TrailingPolicy) : Json.Value :=
  .string p.name

/-- The JSON value of a configuration. -/
def Configuration.toJson (c : Configuration) : Json.Value :=
  .object [("ellipsis", .string c.ellipsis), ("trailing", c.trailing.toJson),
    ("ignore_keyword", .boolean c.ignoreKeyword), ("width", .natural c.width)]

namespace Json

/-! ## Reading -/

/-- An alternative that cannot stand without its value. -/
def needsValue {α : Type} (_ : String) : Except Error α :=
  .error (.problem (.invalidType .bareName "newtype variant"))

/-- Reads an atom or a list of what `item` reads. -/
def formOf (levels : Nat) (item : Reader Form) : Reader Form :=
  variantOf levels ["Atom", "List"] needsValue fun name cs =>
    if name = "Atom" then do
      let (t, rest) ← string cs
      return (.atom t, rest)
    else do
      let (items, rest) ← sequenceOf (levels - 1) item cs
      return (.list items, rest)

/-- Reads a form; each list in it opens two levels. -/
def form : (levels : Nat) → Reader Form
  | 0 => formOf 0 fun _ => .error .malformed
  | 1 => formOf 1 fun _ => .error .malformed
  | levels + 2 => formOf (levels + 2) (form levels)

/-- Reads a rule. -/
def rule (levels : Nat) : Reader Rule := fun cs => do
  let ((pattern, template), rest) ←
    pairOf levels "Rule" "pattern" "template" (form (levels - 1)) (form (levels - 1)) cs
  return (⟨pattern, template⟩, rest)

/-- Reads a set of tokens. -/
def tokenSet (levels : Nat) : Reader TokenSet := fun cs => do
  let (tokens, rest) ← sequenceOf levels string cs
  return (.ofList tokens, rest)

/-- Reads the captures of variables; of two entries for one variable the later counts. -/
def captures (levels : Nat) : Reader (TokenMap (List Form)) :=
  membersOf levels "a sequence" (fun m var => .ok fun cs => do
    let (forms, rest) ← sequenceOf (levels - 1) (form (levels - 2)) cs
    return (m.insert var forms, rest)) .empty

/-- Reads bindings. -/
def bindings (levels : Nat) : Reader Bindings := fun cs => do
  let ((captures, repeated), rest) ←
    pairOf levels "Bindings" "captures" "repeated" (captures (levels - 1)) (tokenSet (levels - 1)) cs
  return (⟨captures, repeated⟩, rest)

/-- The policy of a name. -/
def policyOfName (name : String) : TrailingPolicy :=
  if name = "strict" then .strict else .lenient

/-- Reads a policy. -/
def trailingPolicy (levels : Nat) : Reader TrailingPolicy :=
  variantOf levels ["strict", "lenient"] (fun name => .ok (policyOfName name)) fun name cs => do
    let ((), rest) ← unit cs
    return (policyOfName name, rest)

/-- The fields of a configuration as far as they are given. -/
structure GivenFields where
  ellipsis : Option String := none
  trailing : Option TrailingPolicy := none
  ignoreKeyword : Option Bool := none
  width : Option Nat := none

/-- The configuration with the default value of each field that is not given. -/
def GivenFields.toConfiguration (g : GivenFields) : Configuration :=
  let standard : Configuration := {}
  { ellipsis := g.ellipsis.getD standard.ellipsis
    trailing := g.trailing.getD standard.trailing
    ignoreKeyword := g.ignoreKeyword.getD standard.ignoreKeyword
    width := g.width.getD standard.width }

/-- The names of the fields of a configuration. -/
def configurationFields : List String := ["ellipsis", "trailing", "ignore_keyword", "width"]

/-- Reads the value of one more field into those that are given; no field may be given twice, and
    there are no others. -/
def configurationMember (levels : Nat) (g : GivenFields) (name : String) :
    Except Error (Reader GivenFields) :=
  let twice : Except Error (Reader GivenFields) := .error (.problem (.duplicateField name))
  if name = "ellipsis" then
    if g.ellipsis.isSome then twice
    else .ok fun cs => (string cs).map fun r => ({ g with ellipsis := some r.1 }, r.2)
  else if name = "trailing" then
    if g.trailing.isSome then twice
    else .ok fun cs => (trailingPolicy levels cs).map fun r =>
      ({ g with trailing := some r.1 }, r.2)
  else if name = "ignore_keyword" then
    if g.ignoreKeyword.isSome then twice
    else .ok fun cs => (boolean cs).map fun r => ({ g with ignoreKeyword := some r.1 }, r.2)
  else if name = "width" then
    if g.width.isSome then twice
    else .ok fun cs => (natural cs).map fun r => ({ g with width := some r.1 }, r.2)
  else .error (.problem (.unknownField name configurationFields))

/-- Reads fields in order from a list that may end early. -/
def configurationItems (levels : Nat) : List String → Bool → GivenFields → Reader GivenFields
  | [], _, g, cs => .ok (g, cs)
  | name :: names, first, g, cs => do
    match ← nextItem? first cs with
    | none => return (g, cs)
    | some cs => do
      let value ← configurationMember levels g name
      let (g, rest) ← value cs
      configurationItems levels names false g rest

/-- Reads a configuration. -/
def configuration (levels : Nat) : Reader Configuration := fun cs => do
  let (g, rest) ← recordOf levels "ExpanderConfig" (configurationMember (levels - 1)) {}
    (configurationItems (levels - 1) configurationFields true {}) cs
  return (g.toConfiguration, rest)

end Json

/-- The configuration that a text describes, if it is valid (`from_json_str`). -/
def Configuration.ofJson (text : String) : Except ConfigurationError Configuration :=
  match Json.readAll (Json.configuration Json.maxLevels) text with
  | .error error => .error (.json error)
  | .ok c => do
    c.validate
    return c

end MacroByExample
