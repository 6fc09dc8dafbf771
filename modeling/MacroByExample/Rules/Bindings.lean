import MacroByExample.Form.Text
import MacroByExample.Token.Set

/-!
# Bindings of pattern variables

A match binds each variable of a pattern to the forms it captured, in the order in which they were
met. A variable outside every ellipsis holds one form for each of its occurrences; a variable under
an ellipsis is marked repeated and holds one form for each repetition, possibly none.

These are the bindings of the specification (`SPEC_FULL.md` §3 and §14). It gives a variable outside
every ellipsis exactly one form in §3; a variable that occurs twice has two, as §4.1 says.

Main definitions:
* `Bindings`: the type, with equality by content.
* `Bindings.capture`, `Bindings.declareRepeated`, `Bindings.withSingle`: the ways to extend them.
* `Bindings.text`: one line for each variable.

Main results:
* `get?_capture`, `get?_declareRepeated`, `get?_withSingle` and their companions for `isRepeated`:
  what each extension changes.
* `Bindings.ext_get?`: bindings are determined by captures and marks.
-/

namespace MacroByExample

/-- The forms that variables captured, and which variables are repeated. -/
structure Bindings where
  captures : TokenMap (List Form)
  repeated : TokenSet
deriving DecidableEq

namespace Bindings

/-- No variable is bound. -/
def empty : Bindings := ⟨.empty, .empty⟩

instance : Inhabited Bindings := ⟨empty⟩

/-! ## Extending -/

/-- One more form for the variable, after those it has. -/
def capture (b : Bindings) (var : String) (form : Form) : Bindings :=
  { b with captures := b.captures.insert var ((b.captures.get? var).getD [] ++ [form]) }

/-- The variable marked as repeated; it keeps its captures, and has none if it was not bound. -/
def declareRepeated (b : Bindings) (var : String) : Bindings :=
  { captures := b.captures.insert var ((b.captures.get? var).getD [])
    repeated := b.repeated.insert var }

/-- The variable with one form in place of all its captures. -/
def withSingle (b : Bindings) (var : String) (form : Form) : Bindings :=
  { b with captures := b.captures.insert var [form] }

/-! ## Looking up -/

/-- The captures of a variable. -/
def get? (b : Bindings) (var : String) : Option (List Form) :=
  b.captures.get? var

/-- The captures of a variable, none if it is not bound. -/
def captured (b : Bindings) (var : String) : List Form :=
  (b.get? var).getD []

/-- The first form that the variable captured. -/
def first? (b : Bindings) (var : String) : Option Form :=
  (b.get? var).bind List.head?

/-- Whether the variable is bound, be it to no form. -/
def contains (b : Bindings) (var : String) : Bool :=
  b.captures.contains var

/-- Whether the variable is marked as repeated. -/
def isRepeated (b : Bindings) (var : String) : Bool :=
  b.repeated.contains var

/-- The bound variables in increasing order. -/
def domain (b : Bindings) : List String :=
  b.captures.keys

/-- The number of bound variables. -/
def size (b : Bindings) : Nat :=
  b.captures.size

/-- Whether no variable is bound. -/
def isEmpty (b : Bindings) : Bool :=
  b.captures.isEmpty

/-! ## Text -/

/-- The line of one variable: its name, a mark if it is repeated, and its captures. -/
def lineChars (repeated : Bool) (var : String) (forms : List Form) : List Char :=
  var.toList ++ ((if repeated then " ... =" else " =").toList
    ++ forms.flatMap fun f => ' ' :: f.chars)

/-- The lines of the variables, separated by line feeds. -/
def charsOfEntries (repeated : TokenSet) : List (String × List Form) → List Char
  | [] => []
  | [(var, forms)] => lineChars (repeated.contains var) var forms
  | (var, forms) :: next :: rest =>
    lineChars (repeated.contains var) var forms
      ++ '\n' :: charsOfEntries repeated (next :: rest)

/-- One line for each variable, in increasing order. -/
def text (b : Bindings) : String :=
  String.ofList (charsOfEntries b.repeated b.captures.entries)

/-! ## What extensions change -/

@[simp]
theorem get?_empty (var : String) : empty.get? var = none := rfl

@[simp]
theorem isRepeated_empty (var : String) : empty.isRepeated var = false := rfl

theorem get?_capture (b : Bindings) (var : String) (form : Form) (var' : String) :
    (b.capture var form).get? var'
      = if var' = var then some (b.captured var ++ [form]) else b.get? var' := by
  simp [capture, get?, captured, TokenMap.get?_insert]

@[simp]
theorem isRepeated_capture (b : Bindings) (var : String) (form : Form) (var' : String) :
    (b.capture var form).isRepeated var' = b.isRepeated var' := rfl

theorem get?_declareRepeated (b : Bindings) (var var' : String) :
    (b.declareRepeated var).get? var'
      = if var' = var then some (b.captured var) else b.get? var' := by
  simp [declareRepeated, get?, captured, TokenMap.get?_insert]

theorem isRepeated_declareRepeated (b : Bindings) (var var' : String) :
    (b.declareRepeated var).isRepeated var' = (decide (var' = var) || b.isRepeated var') :=
  TokenSet.contains_insert b.repeated var var'

theorem get?_withSingle (b : Bindings) (var : String) (form : Form) (var' : String) :
    (b.withSingle var form).get? var' = if var' = var then some [form] else b.get? var' := by
  simp [withSingle, get?, TokenMap.get?_insert]

@[simp]
theorem isRepeated_withSingle (b : Bindings) (var : String) (form : Form) (var' : String) :
    (b.withSingle var form).isRepeated var' = b.isRepeated var' := rfl

theorem contains_eq_isSome (b : Bindings) (var : String) :
    b.contains var = (b.get? var).isSome := rfl

theorem ext_get? {b c : Bindings} (captures : ∀ var, b.get? var = c.get? var)
    (repeated : ∀ var, b.isRepeated var = c.isRepeated var) : b = c := by
  have h : b.captures = c.captures := TokenMap.ext_get? captures
  have h' : b.repeated = c.repeated := TokenSet.ext_contains repeated
  cases b
  cases c
  simp_all

end Bindings

end MacroByExample
