import MacroByExample.Token.Map

/-!
# Sets of tokens

A finite set of tokens: a map that gives its members no further value. The members are listed in
increasing order of code points, and two sets are equal when they have the same members. The
literals of rules are such a set (`SPEC_FULL.md` §3).

Main definitions:
* `TokenSet`: the type; `contains`, `insert`, `toList`, `size`, `ofList`.

Main results:
* `TokenSet.contains_insert`: what an insertion changes.
* `TokenSet.ext_contains`, `TokenSet.ofList_toList`: a set is determined by its members.
-/

namespace MacroByExample

/-- A finite set of tokens (`LiteralSet`). -/
structure TokenSet where
  members : TokenMap Unit
deriving DecidableEq

namespace TokenSet

/-- The set without members. -/
def empty : TokenSet := ⟨.empty⟩

instance : Inhabited TokenSet := ⟨empty⟩

/-- Whether the token is a member. -/
def contains (s : TokenSet) (token : String) : Bool :=
  s.members.contains token

/-- The set with one more member. -/
def insert (s : TokenSet) (token : String) : TokenSet :=
  ⟨s.members.insert token ()⟩

/-- The members in increasing order. -/
def toList (s : TokenSet) : List String :=
  s.members.keys

/-- The number of members. -/
def size (s : TokenSet) : Nat :=
  s.members.size

/-- Whether the set has no member. -/
def isEmpty (s : TokenSet) : Bool :=
  s.members.isEmpty

/-- The set of the tokens in a list. -/
def ofList (tokens : List String) : TokenSet :=
  tokens.foldl insert empty

@[simp]
theorem contains_empty (token : String) : empty.contains token = false := rfl

theorem contains_insert (s : TokenSet) (token token' : String) :
    (s.insert token).contains token' = (decide (token' = token) || s.contains token') := by
  rw [contains, insert, TokenMap.contains, TokenMap.get?_insert]
  by_cases h : token' = token <;> simp [h, contains, TokenMap.contains]

theorem ext_contains {s t : TokenSet} (h : ∀ token, s.contains token = t.contains token) :
    s = t := by
  have same : s.members = t.members := by
    apply TokenMap.ext_get?
    intro key
    have := h key
    rw [contains, contains, TokenMap.contains, TokenMap.contains] at this
    cases hs : s.members.get? key <;> cases ht : t.members.get? key <;> simp_all
  cases s
  cases t
  simpa using same

theorem mem_toList_iff {s : TokenSet} {token : String} :
    token ∈ s.toList ↔ s.contains token = true :=
  TokenMap.mem_keys_iff

theorem contains_foldl_insert (tokens : List String) (s : TokenSet) (token : String) :
    (tokens.foldl insert s).contains token = (decide (token ∈ tokens) || s.contains token) := by
  induction tokens generalizing s with
  | nil => simp
  | cons t rest ih =>
    rw [List.foldl_cons, ih, contains_insert]
    by_cases h : token = t <;> by_cases h' : token ∈ rest <;> simp [h, h']

@[simp]
theorem contains_ofList (tokens : List String) (token : String) :
    (ofList tokens).contains token = decide (token ∈ tokens) := by
  simp [ofList, contains_foldl_insert]

/-- A set is made of its members. -/
theorem ofList_toList (s : TokenSet) : ofList s.toList = s := by
  apply ext_contains
  intro token
  rw [contains_ofList, Bool.eq_iff_iff, decide_eq_true_iff, mem_toList_iff]

end TokenSet

end MacroByExample
