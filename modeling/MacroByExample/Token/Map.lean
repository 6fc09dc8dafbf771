/-!
# Maps keyed by tokens

A finite map from tokens to values, kept as a list in strictly increasing order of its keys by code
points. Two maps are equal when every key has the same value in both. Bindings and tables of macros
are such maps (`SPEC_FULL.md` §14 and §15).

Main definitions:
* `TokenMap`: the type; `get?`, `contains`, `insert`, `keys`, `size`.

Main results:
* `TokenMap.get?_insert`: what an insertion changes.
* `TokenMap.ext_get?`: a map is determined by its values.
* `TokenMap.foldl_insert_entries`: a map is made of its entries.
* `TokenMap.mem_keys_iff`, `TokenMap.sorted_keys`: the keys are those that have a value, in order.
-/

namespace MacroByExample

/-- A finite map whose entries stand in increasing order of their keys. -/
structure TokenMap (β : Type) where
  entries : List (String × β)
  sorted : entries.Pairwise fun a b => a.1 < b.1

namespace TokenMap

variable {β : Type}

instance [DecidableEq β] : DecidableEq (TokenMap β) := fun m n =>
  if h : m.entries = n.entries then
    isTrue (by cases m; cases n; simpa using h)
  else isFalse (fun e => h (by rw [e]))

/-! ## Operations -/

/-- The map without entries. -/
def empty : TokenMap β := ⟨[], .nil⟩

instance : Inhabited (TokenMap β) := ⟨empty⟩

/-- The value of a key. -/
def get? (m : TokenMap β) (key : String) : Option β :=
  m.entries.lookup key

/-- Whether the key has a value. -/
def contains (m : TokenMap β) (key : String) : Bool :=
  (m.get? key).isSome

/-- The keys in increasing order. -/
def keys (m : TokenMap β) : List String :=
  m.entries.map Prod.fst

/-- The number of keys. -/
def size (m : TokenMap β) : Nat :=
  m.entries.length

/-- Whether the map has no entry. -/
def isEmpty (m : TokenMap β) : Bool :=
  m.entries.isEmpty

/-- The sorted list with the value of `key` added or replaced. -/
def insertEntry (key : String) (value : β) : List (String × β) → List (String × β)
  | [] => [(key, value)]
  | (k, v) :: rest =>
    if key < k then (key, value) :: (k, v) :: rest
    else if key = k then (key, value) :: rest
    else (k, v) :: insertEntry key value rest

theorem mem_insertEntry {key : String} {value : β} {e : String × β} {l : List (String × β)}
    (h : e ∈ insertEntry key value l) : e = (key, value) ∨ e ∈ l := by
  induction l with
  | nil => simpa [insertEntry] using h
  | cons a rest ih =>
    obtain ⟨k, v⟩ := a
    rw [insertEntry] at h
    split at h
    · simpa using h
    · split at h
      · rcases List.mem_cons.1 h with h | h
        · exact .inl h
        · exact .inr (List.mem_cons_of_mem _ h)
      · rcases List.mem_cons.1 h with h | h
        · exact .inr (h ▸ List.mem_cons_self)
        · exact (ih h).imp id (List.mem_cons_of_mem _)

theorem sorted_insertEntry (key : String) (value : β) {l : List (String × β)}
    (h : l.Pairwise fun a b => a.1 < b.1) :
    (insertEntry key value l).Pairwise fun a b => a.1 < b.1 := by
  induction l with
  | nil => simp [insertEntry]
  | cons a rest ih =>
    obtain ⟨k, v⟩ := a
    have hk := List.pairwise_cons.1 h
    rw [insertEntry]
    split
    · next hlt =>
      refine List.pairwise_cons.2 ⟨fun b hb => ?_, h⟩
      rcases List.mem_cons.1 hb with rfl | hb
      · exact hlt
      · exact String.lt_trans hlt (hk.1 b hb)
    · next hnlt =>
      split
      · next heq => exact List.pairwise_cons.2 ⟨fun b hb => heq ▸ hk.1 b hb, hk.2⟩
      · next hne =>
        refine List.pairwise_cons.2 ⟨fun b hb => ?_, ih hk.2⟩
        rcases mem_insertEntry hb with rfl | hb
        · exact Std.lt_of_le_of_ne (String.not_lt.1 hnlt) (Ne.symm hne)
        · exact hk.1 b hb

/-- The map in which `key` has the given value. -/
def insert (m : TokenMap β) (key : String) (value : β) : TokenMap β :=
  ⟨insertEntry key value m.entries, sorted_insertEntry key value m.sorted⟩

/-! ## Values -/

theorem lookup_entry (k : String) (v : β) (rest : List (String × β)) (key : String) :
    ((k, v) :: rest).lookup key = if key = k then some v else rest.lookup key := by
  by_cases h : key = k
  · simp [h]
  · rw [List.lookup_cons, beq_eq_false_iff_ne.2 h, if_neg h]

@[simp]
theorem get?_empty (key : String) : (empty : TokenMap β).get? key = none := rfl

theorem lookup_insertEntry (key : String) (value : β) (key' : String) (l : List (String × β)) :
    (insertEntry key value l).lookup key' = if key' = key then some value else l.lookup key' := by
  induction l with
  | nil => by_cases h : key' = key <;> simp [insertEntry, lookup_entry, h]
  | cons a rest ih =>
    obtain ⟨k, v⟩ := a
    rw [insertEntry]
    split
    · by_cases h : key' = key <;> simp [lookup_entry, h]
    · split
      · next heq => subst heq; by_cases h : key' = key <;> simp [lookup_entry, h]
      · next hne =>
        rw [lookup_entry, lookup_entry, ih]
        by_cases hk : key' = k
        · subst hk; simp [Ne.symm hne]
        · simp [hk]

theorem get?_insert (m : TokenMap β) (key : String) (value : β) (key' : String) :
    (m.insert key value).get? key' = if key' = key then some value else m.get? key' :=
  lookup_insertEntry key value key' m.entries

theorem lookup_eq_none {key : String} {l : List (String × β)} (h : ∀ e ∈ l, e.1 ≠ key) :
    l.lookup key = none := by
  induction l with
  | nil => rfl
  | cons a rest ih =>
    rw [lookup_entry, if_neg (Ne.symm (h a List.mem_cons_self))]
    exact ih fun e he => h e (List.mem_cons_of_mem _ he)

theorem entries_eq_of_lookup {l l' : List (String × β)} (h : l.Pairwise fun a b => a.1 < b.1)
    (h' : l'.Pairwise fun a b => a.1 < b.1) (same : ∀ key, l.lookup key = l'.lookup key) :
    l = l' := by
  induction l generalizing l' with
  | nil =>
    cases l' with
    | nil => rfl
    | cons b rest' =>
      have := same b.1
      rw [lookup_entry, if_pos rfl] at this
      simp at this
  | cons a rest ih =>
    obtain ⟨k, v⟩ := a
    have ha := List.pairwise_cons.1 h
    cases l' with
    | nil => simpa [lookup_entry] using same k
    | cons b rest' =>
      obtain ⟨k', v'⟩ := b
      have hb := List.pairwise_cons.1 h'
      have hkk : k = k' := by
        apply Decidable.byContradiction
        intro hne
        by_cases hlt : k < k'
        · have hnone : ((k', v') :: rest').lookup k = none := by
            refine lookup_eq_none fun e he => ?_
            rcases List.mem_cons.1 he with rfl | he
            · exact Ne.symm hne
            · exact fun e' => String.lt_irrefl _ (e' ▸ String.lt_trans hlt (hb.1 e he))
          have := same k
          rw [hnone] at this
          simp at this
        · have hlt' : k' < k := Std.lt_of_le_of_ne (String.not_lt.1 hlt) (Ne.symm hne)
          have hnone : ((k, v) :: rest).lookup k' = none := by
            refine lookup_eq_none fun e he => ?_
            rcases List.mem_cons.1 he with rfl | he
            · exact hne
            · exact fun e' => String.lt_irrefl _ (e' ▸ String.lt_trans hlt' (ha.1 e he))
          have := same k'
          rw [hnone] at this
          simp at this
      subst hkk
      have hvv : v = v' := by simpa [lookup_entry] using same k
      subst hvv
      congr 1
      refine ih ha.2 hb.2 fun key => ?_
      by_cases hkey : key = k
      · subst hkey
        rw [lookup_eq_none fun e he e' => String.lt_irrefl _ (e' ▸ ha.1 e he),
          lookup_eq_none fun e he e' => String.lt_irrefl _ (e' ▸ hb.1 e he)]
      · simpa [lookup_entry, hkey] using same key

theorem ext_get? {m n : TokenMap β} (h : ∀ key, m.get? key = n.get? key) : m = n := by
  have := entries_eq_of_lookup m.sorted n.sorted h
  cases m
  cases n
  simpa using this

/-! ## Inserting in order -/

/-- An entry with a key above all others becomes the last. -/
theorem insertEntry_of_lt {key : String} {value : β} {l : List (String × β)}
    (h : ∀ e ∈ l, e.1 < key) : insertEntry key value l = l ++ [(key, value)] := by
  induction l with
  | nil => rfl
  | cons e rest ih =>
    have hlt : e.1 < key := h e List.mem_cons_self
    have hne : key ≠ e.1 := fun heq => String.lt_irrefl _ (heq ▸ hlt)
    rw [insertEntry, if_neg (String.lt_asymm hlt), if_neg hne,
      ih fun e he => h e (List.mem_cons_of_mem _ he), List.cons_append]

theorem entries_foldl_insert (l : List (String × β)) (m : TokenMap β)
    (h : (m.entries ++ l).Pairwise fun a b => a.1 < b.1) :
    (l.foldl (fun m e => m.insert e.1 e.2) m).entries = m.entries ++ l := by
  induction l generalizing m with
  | nil => rw [List.append_nil, List.foldl_nil]
  | cons e l ih =>
    have hlast : (m.insert e.1 e.2).entries = m.entries ++ [e] :=
      insertEntry_of_lt fun a ha => (List.pairwise_append.mp h).2.2 a ha e List.mem_cons_self
    rw [List.append_cons, ← hlast] at h ⊢
    exact ih (m.insert e.1 e.2) h

/-- A map is what its entries amount to when they are inserted in order. -/
theorem foldl_insert_entries (m : TokenMap β) :
    m.entries.foldl (fun m e => m.insert e.1 e.2) .empty = m := by
  apply ext_get?
  intro key
  rw [get?, entries_foldl_insert m.entries .empty m.sorted]
  rfl

/-! ## Keys -/

theorem get?_of_mem_entries {m : TokenMap β} {e : String × β} (h : e ∈ m.entries) :
    m.get? e.1 = some e.2 := by
  obtain ⟨entries, sorted⟩ := m
  change entries.lookup e.1 = some e.2
  induction sorted with
  | nil => cases h
  | @cons a rest hfirst _ ih =>
    rw [lookup_entry]
    rcases List.mem_cons.1 h with rfl | h
    · rw [if_pos rfl]
    · rw [if_neg fun heq => String.lt_irrefl _ (heq ▸ hfirst e h), ih h]

theorem mem_keys_iff {m : TokenMap β} {key : String} : key ∈ m.keys ↔ m.contains key = true := by
  rw [keys, contains, get?]
  induction m.entries with
  | nil => simp
  | cons a rest ih =>
    obtain ⟨k, v⟩ := a
    rw [lookup_entry]
    by_cases h : key = k
    · simp [h]
    · simp [h, ih]

theorem sorted_keys (m : TokenMap β) : m.keys.Pairwise (· < ·) :=
  List.pairwise_map.2 m.sorted

theorem nodup_keys (m : TokenMap β) : m.keys.Nodup := by
  refine m.sorted_keys.imp fun hlt heq => ?_
  subst heq
  exact String.lt_irrefl _ hlt

end TokenMap

end MacroByExample
