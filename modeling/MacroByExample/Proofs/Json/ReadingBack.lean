import MacroByExample.Json.Reader
import MacroByExample.Proofs.Json.Layout
import MacroByExample.Proofs.Json.Scalars

/-!
# Texts that are read as values

Characters are read as a value if a reader takes just them from the front of a text and gives the
value. There is one lemma for each way in which texts are put together, in any layout: quotes
around a string, brackets around items, braces around members.

Main definitions:
* `Reads`: characters that are read as a value, whatever follows.
* `ReadsMembers`: members that, read one after another, take one state to another.

Main results:
* `reads_string`, `reads_boolean`, `reads_natural`: plain values.
* `reads_sequenceOf`, `reads_membersOf`, `reads_recordOf`, `reads_pairOf`: lists and records.
* `reads_variantOf`, `reads_variantOf_bare`: alternatives.
* `Reads.readAll`: a value that is a whole text.
-/

namespace MacroByExample.Json

variable {α β σ : Type}

/-! ## Characters that are read as values -/

theorem skipBlank_append {ws : List Char} (h : ∀ c ∈ ws, isBlank c = true) (cs : List Char) :
    skipBlank (ws ++ cs) = skipBlank cs :=
  List.dropWhile_append_of_pos h

theorem skipBlank_cons {c : Char} (h : isBlank c = false) (cs : List Char) :
    skipBlank (c :: cs) = c :: cs := by
  rw [skipBlank, List.dropWhile_cons, if_neg (by simp [h])]

/-- The characters, behind any white space and in front of what may follow a value, are read as the
    value. They begin with one that neither is skipped nor closes a list. -/
structure Reads (r : Reader α) (x : α) (cs : List Char) : Prop where
  starts : ∃ c rest, cs = c :: rest ∧ isBlank c = false ∧ c ≠ ']'
  eq_ok : ∀ {text tail}, skipBlank text = cs ++ tail → Ends tail → r text = .ok (x, tail)

theorem Reads.skipBlank_eq {r : Reader α} {x : α} {cs : List Char} (h : Reads r x cs)
    (tail : List Char) : skipBlank (cs ++ tail) = cs ++ tail := by
  obtain ⟨c, rest, rfl, hc, -⟩ := h.starts
  exact skipBlank_cons hc _

/-- A value is read where its characters stand. -/
theorem Reads.apply {r : Reader α} {x : α} {cs tail : List Char} (h : Reads r x cs)
    (htail : Ends tail) : r (cs ++ tail) = .ok (x, tail) :=
  h.eq_ok (h.skipBlank_eq tail) htail

/-- A reader that turns what another reads into something else. -/
theorem Reads.map {r : Reader α} {x : α} {cs : List Char} (h : Reads r x cs) (f : α → β)
    {r' : Reader β} (hr' : ∀ text p, r text = .ok p → r' text = .ok (f p.1, p.2)) :
    Reads r' (f x) cs :=
  ⟨h.starts, fun htext htail => hr' _ _ (h.eq_ok htext htail)⟩

theorem Reads.readAll {r : Reader α} {x : α} {cs ws : List Char} (h : Reads r x cs)
    (hws : ∀ c ∈ ws, isBlank c = true) : readAll r (String.ofList (cs ++ ws)) = .ok x := by
  have htail : Ends ws := fun c hc => .inl (hws c (List.mem_of_mem_head? hc))
  have hrest : skipBlank ws = [] := by
    rw [← List.append_nil ws, skipBlank_append hws]
    rfl
  rw [Json.readAll, String.toList_ofList, h.apply htail]
  simp [hrest, bind, Except.bind, pure, Except.pure]

theorem Ends.of_append {ws : List Char} (h : ∀ c ∈ ws, isBlank c = true) {c : Char}
    (hc : c = ',' ∨ c = ']' ∨ c = '\x7d') (tail : List Char) : Ends (ws ++ c :: tail) := by
  intro d hd
  cases ws with
  | nil => exact .inr (Option.some.inj hd ▸ hc)
  | cons e ws => exact .inl (Option.some.inj hd ▸ h e List.mem_cons_self)

/-! ## Plain values -/

theorem reads_string (s : String) : Reads string s (stringChars s) where
  starts := ⟨'"', _, rfl, rfl, by decide⟩
  eq_ok {text tail} htext _ := by
    rw [string, htext, stringChars]
    simp [stringTail_flatMap_escapeChar, bind, Except.bind, pure, Except.pure]

theorem reads_boolean (b : Bool) : Reads boolean b (booleanChars b) := by
  cases b
  · exact ⟨⟨'f', _, rfl, rfl, by decide⟩, fun htext _ => by rw [boolean, htext]; rfl⟩
  · exact ⟨⟨'t', _, rfl, rfl, by decide⟩, fun htext _ => by rw [boolean, htext]; rfl⟩

theorem reads_natural {n : Nat} (h : n < 2 ^ 64) : Reads natural n (naturalChars n) := by
  obtain ⟨c, rest, hcs, hc⟩ := naturalChars_eq_cons n
  refine ⟨⟨c, rest, hcs, ?_, ?_⟩, fun {text tail} htext htail => ?_⟩
  · by_contra hblank
    rw [isDigit_of_isBlank (Bool.not_eq_false _ ▸ hblank)] at hc
    cases hc
  · rintro rfl
    cases hc
  · have hnumber := number_naturalChars h htail
    rw [hcs, List.cons_append] at hnumber
    rw [natural, htext, hcs]
    simp [hc, hnumber, bind, Except.bind]

/-! ## Lists -/

theorem nextItem?_closer {text tail : List Char} (first : Bool)
    (h : skipBlank text = ']' :: tail) : nextItem? first text = .ok none := by
  rw [nextItem?, h]
  rfl

theorem Reads.nextItem?_first {r : Reader α} {x : α} {cs : List Char} (h : Reads r x cs)
    {text tail : List Char} (htext : skipBlank text = cs ++ tail) :
    nextItem? true text = .ok (some (cs ++ tail)) := by
  obtain ⟨c, rest, rfl, -, hc⟩ := h.starts
  rw [nextItem?, htext]
  simp

theorem Reads.nextItem?_comma {r : Reader α} {x : α} {cs : List Char} (h : Reads r x cs)
    {text tail : List Char} (htext : skipBlank text = cs ++ tail) :
    nextItem? false (',' :: text) = .ok (some (cs ++ tail)) := by
  obtain ⟨c, rest, rfl, -, hc⟩ := h.starts
  rw [nextItem?, skipBlank_cons rfl]
  simp [htext, hc]

variable (L : Layout)

theorem Layout.skipBlank_lineBreak (level : Nat) (cs : List Char) :
    skipBlank (L.lineBreak level ++ cs) = skipBlank cs :=
  skipBlank_append (L.isBlank_lineBreak level) cs

theorem Layout.skipBlank_rest_nil (closer : Char) (h : isBlank closer = false) (level : Nat)
    (tail : List Char) : skipBlank (L.rest level closer [] ++ tail) = closer :: tail := by
  rw [Layout.rest, List.append_assoc, L.skipBlank_lineBreak]
  exact skipBlank_cons h tail

theorem Layout.ends_rest {closer : Char} (hcloser : closer = ']' ∨ closer = '\x7d') (level : Nat)
    (parts : List (List Char)) (tail : List Char) : Ends (L.rest level closer parts ++ tail) := by
  cases parts with
  | nil =>
    rw [Layout.rest, List.append_assoc]
    exact .of_append (L.isBlank_lineBreak level) (.inr hcloser) tail
  | cons part parts => exact fun c hc => .inr (.inl (Option.some.inj hc).symm)

theorem Layout.length_lt_rest (level : Nat) (closer : Char) (parts : List (List Char)) :
    parts.length < (L.rest level closer parts).length := by
  induction parts with
  | nil => simp [Layout.rest]
  | cons part parts ih =>
    simp only [Layout.rest, List.length_cons, List.length_append]
    omega

/-- The number of characters bounds the number of parts, so the readers never run out of steps. -/
theorem Layout.length_lt_inside_append (level : Nat) (closer : Char) (parts : List (List Char))
    (tail : List Char) :
    parts.length < (L.inside level closer parts ++ tail).length + 1 := by
  cases parts with
  | nil => exact Nat.succ_pos _
  | cons part parts =>
    have hrest : parts.length < (L.rest level closer parts).length :=
      L.length_lt_rest level closer parts
    simp only [Layout.inside, List.length_cons, List.length_append]
    omega

theorem itemsTail_closer {text tail : List Char} (item : Reader α) (fuel : Nat) (first : Bool)
    (h : skipBlank text = ']' :: tail) : itemsTail item (fuel + 1) first text = .ok ([], tail) := by
  rw [itemsTail, nextItem?_closer first h, closeList, h]
  rfl

/-- An item is read where it is found, and then the items after it. -/
theorem itemsTail_item {item : Reader α} {x : α} {cs text tail : List Char} {first : Bool}
    (reads : Reads item x cs) (hnext : nextItem? first text = .ok (some (cs ++ tail)))
    (htail : Ends tail) {fuel : Nat} {xs : List α} {after : List Char}
    (hrest : itemsTail item fuel false tail = .ok (xs, after)) :
    itemsTail item (fuel + 1) first text = .ok (x :: xs, after) := by
  rw [itemsTail, hnext]
  simp only [bind, Except.bind, reads.apply htail, hrest]
  rfl

/-- The items after the first are read up to the closing bracket. -/
theorem itemsTail_rest {item : Reader α} {xs : List α} {parts : List (List Char)}
    (h : List.Forall₂ (Reads item) xs parts) (level : Nat) (tail : List Char) {fuel : Nat}
    (hfuel : parts.length < fuel) :
    itemsTail item fuel false (L.rest level ']' parts ++ tail) = .ok (xs, tail) := by
  -- on the items; one step of the fuel goes to each, and one to the closing bracket
  induction h generalizing fuel with
  | nil =>
    obtain ⟨fuel, rfl⟩ := Nat.exists_eq_succ_of_ne_zero (Nat.ne_of_gt hfuel)
    exact itemsTail_closer item fuel false (L.skipBlank_rest_nil ']' rfl level tail)
  | @cons x part xs parts hx _ ih =>
    obtain ⟨fuel, rfl⟩ := Nat.exists_eq_succ_of_ne_zero (Nat.ne_of_gt (Nat.zero_lt_of_lt hfuel))
    have hnext : nextItem? false (L.rest level ']' (part :: parts) ++ tail) =
        .ok (some (part ++ (L.rest level ']' parts ++ tail))) := by
      rw [Layout.rest, List.cons_append, List.append_assoc, List.append_assoc]
      exact hx.nextItem?_comma (by rw [L.skipBlank_lineBreak, hx.skipBlank_eq])
    exact itemsTail_item hx hnext (L.ends_rest (.inl rfl) level parts tail)
      (ih (Nat.lt_of_succ_lt_succ hfuel))

theorem itemsTail_inside {item : Reader α} {xs : List α} {parts : List (List Char)}
    (h : List.Forall₂ (Reads item) xs parts) (level : Nat) (tail : List Char) {fuel : Nat}
    (hfuel : parts.length < fuel) :
    itemsTail item fuel true (L.inside level ']' parts ++ tail) = .ok (xs, tail) := by
  obtain ⟨fuel, rfl⟩ := Nat.exists_eq_succ_of_ne_zero (Nat.ne_of_gt (Nat.zero_lt_of_lt hfuel))
  cases h with
  | nil => exact itemsTail_closer item fuel true (skipBlank_cons rfl tail)
  | @cons x part xs parts hx hxs =>
    have hnext : nextItem? true (L.inside level ']' (part :: parts) ++ tail) =
        .ok (some (part ++ (L.rest level ']' parts ++ tail))) := by
      rw [Layout.inside, List.append_assoc, List.append_assoc]
      exact hx.nextItem?_first (by rw [L.skipBlank_lineBreak, hx.skipBlank_eq])
    exact itemsTail_item hx hnext (L.ends_rest (.inl rfl) level parts tail)
      (itemsTail_rest L hxs level tail (Nat.lt_of_succ_lt_succ hfuel))

theorem reads_sequenceOf {item : Reader α} {xs : List α} {parts : List (List Char)}
    (h : List.Forall₂ (Reads item) xs parts) (levels level : Nat) :
    Reads (sequenceOf (levels + 1) item) xs (L.block level '[' ']' parts) where
  starts := ⟨'[', _, rfl, rfl, by decide⟩
  eq_ok {text tail} htext _ := by
    rw [sequenceOf, htext]
    exact itemsTail_inside L h level tail (L.length_lt_inside_append level ']' parts tail)

/-! ## Members -/

/-- Read one after another, the members take the first state to the last. -/
inductive ReadsMembers (member : σ → String → Except Error (Reader σ)) :
    σ → List (String × List Char) → σ → Prop where
  | nil (s : σ) : ReadsMembers member s [] s
  | cons {s s' s'' : σ} {key : String} {value : Reader σ} {cs : List Char}
      {members : List (String × List Char)} (known : member s key = .ok value)
      (reads : Reads value s' cs) (rest : ReadsMembers member s' members s'') :
      ReadsMembers member s ((key, cs) :: members) s''

/-- What follows the quote that opens a key. -/
def keyTail (key : String) (tail : List Char) : List Char :=
  key.toList.flatMap escapeChar ++ '"' :: ':' :: tail

theorem Layout.member_append (key : String) (cs tail : List Char) :
    L.member (key, cs) ++ tail = '"' :: keyTail key (L.gap ++ (cs ++ tail)) := by
  simp [Layout.member, stringChars, keyTail]

theorem stringTail_keyTail (key : String) (tail : List Char) :
    stringTail (keyTail key tail) = .ok (key.toList, ':' :: tail) :=
  stringTail_flatMap_escapeChar _ _

/-- The value of a member is read behind its colon. -/
theorem Reads.apply_gap {r : Reader α} {x : α} {cs tail : List Char} (h : Reads r x cs)
    (htail : Ends tail) : r (L.gap ++ (cs ++ tail)) = .ok (x, tail) :=
  h.eq_ok (by rw [skipBlank_append L.isBlank_gap, h.skipBlank_eq]) htail

theorem colon_cons (tail : List Char) : colon (':' :: tail) = .ok tail := by
  rw [colon, skipBlank_cons rfl]
  rfl

theorem nextKey_closer {text tail : List Char} (first : Bool)
    (h : skipBlank text = '\x7d' :: tail) : nextKey first text = .ok (.inr tail) := by
  rw [nextKey, h]
  rfl

theorem nextKey_first {text tail : List Char} (h : skipBlank text = '"' :: tail) :
    nextKey true text = .ok (.inl tail) := by
  rw [nextKey, h]
  rfl

theorem nextKey_comma {text tail : List Char} (h : skipBlank text = '"' :: tail) :
    nextKey false (',' :: text) = .ok (.inl tail) := by
  rw [nextKey, skipBlank_cons rfl]
  simp [h]

theorem membersTail_closer {text tail : List Char}
    (member : σ → String → Except Error (Reader σ)) (fuel : Nat) (first : Bool) (s : σ)
    (h : skipBlank text = '\x7d' :: tail) :
    membersTail member (fuel + 1) first s text = .ok (s, tail) := by
  rw [membersTail, nextKey_closer first h]
  rfl

/-- A member whose key is found takes the state one step further. -/
theorem membersTail_key {member : σ → String → Except Error (Reader σ)} {s s' : σ} {key : String}
    {value : Reader σ} {cs text tail : List Char} (known : member s key = .ok value)
    (reads : Reads value s' cs) (htail : Ends tail) {first : Bool}
    (hkey : nextKey first text = .ok (.inl (keyTail key (L.gap ++ (cs ++ tail))))) (fuel : Nat) :
    membersTail member (fuel + 1) first s text = membersTail member fuel false s' tail := by
  rw [membersTail, hkey]
  simp only [bind, Except.bind, stringTail_keyTail, String.ofList_toList, known, colon_cons,
    reads.apply_gap L htail]

/-- The members after the first are read up to the closing brace. -/
theorem membersTail_rest {member : σ → String → Except Error (Reader σ)} {s s' : σ}
    {members : List (String × List Char)} (h : ReadsMembers member s members s') (level : Nat)
    (tail : List Char) {fuel : Nat} (hfuel : members.length < fuel) :
    membersTail member fuel false s (L.rest level '\x7d' (members.map L.member) ++ tail) =
      .ok (s', tail) := by
  induction h generalizing fuel with
  | nil s =>
    obtain ⟨fuel, rfl⟩ := Nat.exists_eq_succ_of_ne_zero (Nat.ne_of_gt hfuel)
    exact membersTail_closer member fuel false s (L.skipBlank_rest_nil _ rfl level tail)
  | @cons s s' s'' key value cs members known reads _ ih =>
    obtain ⟨fuel, rfl⟩ := Nat.exists_eq_succ_of_ne_zero (Nat.ne_of_gt (Nat.zero_lt_of_lt hfuel))
    rw [List.map_cons, Layout.rest, List.cons_append, List.append_assoc, List.append_assoc,
      L.member_append, membersTail_key L known reads (L.ends_rest (.inr rfl) level _ tail)
        (nextKey_comma (by rw [L.skipBlank_lineBreak, skipBlank_cons rfl]))]
    exact ih (Nat.lt_of_succ_lt_succ hfuel)

theorem membersTail_inside {member : σ → String → Except Error (Reader σ)} {s s' : σ}
    {members : List (String × List Char)} (h : ReadsMembers member s members s') (level : Nat)
    (tail : List Char) {fuel : Nat} (hfuel : members.length < fuel) :
    membersTail member fuel true s (L.inside level '\x7d' (members.map L.member) ++ tail) =
      .ok (s', tail) := by
  obtain ⟨fuel, rfl⟩ := Nat.exists_eq_succ_of_ne_zero (Nat.ne_of_gt (Nat.zero_lt_of_lt hfuel))
  cases h with
  | nil => exact membersTail_closer member fuel true s (skipBlank_cons rfl tail)
  | @cons _ s' _ key value cs members known reads hrest =>
    rw [List.map_cons, Layout.inside, List.append_assoc, List.append_assoc, L.member_append,
      membersTail_key L known reads (L.ends_rest (.inr rfl) level _ tail)
        (nextKey_first (by rw [L.skipBlank_lineBreak, skipBlank_cons rfl]))]
    exact membersTail_rest L hrest level tail (Nat.lt_of_succ_lt_succ hfuel)

theorem reads_membersOf {member : σ → String → Except Error (Reader σ)} {s s' : σ}
    {members : List (String × List Char)} (h : ReadsMembers member s members s')
    (levels level : Nat) (expected : String) :
    Reads (membersOf (levels + 1) expected member s) s'
      (L.block level '\x7b' '\x7d' (members.map L.member)) where
  starts := ⟨'\x7b', _, rfl, rfl, by decide⟩
  eq_ok {text tail} htext _ := by
    have hfuel := L.length_lt_inside_append level '\x7d' (members.map L.member) tail
    rw [List.length_map] at hfuel
    rw [membersOf, htext]
    exact membersTail_inside L h level tail hfuel

/-- A record may be given as an object. -/
theorem reads_recordOf {member : σ → String → Except Error (Reader σ)} {s s' : σ}
    {members : List (String × List Char)} (h : ReadsMembers member s members s')
    (levels level : Nat) (name : String) (fields : Reader σ) :
    Reads (recordOf (levels + 1) name member s fields) s'
      (L.block level '\x7b' '\x7d' (members.map L.member)) where
  starts := ⟨'\x7b', _, rfl, rfl, by decide⟩
  eq_ok {text tail} htext htail := by
    rw [recordOf, htext]
    exact (reads_membersOf L h levels level _).apply htail

theorem reads_pairOf {first : Reader α} {second : Reader β} {a : α} {b : β}
    {cs cs' : List Char} (hfirst : Reads first a cs) (hsecond : Reads second b cs')
    {key key' : String} (hne : key' ≠ key) (levels level : Nat) (name : String) :
    Reads (pairOf (levels + 1) name key key' first second) (a, b)
      (L.block level '\x7b' '\x7d' ([(key, cs), (key', cs')].map L.member)) := by
  have hkey : pairMember key key' first second (none, none) key =
      .ok fun text => (first text).map fun r => ((some r.1, none), r.2) := by
    simp [pairMember]
  have hkey' : pairMember key key' first second (some a, none) key' =
      .ok fun text => (second text).map fun r => ((some a, some r.1), r.2) := by
    simp [pairMember, hne]
  have hmembers : ReadsMembers (pairMember key key' first second) (none, none)
      [(key, cs), (key', cs')] (some a, some b) :=
    .cons hkey (hfirst.map (some ·, none) fun _ _ h => by rw [h]; rfl)
      (.cons hkey' (hsecond.map (some a, some ·) fun _ _ h => by rw [h]; rfl) (.nil _))
  have hrecord := reads_recordOf L hmembers levels level name (pairFields name first second)
  refine ⟨hrecord.starts, fun htext htail => ?_⟩
  rw [pairOf, hrecord.eq_ok htext htail]
  rfl

/-! ## Alternatives -/

theorem variantName_keyTail {known : List String} {name : String} (h : name ∈ known)
    (tail : List Char) : variantName known (keyTail name tail) = .ok (name, ':' :: tail) := by
  simp [variantName, stringTail_keyTail, h, bind, Except.bind, pure, Except.pure]

/-- The name of an alternative alone. -/
theorem reads_variantOf_bare {known : List String} {bare : String → Except Error α}
    {payload : String → Reader α} {name : String} {x : α} (h : name ∈ known)
    (hbare : bare name = .ok x) (levels : Nat) :
    Reads (variantOf levels known bare payload) x (stringChars name) where
  starts := ⟨'"', _, rfl, rfl, by decide⟩
  eq_ok {text tail} htext _ := by
    have hname : variantName known (name.toList.flatMap escapeChar ++ ['"'] ++ tail) =
        .ok (name, tail) := by
      simp [variantName, stringTail_flatMap_escapeChar, h, bind, Except.bind, pure, Except.pure]
    rw [variantOf, htext, stringChars, List.cons_append]
    simp only [hname, bind, Except.bind, hbare]
    rfl

/-- An alternative with its value. -/
theorem reads_variantOf {known : List String} {bare : String → Except Error α}
    {payload : String → Reader α} {name : String} {x : α} {cs : List Char} (h : name ∈ known)
    (hpayload : Reads (payload name) x cs) (levels level : Nat) :
    Reads (variantOf (levels + 1) known bare payload) x
      (L.block level '\x7b' '\x7d' [L.member (name, cs)]) where
  starts := ⟨'\x7b', _, rfl, rfl, by decide⟩
  eq_ok {text tail} htext _ := by
    have hinside : skipBlank (L.inside level '\x7d' [L.member (name, cs)] ++ tail) =
        '"' :: keyTail name (L.gap ++ (cs ++ (L.rest level '\x7d' [] ++ tail))) := by
      rw [Layout.inside, List.append_assoc, List.append_assoc, L.member_append,
        L.skipBlank_lineBreak, skipBlank_cons rfl]
    have hvalue := hpayload.apply_gap L (L.ends_rest (.inr rfl) level [] tail)
    rw [variantOf, htext, Layout.block, List.cons_append]
    simp only [bind, Except.bind, enter, hinside, variantName_keyTail h, colon_cons, hvalue,
      L.skipBlank_rest_nil '\x7d' rfl level tail]

end MacroByExample.Json
