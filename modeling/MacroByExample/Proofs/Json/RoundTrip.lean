import MacroByExample.Proofs.Json.ReadingBack
import MacroByExample.Report

/-!
# What is written as JSON is read back

Forms, rules, sets of tokens, bindings and configurations are read back from the text in which they
are written, in any layout. Each reader opens just the levels that the text opens, so a text is
read by every reader that may open so many.

* `reads_form`, `reads_rule`, `reads_tokenSet`, `reads_bindings`, `reads_configuration`: the
  characters of each type, in any layout.
* `readAll_compact`, `readAll_report`: from a layout to the texts that are written.
* `ofJson_compact`: a valid configuration from its text.
* **`readAll_written`**: every type from its compact text, and forms and bindings from the text
  of their report.
-/

namespace MacroByExample.Json

variable {α : Type} (L : Layout)

/-- The items of an array, from what is read of each. -/
theorem reads_array {item : Reader α} {toJson : α → Value} {xs : List α} {level : Nat}
    (h : ∀ x ∈ xs, Reads item x ((toJson x).chars L (level + 1))) (levels : Nat) :
    Reads (sequenceOf (levels + 1) item) xs ((Value.array (xs.map toJson)).chars L level) := by
  have hitems : List.Forall₂ (Reads item) xs
      ((xs.map toJson).map (Value.chars L (level + 1))) := by
    rw [List.map_map, List.forall₂_map_right_iff]
    exact List.forall₂_same.mpr h
  rw [Value.chars_array]
  exact reads_sequenceOf L hitems levels level

/-! ## Forms -/

theorem toJsonItems_eq_map (items : List Form) : Form.toJsonItems items = items.map Form.toJson := by
  induction items with
  | nil => rfl
  | cons f rest ih => rw [Form.toJsonItems, ih, List.map_cons]

/-- A list opens two levels around its items. -/
theorem depth_list_le_iff {items : List Form} {n : Nat} :
    (Form.toJson (.list items)).depth ≤ n + 2 ↔ ∀ f ∈ items, f.toJson.depth ≤ n := by
  rw [Form.toJson, Value.depth_object_le_iff, List.forall_mem_singleton,
    Value.depth_array_le_iff, toJsonItems_eq_map, List.forall_mem_map]

theorem reads_atom (t : String) (item : Reader Form) (levels level : Nat) :
    Reads (formOf (levels + 1) item) (.atom t) ((Form.toJson (.atom t)).chars L level) := by
  have hknown : "Atom" ∈ ["Atom", "List"] := by decide
  rw [Form.toJson, Value.chars_object]
  refine reads_variantOf L hknown ?_ levels level
  exact (reads_string t).map Form.atom fun text p hp => by rw [if_pos rfl, hp]; rfl

theorem reads_list {item : Reader Form} {items : List Form} {level : Nat}
    (h : ∀ f ∈ items, Reads item f (f.toJson.chars L (level + 2))) (levels : Nat) :
    Reads (formOf (levels + 2) item) (.list items) ((Form.toJson (.list items)).chars L level) := by
  have hknown : "List" ∈ ["Atom", "List"] := by decide
  have hother : "List" ≠ "Atom" := by decide
  rw [Form.toJson, Value.chars_object, toJsonItems_eq_map]
  refine reads_variantOf L hknown ?_ (levels + 1) level
  exact (reads_array L h levels).map Form.list fun text p hp => by
    rw [if_neg hother, Nat.add_sub_assoc (by decide), hp]; rfl

/-- A form is read from its text in any layout. -/
theorem reads_form (f : Form) {levels : Nat} (h : f.toJson.depth ≤ levels) (level : Nat) :
    Reads (form levels) f (f.toJson.chars L level) := by
  induction f using Form.structuralInduction generalizing levels level with
  | atom t =>
    match levels, h with
    | 1, _ => exact reads_atom L t _ 0 level
    | levels + 2, _ => exact reads_atom L t _ (levels + 1) level
  | list items ih =>
    match levels, h with
    | levels + 2, h =>
      exact reads_list L (fun f hf => ih f hf (depth_list_le_iff.mp h f hf) (level + 2)) levels

/-! ## Rules -/

theorem reads_rule (r : Rule) {levels : Nat} (h : r.toJson.depth ≤ levels) (level : Nat) :
    Reads (rule levels) r (r.toJson.chars L level) := by
  have hne : "template" ≠ "pattern" := by decide
  match levels, h with
  | levels + 1, h =>
    have hparts := Value.depth_object_le_iff.mp h
    have hpattern := reads_form L r.pattern (hparts _ List.mem_cons_self) (level + 1)
    have htemplate :=
      reads_form L r.template (hparts _ (List.mem_cons_of_mem _ List.mem_cons_self)) (level + 1)
    rw [Rule.toJson, Value.chars_object]
    exact (reads_pairOf L hpattern htemplate hne levels level "Rule").map
      (fun p => (⟨p.1, p.2⟩ : Rule)) fun text p hp => by rw [rule, Nat.add_sub_cancel, hp]; rfl

/-! ## Sets of tokens -/

theorem reads_tokenSet (s : TokenSet) {levels : Nat} (h : s.toJson.depth ≤ levels) (level : Nat) :
    Reads (tokenSet levels) s (s.toJson.chars L level) := by
  match levels, h with
  | levels + 1, _ =>
    have htokens : Reads (tokenSet (levels + 1)) (TokenSet.ofList s.toList)
        (s.toJson.chars L level) :=
      (reads_array L (fun t _ => reads_string t) levels).map TokenSet.ofList fun text p hp => by
        rw [tokenSet, hp]; rfl
    rwa [TokenSet.ofList_toList] at htokens

/-! ## Bindings -/

/-- The JSON value of the forms that a variable captured. -/
def captureJson (fs : List Form) : Value :=
  .array (Form.toJsonItems fs)

theorem reads_capture {fs : List Form} {levels : Nat} (h : (captureJson fs).depth ≤ levels)
    (level : Nat) :
    Reads (sequenceOf levels (form (levels - 1))) fs ((captureJson fs).chars L level) := by
  rw [captureJson, toJsonItems_eq_map] at h ⊢
  match levels, h with
  | levels + 1, h =>
    have hforms := List.forall_mem_map.mp (Value.depth_array_le_iff.mp h)
    exact reads_array L (fun f hf => reads_form L f (hforms f hf) (level + 1)) levels

/-- The member of the captures of one variable. -/
def captureMember (levels : Nat) (m : TokenMap (List Form)) (var : String) :
    Except Error (Reader (TokenMap (List Form))) :=
  .ok fun cs => do
    let (forms, rest) ← sequenceOf (levels - 1) (form (levels - 2)) cs
    return (m.insert var forms, rest)

theorem captures_eq_membersOf (levels : Nat) :
    captures levels = membersOf levels "a sequence" (captureMember levels) .empty := rfl

/-- Reading captures inserts them one after another. -/
theorem readsMembers_captures (l : List (String × List Form)) {levels : Nat}
    (h : ∀ e ∈ l, (captureJson e.2).depth ≤ levels) (m : TokenMap (List Form)) (level : Nat) :
    ReadsMembers (captureMember (levels + 1)) m
      (l.map fun e => (e.1, (captureJson e.2).chars L level))
      (l.foldl (fun m e => m.insert e.1 e.2) m) := by
  induction l generalizing m with
  | nil => exact .nil m
  | cons e l ih =>
    have hforms := reads_capture L (h e List.mem_cons_self) level
    exact .cons rfl
      (hforms.map (m.insert e.1) fun text p hp => by
        rw [Nat.add_sub_cancel, Nat.add_sub_add_right levels 1 1, hp]; rfl)
      (ih (fun e he => h e (List.mem_cons_of_mem _ he)) _)

theorem reads_captures (m : TokenMap (List Form)) {levels : Nat}
    (h : (Value.object (m.entries.map fun e => (e.1, captureJson e.2))).depth ≤ levels)
    (level : Nat) :
    Reads (captures levels) m
      ((Value.object (m.entries.map fun e => (e.1, captureJson e.2))).chars L level) := by
  match levels, h with
  | levels + 1, h =>
    have hentries := List.forall_mem_map.mp (Value.depth_object_le_iff.mp h)
    have hmembers := readsMembers_captures L m.entries hentries .empty (level + 1)
    rw [TokenMap.foldl_insert_entries] at hmembers
    rw [captures_eq_membersOf, Value.chars_object, List.map_map (l := m.entries)]
    exact reads_membersOf L hmembers levels level "a sequence"

theorem reads_bindings (b : Bindings) {levels : Nat} (h : b.toJson.depth ≤ levels) (level : Nat) :
    Reads (bindings levels) b (b.toJson.chars L level) := by
  have hne : "repeated" ≠ "captures" := by decide
  match levels, h with
  | levels + 1, h =>
    have hparts := Value.depth_object_le_iff.mp h
    have hcaptures := reads_captures L b.captures (hparts _ List.mem_cons_self) (level + 1)
    have hrepeated :=
      reads_tokenSet L b.repeated (hparts _ (List.mem_cons_of_mem _ List.mem_cons_self)) (level + 1)
    rw [Bindings.toJson, Value.chars_object]
    exact (reads_pairOf L hcaptures hrepeated hne levels level "Bindings").map
      (fun p => (⟨p.1, p.2⟩ : Bindings)) fun text p hp => by
        rw [bindings, Nat.add_sub_cancel, hp]; rfl

/-! ## Configurations -/

theorem reads_trailingPolicy (p : TrailingPolicy) (levels level : Nat) :
    Reads (trailingPolicy levels) p (p.toJson.chars L level) := by
  have hknown : p.name ∈ ["strict", "lenient"] := by cases p <;> decide
  have hpolicy : policyOfName p.name = p := by cases p <;> rfl
  rw [trailingPolicy]
  exact reads_variantOf_bare hknown (by rw [hpolicy]) levels

/-- Each member of a configuration gives one more field. -/
theorem readsMembers_configuration (c : Configuration) (h : c.width < 2 ^ 64)
    (levels level : Nat) :
    ReadsMembers (configurationMember levels) {}
      [("ellipsis", (Value.string c.ellipsis).chars L level),
        ("trailing", c.trailing.toJson.chars L level),
        ("ignore_keyword", (Value.boolean c.ignoreKeyword).chars L level),
        ("width", (Value.natural c.width).chars L level)]
      ⟨c.ellipsis, c.trailing, c.ignoreKeyword, c.width⟩ := by
  have hellipsis := reads_string c.ellipsis
  have htrailing := reads_trailingPolicy L c.trailing levels level
  have hignore := reads_boolean c.ignoreKeyword
  have hwidth := reads_natural h
  exact
    .cons rfl (hellipsis.map (⟨some ·, none, none, none⟩) fun _ _ h => by rw [h]; rfl) <|
    .cons rfl (htrailing.map (⟨c.ellipsis, some ·, none, none⟩) fun _ _ h => by rw [h]; rfl) <|
    .cons rfl (hignore.map (⟨c.ellipsis, c.trailing, some ·, none⟩) fun _ _ h => by rw [h]; rfl) <|
    .cons rfl (hwidth.map (⟨c.ellipsis, c.trailing, c.ignoreKeyword, some ·⟩)
      fun _ _ h => by rw [h]; rfl) (.nil _)

theorem reads_configuration (c : Configuration) (h : c.width < 2 ^ 64) {levels : Nat}
    (hdepth : c.toJson.depth ≤ levels) (level : Nat) :
    Reads (configuration levels) c (c.toJson.chars L level) := by
  match levels, hdepth with
  | levels + 1, _ =>
    have hmembers := readsMembers_configuration L c h levels (level + 1)
    rw [Configuration.toJson, Value.chars_object]
    exact (reads_recordOf L hmembers levels level "ExpanderConfig" _).map
      GivenFields.toConfiguration fun text p hp => by
        rw [configuration, Nat.add_sub_cancel, hp]; rfl

/-! ## Whole texts -/

theorem readAll_compact {r : Reader α} {x : α} {v : Value}
    (h : Reads r x (v.chars .compact 0)) : readAll r v.compact = .ok x := by
  rw [Value.compact, Value.compactChars_eq_chars 0, ← List.append_nil (v.chars .compact 0)]
  exact h.readAll nofun

/-- The line feed that ends a report does no harm. -/
theorem readAll_report {r : Reader α} {x : α} {v : Value}
    (h : Reads r x (v.chars .pretty 0)) : readAll r (String.ofList (Report.json v)) = .ok x := by
  rw [Report.json, Value.prettyChars_eq_chars]
  exact h.readAll fun c hc => by rw [List.eq_of_mem_singleton hc]; rfl

/-- The text of a configuration describes it, if it is valid. -/
theorem ofJson_compact {c : Configuration} (h : c.width < 2 ^ 64) :
    Configuration.ofJson c.toJson.compact = c.validate.map fun _ => c := by
  have hdepth : c.toJson.depth ≤ maxLevels := (by decide : 1 ≤ maxLevels)
  have hread := readAll_compact (reads_configuration _ c h hdepth 0)
  simp only [Configuration.ofJson, hread]
  cases c.validate <;> rfl

/-- **Every value is read back from its compact text by every reader that may open as many levels
    as the text does.** For forms and bindings this holds of the text of their report as well. The
    width of a configuration is a number of 64 bits; tokens may hold any characters. -/
theorem readAll_written (levels : Nat) :
    (∀ f : Form, f.toJson.depth ≤ levels →
      readAll (form levels) f.toJson.compact = .ok f ∧
      readAll (form levels) (String.ofList (Report.json f.toJson)) = .ok f) ∧
    (∀ r : Rule, r.toJson.depth ≤ levels → readAll (rule levels) r.toJson.compact = .ok r) ∧
    (∀ s : TokenSet, s.toJson.depth ≤ levels →
      readAll (tokenSet levels) s.toJson.compact = .ok s) ∧
    (∀ b : Bindings, b.toJson.depth ≤ levels →
      readAll (bindings levels) b.toJson.compact = .ok b ∧
      readAll (bindings levels) (String.ofList (Report.json b.toJson)) = .ok b) ∧
    (∀ c : Configuration, c.toJson.depth ≤ levels → c.width < 2 ^ 64 →
      readAll (configuration levels) c.toJson.compact = .ok c) := by
  refine ⟨?forms, ?rules, ?tokens, ?bindings, ?configurations⟩
  case forms =>
    intro f h
    exact ⟨readAll_compact (reads_form _ f h 0), readAll_report (reads_form _ f h 0)⟩
  case rules => exact fun r h => readAll_compact (reads_rule _ r h 0)
  case tokens => exact fun s h => readAll_compact (reads_tokenSet _ s h 0)
  case bindings =>
    intro b h
    exact ⟨readAll_compact (reads_bindings _ b h 0), readAll_report (reads_bindings _ b h 0)⟩
  case configurations =>
    exact fun c h hwidth => readAll_compact (reads_configuration _ c hwidth h 0)

/-- Quotes, control characters, an empty token, an empty list, a repeated variable and the largest
    width. -/
theorem readAll_written_escaped :
    (Form.list [.atom "\"\\\n\x01", .atom ""]).toJson.depth ≤ maxLevels ∧
    readAll (form maxLevels)
      "\x7b\"List\":[\x7b\"Atom\":\"\\\"\\\\\\n\\u0001\"\x7d,\x7b\"Atom\":\"\"\x7d]\x7d" =
      .ok (.list [.atom "\"\\\n\x01", .atom ""]) ∧
    readAll (form maxLevels) "\x7b\n  \"List\": []\n\x7d\n" = .ok (.list []) ∧
    readAll (rule maxLevels)
      "\x7b\"pattern\":\x7b\"Atom\":\"a\"\x7d,\"template\":\x7b\"List\":[]\x7d\x7d" =
      .ok ⟨.atom "a", .list []⟩ ∧
    readAll (tokenSet maxLevels) "[\"\",\"else\"]" = .ok (.ofList ["else", ""]) ∧
    readAll (bindings maxLevels)
      "\x7b\"captures\":\x7b\"x\":[]\x7d,\"repeated\":[\"x\"]\x7d" =
      .ok (Bindings.empty.declareRepeated "x") ∧
    readAll (bindings maxLevels)
      "\x7b\n  \"captures\": \x7b\x7d,\n  \"repeated\": []\n\x7d\n" = .ok .empty ∧
    2 ^ 64 - 1 < 2 ^ 64 ∧
    readAll (configuration maxLevels)
      ("\x7b\"ellipsis\":\"...\",\"trailing\":\"strict\",\"ignore_keyword\":false," ++
        "\"width\":18446744073709551615\x7d") = .ok ⟨{}, 2 ^ 64 - 1⟩ := by
  obtain ⟨hform, hrule, htokens, hbindings, hconfiguration⟩ := readAll_written maxLevels
  have hlist : (Form.list [.atom "\"\\\n\x01", .atom ""]).toJson.depth ≤ maxLevels := by decide
  refine ⟨hlist, ?_, ?_, ?_, ?_, ?_, ?_, by decide, ?_⟩
  · exact (hform (.list [.atom "\"\\\n\x01", .atom ""]) hlist).1
  · exact (hform (.list []) (by decide)).2
  · exact hrule ⟨.atom "a", .list []⟩ (by decide)
  · exact htokens (.ofList ["else", ""]) (by decide)
  · exact (hbindings (Bindings.empty.declareRepeated "x") (by decide)).1
  · exact (hbindings .empty (by decide)).2
  · have hwidest : (Configuration.toJson ⟨{}, 2 ^ 64 - 1⟩).depth ≤ maxLevels := by decide +kernel
    have htext : (Configuration.toJson ⟨{}, 2 ^ 64 - 1⟩).compact =
        "\x7b\"ellipsis\":\"...\",\"trailing\":\"strict\",\"ignore_keyword\":false," ++
          "\"width\":18446744073709551615\x7d" := by
      decide +kernel
    rw [← htext]
    exact hconfiguration ⟨{}, 2 ^ 64 - 1⟩ hwidest (by decide)

end MacroByExample.Json
