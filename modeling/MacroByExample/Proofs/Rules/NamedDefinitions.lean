import MacroByExample.CommandLine.Execute
import MacroByExample.Proofs.Rules.Firing

/-!
# Texts of named definitions

A text of named definitions makes a table if it has a form, if every form is a definition, and if no
two define one name. The table is filled by a loop over the forms that stops at the first of them
that is no definition or defines a name again; what the loop has built is, at every moment, the table
of the definitions so far. The table answers a form by the definition of the name that the form
calls, and the order of the definitions plays no role.

* `Defines`: the names and rule sets that forms define.
* `Definitions.Fresh`, `addDefinitions_eq_ok_iff`: the definitions that the loop accepts.
* `exists_repeatedName`: the error of a name that is defined again.
* `MacroTable.AnswersBy`: a table answers every form by the given definitions.
* `ofForms_of_perm`, `ofForms_of_not_nodup`: the order of definitions, and repeated names.
* `definitionsOfText_named`: texts of named definitions.
-/

namespace MacroByExample

variable {s : MatchSettings}

/-! ## Filling a table -/

/-- Each of the forms defines a name as a rule set. -/
def Defines (s : MatchSettings) (forms : List Form) (defs : List (String × RuleSet)) : Prop :=
  List.Forall₂ (fun form d => definitionOfForm s form = .ok d) forms defs

/-- The table with definitions registered one after the other. -/
def MacroTable.registerAll (t : MacroTable) (defs : List (String × RuleSet)) : MacroTable :=
  defs.foldl (fun t d => t.register d.1 d.2) t

namespace MacroTable

variable {t : MacroTable} {name : String} {rules : RuleSet} {defs : List (String × RuleSet)}

theorem contains_eq_isSome (t : MacroTable) (name : String) :
    t.contains name = (t.get? name).isSome := rfl

theorem contains_register (t : MacroTable) (name : String) (rules : RuleSet) (name' : String) :
    (t.register name rules).contains name' = (decide (name' = name) || t.contains name') := by
  rw [contains_eq_isSome, get?_register, contains_eq_isSome]
  by_cases h : name' = name <;> simp [h]

theorem get?_registerAll_of_notMem (h : name ∉ defs.map Prod.fst) :
    (t.registerAll defs).get? name = t.get? name := by
  induction defs generalizing t with
  | nil => rfl
  | cons d defs ih =>
    rw [List.map_cons, List.mem_cons, not_or] at h
    rw [registerAll, List.foldl_cons, ← registerAll, ih h.2, get?_register, if_neg h.1]

theorem get?_registerAll_of_mem (hnodup : (defs.map Prod.fst).Nodup)
    (h : (name, rules) ∈ defs) : (t.registerAll defs).get? name = some rules := by
  induction defs generalizing t with
  | nil => cases h
  | cons d defs ih =>
    rw [List.map_cons, List.nodup_cons] at hnodup
    rw [registerAll, List.foldl_cons, ← registerAll]
    obtain rfl | h := List.mem_cons.mp h
    · rw [get?_registerAll_of_notMem hnodup.1, get?_register, if_pos rfl]
    · exact ih hnodup.2 h

theorem ext_get? {t t' : MacroTable} (h : ∀ name, t.get? name = t'.get? name) : t = t' := by
  have hmacros : t.macros = t'.macros := TokenMap.ext_get? h
  cases t
  cases t'
  simpa using hmacros

end MacroTable

namespace Definitions

/-- One turn of the loop. -/
theorem addDefinitions_cons {form : Form} {d : String × RuleSet} {macros : MacroTable}
    (h : definitionOfForm s form = .ok d) (rest : List Form) :
    addDefinitions s macros (form :: rest) =
      if macros.contains d.1 then .error (.repeatedName d.1)
      else addDefinitions s (macros.register d.1 d.2) rest := by
  rw [addDefinitions, h]
  rfl

/-- No definition is of a name that the table has or that an earlier definition is of. -/
def Fresh (macros : MacroTable) (defs : List (String × RuleSet)) : Prop :=
  (defs.map Prod.fst).Nodup ∧ ∀ d ∈ defs, macros.contains d.1 = false

theorem fresh_cons_iff {macros : MacroTable} {d : String × RuleSet}
    {defs : List (String × RuleSet)} :
    Fresh macros (d :: defs) ↔
      macros.contains d.1 = false ∧ Fresh (macros.register d.1 d.2) defs := by
  simp only [Fresh, List.map_cons, List.nodup_cons, List.forall_mem_cons,
    MacroTable.contains_register, Bool.or_eq_false_iff, decide_eq_false_iff_not, List.mem_map]
  constructor
  · rintro ⟨⟨hname, hnodup⟩, hfirst, hrest⟩
    exact ⟨hfirst, hnodup, fun d' hd' => ⟨fun heq => hname ⟨d', hd', heq⟩, hrest d' hd'⟩⟩
  · rintro ⟨hfirst, hnodup, hrest⟩
    refine ⟨⟨?_, hnodup⟩, hfirst, fun d' hd' => (hrest d' hd').2⟩
    rintro ⟨d', hd', heq⟩
    exact (hrest d' hd').1 heq

/-- The loop ends with a table exactly when each form is a definition of a fresh name; then it has
    registered all of them. -/
theorem addDefinitions_eq_ok_iff {forms : List Form} {macros macros' : MacroTable} :
    addDefinitions s macros forms = .ok macros' ↔
      ∃ defs, Defines s forms defs ∧ Fresh macros defs ∧ macros' = macros.registerAll defs := by
  induction forms generalizing macros with
  | nil =>
    constructor
    · intro h
      cases h
      exact ⟨[], .nil, ⟨.nil, nofun⟩, rfl⟩
    · rintro ⟨defs, hdefs, -, rfl⟩
      cases hdefs
      rfl
  | cons form rest ih =>
    constructor
    · intro h
      obtain ⟨d, hd, -⟩ := bind_eq_ok_iff.mp h
      rw [addDefinitions_cons hd] at h
      cases hcontains : macros.contains d.1 with
      | true =>
        rw [if_pos hcontains] at h
        cases h
      | false =>
        rw [if_neg (by simp [hcontains])] at h
        obtain ⟨defs, hdefs, hfresh, rfl⟩ := ih.mp h
        exact ⟨d :: defs, .cons hd hdefs, fresh_cons_iff.mpr ⟨hcontains, hfresh⟩, rfl⟩
    · rintro ⟨defs, hdefs, hfresh, rfl⟩
      obtain ⟨d, others, hd, hothers, rfl⟩ := List.forall₂_cons_left_iff.mp hdefs
      obtain ⟨hcontains, hfresh⟩ := fresh_cons_iff.mp hfresh
      rw [addDefinitions_cons hd, if_neg (by simp [hcontains])]
      exact ih.mpr ⟨others, hothers, hfresh, rfl⟩

/-- If each form is a definition and not all names are fresh, the loop ends at a name that the table
    has or that is defined twice. -/
theorem exists_repeatedName {forms : List Form} {defs : List (String × RuleSet)}
    {macros : MacroTable} (h : Defines s forms defs) (hfresh : ¬ Fresh macros defs) :
    ∃ name, addDefinitions s macros forms = .error (.repeatedName name) ∧
      (macros.contains name = true ∧ name ∈ defs.map Prod.fst ∨
        List.Duplicate name (defs.map Prod.fst)) := by
  induction h generalizing macros with
  | nil => exact absurd ⟨.nil, nofun⟩ hfresh
  | @cons form d rest defs hd _ ih =>
    rw [addDefinitions_cons hd]
    cases hcontains : macros.contains d.1 with
    | true => exact ⟨d.1, if_pos rfl, .inl ⟨hcontains, List.mem_cons_self⟩⟩
    | false =>
      rw [fresh_cons_iff, not_and] at hfresh
      obtain ⟨name, hname, hwhere⟩ := ih (hfresh hcontains)
      refine ⟨name, hname, ?_⟩
      rw [MacroTable.contains_register, Bool.or_eq_true, decide_eq_true_iff] at hwhere
      obtain ⟨rfl | hold, hmem⟩ | htwice := hwhere
      · exact .inr (List.Mem.duplicate_cons_self hmem)
      · exact .inl ⟨hold, List.mem_cons_of_mem _ hmem⟩
      · exact .inr (htwice.duplicate_cons _)

end Definitions

/-! ## What a table answers -/

/-- The table answers a form that calls a defined name as the rule set of the name does. It knows no
    other names and lists those it knows in order; other forms are no calls. -/
structure MacroTable.AnswersBy (t : MacroTable) (defs : List (String × RuleSet)) : Prop where
  defined : ∀ form name rules, form.headToken? = some name → (name, rules) ∈ defs →
    t.tryRules form = rules.tryRules form
  unknown : ∀ form name, form.headToken? = some name → name ∉ defs.map Prod.fst →
    t.tryRules form = .error (.unknownMacro name ((defs.map Prod.fst).mergeSort (· ≤ ·)))
  notACall : ∀ form, form.headToken? = none → t.tryRules form = .error (.notACall form)

namespace MacroTable

variable {defs : List (String × RuleSet)}

theorem mem_names_iff {t : MacroTable} {name : String} :
    name ∈ t.names ↔ t.contains name = true :=
  TokenMap.mem_keys_iff

theorem contains_registerAll {t : MacroTable} {name : String} :
    (t.registerAll defs).contains name = true ↔
      name ∈ defs.map Prod.fst ∨ t.contains name = true := by
  induction defs generalizing t with
  | nil => simp [registerAll]
  | cons d defs ih =>
    rw [registerAll, List.foldl_cons, ← registerAll, ih, contains_register, Bool.or_eq_true,
      decide_eq_true_iff, List.map_cons, List.mem_cons, or_left_comm, or_assoc]

/-- The names of a table are those that were registered, in increasing order. -/
theorem names_registerAll (h : (defs.map Prod.fst).Nodup) :
    (empty.registerAll defs).names = (defs.map Prod.fst).mergeSort (· ≤ ·) := by
  have hmem : ∀ name, name ∈ (empty.registerAll defs).names ↔ name ∈ defs.map Prod.fst := by
    intro name
    rw [mem_names_iff, contains_registerAll, or_iff_left]
    exact Bool.false_ne_true
  have hperm : (empty.registerAll defs).names.Perm (defs.map Prod.fst) :=
    (List.perm_ext_iff_of_nodup (TokenMap.nodup_keys _) h).mpr hmem
  have hsorted : (empty.registerAll defs).names.Pairwise (· ≤ ·) :=
    (TokenMap.sorted_keys _).imp le_of_lt
  exact (hperm.trans (List.mergeSort_perm _ _).symm).eq_of_pairwise' hsorted
    (List.pairwise_mergeSort' _ _)

theorem answersBy_registerAll (h : (defs.map Prod.fst).Nodup) :
    (empty.registerAll defs).AnswersBy defs where
  defined := by
    intro form name rules hhead hmem
    simp only [tryRules, hhead, get?_registerAll_of_mem h hmem]
  unknown := by
    intro form name hhead hmem
    have hnone : (empty.registerAll defs).get? name = none := get?_registerAll_of_notMem hmem
    simp only [tryRules, hhead, hnone, names_registerAll h]
  notACall := by
    intro form hhead
    simp only [tryRules, hhead]

/-- The order in which definitions of different names are registered plays no role. -/
theorem registerAll_perm {defs' : List (String × RuleSet)} (h : defs.Perm defs')
    (hnodup : (defs.map Prod.fst).Nodup) (t : MacroTable) :
    t.registerAll defs = t.registerAll defs' := by
  have hnodup' : (defs'.map Prod.fst).Nodup := (h.map _).nodup_iff.mp hnodup
  apply ext_get?
  intro name
  by_cases hname : name ∈ defs.map Prod.fst
  · obtain ⟨⟨name, rules⟩, hmem, rfl⟩ := List.mem_map.mp hname
    rw [get?_registerAll_of_mem hnodup hmem, get?_registerAll_of_mem hnodup' (h.mem_iff.mp hmem)]
  · rw [get?_registerAll_of_notMem hname,
      get?_registerAll_of_notMem fun h' => hname ((h.map _).mem_iff.mpr h')]

end MacroTable

/-! ## Texts -/

namespace Definitions

/-- Forms that are not a single rule set are taken as named definitions. -/
theorem ofForms_eq_addDefinitions {forms : List Form} (hne : forms ≠ [])
    (hsingle : ∀ form, forms = [form] → form.headToken? ≠ some rulesKeyword) :
    ofForms s forms = (addDefinitions s .empty forms).map .table := by
  match forms with
  | [] => exact absurd rfl hne
  | [form] => rw [ofForms, if_neg (hsingle form rfl)]
  | _ :: _ :: _ => rfl

theorem fresh_empty_iff {defs : List (String × RuleSet)} :
    Fresh .empty defs ↔ (defs.map Prod.fst).Nodup :=
  and_iff_left fun _ _ => rfl

/-- Forms that define different names make a table of these definitions. -/
theorem ofForms_of_defines {forms : List Form} {defs : List (String × RuleSet)} (hne : forms ≠ [])
    (hsingle : ∀ form, forms = [form] → form.headToken? ≠ some rulesKeyword)
    (hdefs : Defines s forms defs) (hnodup : (defs.map Prod.fst).Nodup) :
    ofForms s forms = .ok (.table (MacroTable.empty.registerAll defs)) := by
  rw [ofForms_eq_addDefinitions hne hsingle,
    addDefinitions_eq_ok_iff.mpr ⟨defs, hdefs, fresh_empty_iff.mpr hnodup, rfl⟩]
  rfl

/-- Forms are accepted exactly when there are some and they define different names. -/
theorem exists_ofForms_iff {forms : List Form}
    (hsingle : ∀ form, forms = [form] → form.headToken? ≠ some rulesKeyword) :
    (∃ d, ofForms s forms = .ok d) ↔
      forms ≠ [] ∧ ∃ defs, Defines s forms defs ∧ (defs.map Prod.fst).Nodup := by
  constructor
  · rintro ⟨d, hd⟩
    have hne : forms ≠ [] := by
      rintro rfl
      cases hd
    rw [ofForms_eq_addDefinitions hne hsingle] at hd
    obtain ⟨macros, hmacros, -⟩ := map_eq_ok_iff.mp hd
    obtain ⟨defs, hdefs, hfresh, -⟩ := addDefinitions_eq_ok_iff.mp hmacros
    exact ⟨hne, defs, hdefs, fresh_empty_iff.mp hfresh⟩
  · rintro ⟨hne, defs, hdefs, hnodup⟩
    exact ⟨_, ofForms_of_defines hne hsingle hdefs hnodup⟩

theorem defines_perm {forms forms' : List Form} {defs : List (String × RuleSet)}
    (h : Defines s forms defs) (hperm : forms.Perm forms') :
    ∃ defs', Defines s forms' defs' ∧ defs.Perm defs' := by
  obtain ⟨defs', hdefs', hperm'⟩ := List.perm_comp_forall₂ hperm.symm h
  exact ⟨defs', hdefs', hperm'.symm⟩

/-- Reordered definitions of different names make the same table. -/
theorem ofForms_of_perm {forms forms' : List Form} {defs : List (String × RuleSet)}
    (hne : forms ≠ []) (hsingle : ∀ form, forms = [form] → form.headToken? ≠ some rulesKeyword)
    (hdefs : Defines s forms defs) (hnodup : (defs.map Prod.fst).Nodup)
    (hperm : forms.Perm forms') :
    ofForms s forms' = .ok (.table (MacroTable.empty.registerAll defs)) := by
  obtain ⟨defs', hdefs', hsame⟩ := defines_perm hdefs hperm
  have hne' : forms' ≠ [] := by
    rintro rfl
    exact hne hperm.eq_nil
  have hsingle' : ∀ form, forms' = [form] → form.headToken? ≠ some rulesKeyword := by
    rintro form rfl
    exact hsingle form (List.perm_singleton.mp hperm)
  rw [MacroTable.registerAll_perm hsame hnodup,
    ofForms_of_defines hne' hsingle' hdefs' ((hsame.map _).nodup_iff.mp hnodup)]

/-- Definitions of which two have one name are refused, wherever they stand. -/
theorem ofForms_of_not_nodup {forms : List Form} {defs : List (String × RuleSet)}
    (hsingle : ∀ form, forms = [form] → form.headToken? ≠ some rulesKeyword)
    (hdefs : Defines s forms defs) (hnodup : ¬ (defs.map Prod.fst).Nodup) :
    ∃ name, List.Duplicate name (defs.map Prod.fst) ∧
      ofForms s forms = .error (.repeatedName name) := by
  have hne : forms ≠ [] := by
    rintro rfl
    cases hdefs
    exact hnodup .nil
  obtain ⟨name, herror, ⟨hempty, -⟩ | htwice⟩ :=
    exists_repeatedName hdefs (mt fresh_empty_iff.mp hnodup)
  · exact absurd hempty Bool.false_ne_true
  · refine ⟨name, htwice, ?_⟩
    rw [ofForms_eq_addDefinitions hne hsingle, herror]
    rfl

end Definitions

open CommandLine (definitionsOfText)

theorem definitionsOfText_of_read {text : String} {forms : List Form}
    (h : Reader.read text = .ok forms) (source : String) :
    definitionsOfText s source text = (Definitions.ofForms s forms).mapError .definition := by
  rw [definitionsOfText, h]
  rfl

/-- **Texts of named definitions.** Let a text be read as forms that are not one single rule set. It
is accepted exactly when there is a form, every form is a definition and the names are different. It
then makes a table that answers a form calling a defined name exactly as the rule set of that name
does, that knows the defined names and no others, and that is the same for every text with the same
forms in another order. If every form is a definition and two names are the same, the text is refused
for a name that is defined twice. -/
theorem definitionsOfText_named {text : String} {forms : List Form}
    (hread : Reader.read text = .ok forms)
    (hsingle : ∀ form, forms = [form] → form.headToken? ≠ some rulesKeyword)
    (s : MatchSettings) (source : String) :
    ((∃ d, definitionsOfText s source text = .ok d) ↔
      forms ≠ [] ∧ ∃ defs, Defines s forms defs ∧ (defs.map Prod.fst).Nodup) ∧
    ∀ defs, Defines s forms defs →
      (forms ≠ [] → (defs.map Prod.fst).Nodup →
        ∃ macros, definitionsOfText s source text = .ok (.table macros) ∧
          macros.AnswersBy defs ∧
          ∀ source' text' forms', Reader.read text' = .ok forms' → forms.Perm forms' →
            definitionsOfText s source' text' = .ok (.table macros)) ∧
      (¬ (defs.map Prod.fst).Nodup →
        ∃ name, List.Duplicate name (defs.map Prod.fst) ∧
          definitionsOfText s source text = .error (.definition (.repeatedName name))) := by
  have htext := fun source => definitionsOfText_of_read (s := s) hread source
  refine ⟨?accepted, fun defs hdefs => ⟨?table, ?twice⟩⟩
  case accepted =>
    rw [← Definitions.exists_ofForms_iff hsingle, htext]
    exact exists_congr fun d => mapError_eq_ok_iff
  case table =>
    intro hne hnodup
    refine ⟨MacroTable.empty.registerAll defs, ?_, MacroTable.answersBy_registerAll hnodup, ?_⟩
    · rw [htext, Definitions.ofForms_of_defines hne hsingle hdefs hnodup]
      rfl
    · intro source' text' forms' hread' hperm
      rw [definitionsOfText_of_read hread',
        Definitions.ofForms_of_perm hne hsingle hdefs hnodup hperm]
      rfl
  case twice =>
    intro hnodup
    obtain ⟨name, htwice, herror⟩ := Definitions.ofForms_of_not_nodup hsingle hdefs hnodup
    refine ⟨name, htwice, ?_⟩
    rw [htext, herror]
    rfl

/-- Two definitions, the same in the other order, and one of them given again. -/
theorem definitionsOfText_named_swap :
    let s : MatchSettings := {}
    let swap : Form := .list [.atom "define-syntax", .atom "swap", .list [.atom "syntax-rules",
      .list [], .list [.list [.atom "_", .atom "a", .atom "b"], .list [.atom "b", .atom "a"]]]]
    let stop : Form := .list [.atom "define-syntax", .atom "stop", .list [.atom "syntax-rules",
      .list [.atom "=>"]]]
    let rules : RuleSet := ⟨.empty, [⟨.list [.atom "_", .atom "a", .atom "b"],
      .list [.atom "b", .atom "a"]⟩], s⟩
    let defs : List (String × RuleSet) := [("swap", rules), ("stop", ⟨.ofList ["=>"], [], s⟩)]
    let defs' : List (String × RuleSet) := defs ++ [("swap", rules)]
    let text := swap.text ++ stop.text
    let text' := text ++ swap.text
    Reader.read text = .ok [swap, stop] ∧ Defines s [swap, stop] defs ∧
      (defs.map Prod.fst).Nodup ∧ (∃ d, definitionsOfText s "file" text = .ok d) ∧
      (∃ macros, definitionsOfText s "file" text = .ok (.table macros) ∧
        definitionsOfText s "file" (stop.text ++ swap.text) = .ok (.table macros) ∧
        macros.tryRules (.list [.atom "swap", .list [], .atom "x"]) =
          rules.tryRules (.list [.atom "swap", .list [], .atom "x"]) ∧
        macros.tryRules (.list [.atom "go"]) = .error (.unknownMacro "go" ["stop", "swap"])) ∧
      Reader.read text' = .ok [swap, stop, swap] ∧ Defines s [swap, stop, swap] defs' ∧
      ¬ (defs'.map Prod.fst).Nodup ∧
      ∃ name, List.Duplicate name (defs'.map Prod.fst) ∧
        definitionsOfText s "file" text' = .error (.definition (.repeatedName name)) := by
  intro s swap stop rules defs defs' text text'
  have hread : Reader.read text = .ok [swap, stop] := by decide +kernel
  have hread' : Reader.read text' = .ok [swap, stop, swap] := by decide +kernel
  have hreordered : Reader.read (stop.text ++ swap.text) = .ok [stop, swap] := by decide +kernel
  have hswap : definitionOfForm s swap = .ok ("swap", rules) := by decide +kernel
  have hstop : definitionOfForm s stop = .ok ("stop", ⟨.ofList ["=>"], [], s⟩) := by
    decide +kernel
  have hdefs : Defines s [swap, stop] defs := .cons hswap (.cons hstop .nil)
  have hdefs' : Defines s [swap, stop, swap] defs' := .cons hswap (.cons hstop (.cons hswap .nil))
  have hnodup : (defs.map Prod.fst).Nodup := by decide
  have hnodup' : ¬ (defs'.map Prod.fst).Nodup := by decide
  obtain ⟨haccepted, hmade⟩ := definitionsOfText_named hread (by simp) s "file"
  obtain ⟨macros, htable, hanswers, hperm⟩ := (hmade defs hdefs).1 (by simp) hnodup
  have hnames : (MacroTable.empty.registerAll defs).names = ["stop", "swap"] := by decide +kernel
  have hunknown := hanswers.unknown (.list [.atom "go"]) "go" rfl (by decide)
  rw [← MacroTable.names_registerAll hnodup, hnames] at hunknown
  refine ⟨hread, hdefs, hnodup, haccepted.mpr ⟨by simp, defs, hdefs, hnodup⟩,
    ⟨macros, htable, hperm "file" _ _ hreordered (.swap _ _ _), ?_, hunknown⟩, hread', hdefs',
    hnodup', ((definitionsOfText_named hread' (by simp) s "file").2 defs' hdefs').2 hnodup'⟩
  exact hanswers.defined _ "swap" rules rfl List.mem_cons_self

end MacroByExample
