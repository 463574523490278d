/-
  JsonSchema.Proofs.Agreement — schemas that compile alike where the schemas below do.

  Two schemas of one type agree when each keyword of the type is there in both or in neither, and its two
  values differ at most in the schemas below. How those differ is left open: `below` relates them, and all
  that is asked of it is that related schemas compile to the same. Members that are no keywords of the
  type, and properties that are no objects, may be anything.

  A keyword under which schemas lie hands them on and reads nothing else of them; every other keyword
  has the same value on both sides. So each entry of a table builds the same rule.

  Statements:
  - `compileNames_agree`, `compileNode_agree`: schemas that agree compile to the same, one level further up.
-/

import JsonSchema.Proofs.Clauses
import Mathlib.Data.List.Forall2

namespace JsonSchema

open Json (Members)

namespace Json

def nestingKeywords : List String := ["properties", "items", "contains", "propertyNames", "patternProperties"]

end Json

open Json (nestingKeywords)

/-! ## Values and schemas that agree -/

/-- The values of a keyword differ at most in the schemas below it, and these as `below` has it. -/
inductive Keeps (below : Option ValueType → Json → Json → Prop) : Json → Json → String → Prop
  | same {keyword : String} {v : Json} : Keeps below v v keyword
  | properties {keyword : String} {declared declared' : Members} (here : keyword = "properties")
      (names : (declared.filter (·.2.isObject)).map (·.1) = (declared'.filter (·.2.isObject)).map (·.1))
      (schemas : List.Forall₂ (fun m m' => below none m.2 m'.2) (declared.filter (·.2.isObject))
        (declared'.filter (·.2.isObject))) :
      Keeps below (.object declared) (.object declared') keyword
  | items {keyword : String} {members members' : Members} (here : keyword = "items")
      (schema : below none (.object members) (.object members')) :
      Keeps below (.object members) (.object members') keyword
  | itemList {keyword : String} {schemas schemas' : List Json} (here : keyword = "items")
      (each : List.Forall₂ (below none) schemas schemas') : Keeps below (.array schemas) (.array schemas') keyword
  | contains {keyword : String} {v v' : Json} (here : keyword = "contains") (schema : below none v v') :
      Keeps below v v' keyword
  | propertyNames {keyword : String} {v v' : Json} (here : keyword = "propertyNames")
      (schema : below (some .string) v v') : Keeps below v v' keyword
  | patterns {keyword : String} {sources sources' : Members} (here : keyword = "patternProperties")
      (keys : sources.map (·.1) = sources'.map (·.1))
      (schemas : List.Forall₂ (fun m m' => below none m.2 m'.2) sources sources') :
      Keeps below (.object sources) (.object sources') keyword

/-- Each keyword of the type is there on both sides or on neither, and its values agree. -/
inductive Agrees (below : Option ValueType → Json → Json → Prop) : Json → Json → ValueType → Prop
  | intro {type : ValueType} {members members' : Members}
      (there : ∀ k ∈ type.keywords, (Json.member? members' k).isSome = (Json.member? members k).isSome)
      (kept : ∀ k ∈ type.keywords, ∀ v v', Json.member? members k = some v → Json.member? members' k = some v' →
        Keeps below v v' k) :
      Agrees below (.object members) (.object members') type

section

variable {below : Option ValueType → Json → Json → Prop} {type : ValueType} {members members' : Members}

theorem Keeps.eq_of_not_mem {keyword : String} {v v' : Json} (h : Keeps below v v' keyword)
    (leaf : keyword ∉ nestingKeywords) : v' = v := by
  cases h with
  | same => rfl
  | _ =>
    subst_vars
    exact absurd (by decide) leaf

theorem Agrees.either (h : Agrees below (.object members) (.object members') type) {k : String}
    (known : k ∈ type.keywords) :
    (Json.member? members k = none ∧ Json.member? members' k = none) ∨
      ∃ v v', Json.member? members k = some v ∧ Json.member? members' k = some v' ∧ Keeps below v v' k := by
  obtain ⟨there, kept⟩ := h
  have there := there k known
  cases found : Json.member? members k with
  | none =>
    rw [found] at there
    exact Or.inl ⟨rfl, Option.isNone_iff_eq_none.mp (by simpa using there)⟩
  | some v =>
    rw [found] at there
    obtain ⟨v', found'⟩ := Option.isSome_iff_exists.mp there
    exact Or.inr ⟨v, v', rfl, found', kept k known v v' found found'⟩

end

/-! ## Lists of schemas -/

theorem mapIdx_alike {α β : Type} {R : α → α → Prop} {f : Nat → α → β} {l l' : List α} (h : List.Forall₂ R l l')
    (alike : ∀ i a a', R a a' → f i a' = f i a) : l'.mapIdx f = l.mapIdx f := by
  induction h generalizing f with
  | nil => rfl
  | cons first _ ih =>
    rw [List.mapIdx_cons, List.mapIdx_cons, alike 0 _ _ first, ih fun i => alike (i + 1)]

theorem map_alike {β : Type} {R : Json → Json → Prop} {f : String × Json → β} {l l' : Members}
    (keys : l.map (·.1) = l'.map (·.1)) (h : List.Forall₂ (fun m m' => R m.2 m'.2) l l')
    (alike : ∀ key v v', R v v' → f (key, v') = f (key, v)) : l'.map f = l.map f := by
  induction h with
  | nil => rfl
  | @cons m m' _ _ first _ ih =>
    obtain ⟨key, v⟩ := m
    obtain ⟨key', v'⟩ := m'
    simp only [List.map_cons, List.cons.injEq] at keys ⊢
    obtain ⟨rfl, keys⟩ := keys
    exact ⟨alike _ _ _ first, ih keys⟩

/-! ## Keywords -/

section

variable {below : Option ValueType → Json → Json → Prop} {type : ValueType} {members members' : Members}
  (agrees : Agrees below (.object members) (.object members') type) (path : Path)

include agrees

/-- A keyword builds alike where it builds alike from values that agree. -/
theorem Agrees.build? {ρ : Type} {e : Entry ρ} (known : e.keyword ∈ type.keywords)
    (h : ∀ v v', Keeps below v v' e.keyword → e.build path members' v' = e.build path members v) :
    e.build? path members' = e.build? path members := by
  unfold Entry.build?
  rcases agrees.either known with ⟨found, found'⟩ | ⟨v, v', found, found', kept⟩
  · rw [found, found']
    rfl
  · rw [found, found']
    exact congrArg some (h v v' kept)

theorem Agrees.leaf {ρ α : Type} {keyword : String} {read : String → Path → Json → Built α} {rule : α → ρ}
    (known : keyword ∈ type.keywords) (leaf : keyword ∉ nestingKeywords) :
    (Entry.one keyword read rule).build? path members' = (Entry.one keyword read rule).build? path members :=
  agrees.build? path known fun v v' kept => by rw [kept.eq_of_not_mem leaf]; rfl

theorem Agrees.nesting {ρ α : Type} {keyword : String} {read : String → Path → Json → Built α} {rule : α → ρ}
    (known : keyword ∈ type.keywords)
    (h : ∀ v v', Keeps below v v' keyword → read keyword path v' = read keyword path v) :
    (Entry.one keyword read rule).build? path members' = (Entry.one keyword read rule).build? path members :=
  agrees.build? path known fun v v' kept => congrArg (Except.map rule) (h v v' kept)

omit agrees in
theorem rules_congr {ρ : Type} {table : List (Entry ρ)}
    (h : ∀ e ∈ table, e.build? path members' = e.build? path members) :
    Entry.rules table path members' = Entry.rules table path members := by
  unfold Entry.rules
  rw [List.filterMap_congr h]

end

section

variable {below : Option ValueType → Json → Json → Prop} {members members' : Members} (path : Path)

theorem Agrees.stringRules (agrees : Agrees below (.object members) (.object members') .string) :
    Entry.rules stringTable path members' = Entry.rules stringTable path members := by
  refine rules_congr path ?_
  simp only [stringTable, List.forall_mem_cons, List.not_mem_nil, false_imp_iff, implies_true, and_true]
  exact ⟨agrees.leaf _ (by decide) (by decide), agrees.leaf _ (by decide) (by decide),
    agrees.leaf _ (by decide) (by decide), agrees.leaf _ (by decide) (by decide)⟩

theorem Agrees.integerRules (agrees : Agrees below (.object members) (.object members') .integer) :
    Entry.rules integerTable path members' = Entry.rules integerTable path members := by
  rw [integerTable_eq]
  refine rules_congr path ?_
  simp only [List.forall_mem_cons, List.not_mem_nil, false_imp_iff, implies_true, and_true]
  exact ⟨agrees.leaf _ (by decide) (by decide), agrees.leaf _ (by decide) (by decide),
    agrees.leaf _ (by decide) (by decide), agrees.leaf _ (by decide) (by decide),
    agrees.leaf _ (by decide) (by decide)⟩

theorem Agrees.numberRules (agrees : Agrees below (.object members) (.object members') .number) :
    Entry.rules numberTable path members' = Entry.rules numberTable path members := by
  rw [numberTable_eq]
  refine rules_congr path ?_
  simp only [List.forall_mem_cons, List.not_mem_nil, false_imp_iff, implies_true, and_true]
  exact ⟨agrees.leaf _ (by decide) (by decide), agrees.leaf _ (by decide) (by decide),
    agrees.leaf _ (by decide) (by decide), agrees.leaf _ (by decide) (by decide),
    agrees.leaf _ (by decide) (by decide)⟩

/-! ### Keywords with schemas below them -/

variable {sub : Path → Json → Built Schema}
  (alike : ∀ path raw raw', below none raw raw' → sub path raw' = sub path raw)

include alike

theorem Keeps.readItems {v v' : Json} (kept : Keeps below v v' "items") :
    readItems sub "items" path v' = readItems sub "items" path v := by
  cases kept with
  | same => rfl
  | items _ schema => exact congrArg (Except.map ArrayRule.items) (alike _ _ _ schema)
  | itemList _ each =>
    refine congrArg (fun parts => (Built.all parts).map ArrayRule.itemList) (mapIdx_alike each ?_)
    exact fun i v v' related => alike _ _ _ related
  | _ => contradiction

theorem Keeps.readContains {v v' : Json} (kept : Keeps below v v' "contains") (place : Path) :
    sub place v' = sub place v := by
  cases kept with
  | same => rfl
  | contains _ schema => exact alike _ _ _ schema
  | _ => contradiction

theorem Agrees.countContained (agrees : Agrees below (.object members) (.object members') .array) {keyword : String}
    (known : keyword ∈ ValueType.array.keywords) (leaf : keyword ∉ nestingKeywords) (rule : Nat → Schema → ArrayRule) :
    (countContained sub keyword rule).build? path members' = (countContained sub keyword rule).build? path members := by
  refine agrees.build? path known fun v v' kept => ?_
  rw [kept.eq_of_not_mem leaf]
  simp only [JsonSchema.countContained, Entry.beside]
  rcases agrees.either (k := "contains") (by decide) with ⟨found, found'⟩ | ⟨w, w', found, found', kept⟩
  · rw [found, found']
  · rw [found, found']
    simp only [kept.readContains alike]

theorem Agrees.arrayRules (agrees : Agrees below (.object members) (.object members') .array) :
    Entry.rules (arrayTable sub) path members' = Entry.rules (arrayTable sub) path members := by
  refine rules_congr path ?_
  simp only [arrayTable, List.forall_mem_cons, List.not_mem_nil, false_imp_iff, implies_true, and_true]
  exact ⟨agrees.leaf _ (by decide) (by decide), agrees.leaf _ (by decide) (by decide),
    agrees.leaf _ (by decide) (by decide),
    agrees.nesting _ (by decide) fun v v' kept => kept.readItems _ alike,
    agrees.nesting _ (by decide) fun v v' kept => kept.readContains alike _,
    agrees.countContained _ alike (by decide) (by decide) _,
    agrees.countContained _ alike (by decide) (by decide) _⟩

theorem Keeps.readPatterns {v v' : Json} (kept : Keeps below v v' "patternProperties") :
    readPatterns sub "patternProperties" path v' = readPatterns sub "patternProperties" path v := by
  cases kept with
  | same => rfl
  | patterns _ keys schemas =>
    refine congrArg Built.all (map_alike keys schemas fun source v v' related => ?_)
    simp only [alike _ _ _ related]
  | _ => contradiction

theorem Agrees.readProperties (agrees : Agrees below (.object members) (.object members') .object) :
    readProperties sub path members' = readProperties sub path members := by
  rcases agrees.either (k := "properties") (by decide) with ⟨found, found'⟩ | ⟨v, v', found, found', kept⟩
  · simp only [JsonSchema.readProperties, found, found']
  · cases kept with
    | same => simp only [JsonSchema.readProperties, found, found']
    | properties _ names schemas =>
      rw [readProperties_object path found, readProperties_object path found']
      refine congrArg Built.all (map_alike names schemas fun name v v' related => ?_)
      simp only [alike _ _ _ related]
    | _ => contradiction

theorem Agrees.objectRules {names : Path → Json → Built (List StringRule)}
    (alike_names : ∀ path raw raw', below (some .string) raw raw' → names path raw' = names path raw)
    (agrees : Agrees below (.object members) (.object members') .object) :
    Entry.rules (objectTable sub names) path members' = Entry.rules (objectTable sub names) path members := by
  have readNames (v v' : Json) (kept : Keeps below v v' "propertyNames") (place : Path) :
      names place v' = names place v := by
    cases kept with
    | same => rfl
    | propertyNames _ schema => exact alike_names _ _ _ schema
    | _ => contradiction
  refine rules_congr path ?_
  simp only [objectTable, List.forall_mem_cons, List.not_mem_nil, false_imp_iff, implies_true, and_true]
  exact ⟨agrees.leaf _ (by decide) (by decide), agrees.leaf _ (by decide) (by decide),
    agrees.leaf _ (by decide) (by decide), agrees.leaf _ (by decide) (by decide),
    agrees.nesting _ (by decide) fun v v' kept => readNames v v' kept _,
    agrees.nesting _ (by decide) fun v v' kept => kept.readPatterns _ alike⟩

end

/-! ## Schemas -/

section

variable {below : Option ValueType → Json → Json → Prop} {members members' : Members} {type : ValueType}
  (limit levels : Nat) (path : Path) (same : Json.member? members' "type" = Json.member? members "type")

include same

/-- Where the type is wrong, nothing else is read. -/
theorem compileNode_wrong {cause : Defect.Cause}
    (wrong : resolveType none (Json.member? members "type") = .error cause) :
    compileNode limit levels path (.object members') = compileNode limit levels path (.object members) := by
  cases levels with
  | zero => rfl
  | succ levels => simp only [compileNode, openNode, same, wrong, Built.defect]

theorem compileNames_wrong {cause : Defect.Cause}
    (wrong : resolveType (some .string) (Json.member? members "type") = .error cause) :
    compileNames limit levels path (.object members') = compileNames limit levels path (.object members) := by
  cases levels with
  | zero => rfl
  | succ levels => simp only [compileNames, openNode, same, wrong, Built.defect]

theorem compileNames_agree (clear : resolveType (some .string) (Json.member? members "type") = .ok type)
    (agrees : Agrees below (.object members) (.object members') .string) :
    compileNames limit levels path (.object members') = compileNames limit levels path (.object members) := by
  cases levels with
  | zero => rfl
  | succ levels =>
    simp only [compileNames, openNode, same, clear]
    exact agrees.stringRules path

theorem compileNode_agree
    (alike : ∀ path raw raw', below none raw raw' →
      compileNode limit levels path raw' = compileNode limit levels path raw)
    (alike_names : ∀ path raw raw', below (some .string) raw raw' →
      compileNames limit levels path raw' = compileNames limit levels path raw)
    (clear : resolveType none (Json.member? members "type") = .ok type)
    (agrees : Agrees below (.object members) (.object members') type) :
    compileNode limit (levels + 1) path (.object members') = compileNode limit (levels + 1) path (.object members) := by
  simp only [compileNode, openNode, same, clear]
  cases type with
  | string => exact congrArg (Except.map Schema.string) (agrees.stringRules path)
  | integer => exact congrArg (Except.map Schema.integer) (agrees.integerRules path)
  | number => exact congrArg (Except.map Schema.number) (agrees.numberRules path)
  | boolean => rfl
  | null => rfl
  | array => exact congrArg (Except.map Schema.array) (agrees.arrayRules path alike)
  | object =>
    simp only [agrees.readProperties path alike, agrees.objectRules path alike alike_names]

end

end JsonSchema
