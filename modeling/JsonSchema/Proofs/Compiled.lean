/-
  JsonSchema.Proofs.Compiled — where the rules of a compiled schema come from.

  A schema that was compiled has one rule for each keyword of its table that is there, built from
  the value of that keyword; lists of schemas are built one by one.

  Statements:
  - `rules_built_iff`, `rules_forall`: rules are built just when each keyword builds one, and what holds of
    all rules holds of what each keyword builds.
  - `readProperties_eq_ok`, `readItems_eq_ok`, `readPatterns_eq_ok`: the schemas of a keyword are
    those built from the schemas of its value.
  - `compileWithin_sorted`: properties and patterns stand in ascending order in a compiled schema, at
    any depth.
-/

import JsonSchema.Proofs.Parts

namespace JsonSchema

open Json (Members)

/-! ## Rules -/

section

variable {ρ : Type} {table : List (Entry ρ)} {path : Path} {members : Members} {rules : List ρ}

/-- The rules are those that the keywords build. -/
theorem mem_rules (h : Entry.rules table path members = .ok rules) {r : ρ} :
    r ∈ rules ↔ ∃ e ∈ table, ∃ v, Json.member? members e.keyword = some v ∧ e.build path members v = .ok r := by
  rw [Built.mem_of_all h]
  simp only [List.mem_filterMap, Entry.build?, Option.map_eq_some_iff]

/-- Each keyword that is there builds a rule. -/
theorem rules_built (h : Entry.rules table path members = .ok rules) {e : Entry ρ} (he : e ∈ table) {v : Json}
    (hv : Json.member? members e.keyword = some v) : ∃ r, e.build path members v = .ok r := by
  refine Built.ok_of_all h (List.mem_filterMap.mpr ⟨e, he, ?_⟩)
  rw [Entry.build?, hv]
  rfl

/-- The rules are built just when each keyword that is there builds one. -/
theorem rules_built_iff : (∃ rules, Entry.rules table path members = .ok rules) ↔
    ∀ e ∈ table, ∀ v, Json.member? members e.keyword = some v → ∃ r, e.build path members v = .ok r := by
  constructor
  · rintro ⟨rules, h⟩ e he v hv
    exact rules_built h he hv
  · intro each
    rw [← Built.defects_eq_nil, Entry.rules, Built.defects_all, List.flatMap_eq_nil_iff]
    intro b hb
    obtain ⟨e, he, there⟩ := List.mem_filterMap.mp hb
    obtain ⟨v, hv, rfl⟩ := Option.map_eq_some_iff.mp there
    exact Built.defects_eq_nil.mpr (each e he v hv)

/-- All rules have a property just when each keyword that is there builds one that has it. -/
theorem rules_forall (h : Entry.rules table path members = .ok rules) (P : ρ → Prop) :
    (∀ r ∈ rules, P r) ↔
      ∀ e ∈ table, ∀ v, Json.member? members e.keyword = some v → ∃ r, e.build path members v = .ok r ∧ P r := by
  constructor
  · intro all e he v hv
    obtain ⟨r, hr⟩ := rules_built h he hv
    exact ⟨r, hr, all r ((mem_rules h).mpr ⟨e, he, v, hv, hr⟩)⟩
  · intro each r hr
    obtain ⟨e, he, v, hv, hb⟩ := (mem_rules h).mp hr
    obtain ⟨r', hb', hp⟩ := each e he v hv
    obtain rfl := Except.ok.inj (hb.symm.trans hb')
    exact hp

end

/-! ## Schemas of a keyword -/

section

variable {sub : Path → Json → Built Schema} {path : Path} {members : Members}

theorem pattern_source {source : String} {p : Pattern} (h : Pattern.compile source = .ok p) : p.source = source := by
  simp only [Pattern.compile, bind, Except.bind, pure, Except.pure] at h
  split at h
  · cases h
  · split at h
    · cases h
    · obtain rfl := Except.ok.inj h
      rfl

theorem compilePattern_eq_ok {keyword source : String} {p : Pattern} :
    compilePattern keyword path source = .ok p ↔ Pattern.compile source = .ok p := by
  unfold compilePattern
  cases Pattern.compile source <;> simp

/-- The schema of each property that is an object. -/
theorem readProperties_eq_ok {properties : List (String × Schema)}
    (h : readProperties sub path members = .ok properties) (name : String) (s : Schema) :
    (name, s) ∈ properties ↔ ∃ declared raw, Json.member? members "properties" = some (.object declared) ∧
      (name, raw) ∈ declared ∧ raw.isObject ∧ sub ((path.key "properties").key name) raw = .ok s := by
  cases found : Json.member? members "properties" with
  | none =>
    rw [readProperties, found] at h
    obtain rfl := Except.ok.inj h
    simp
  | some v =>
    cases v with
    | object declared =>
      rw [readProperties_object path found] at h
      rw [Built.mem_of_all h, List.mem_map]
      constructor
      · rintro ⟨⟨name', raw⟩, kept, hr⟩
        obtain ⟨hm, object⟩ := List.mem_filter.mp kept
        obtain ⟨s', hs, e⟩ := Built.map_eq_ok.mp hr
        obtain ⟨rfl, rfl⟩ := Prod.mk.inj e
        exact ⟨declared, raw, rfl, hm, object, hs⟩
      · rintro ⟨declared', raw, e, hm, object, hs⟩
        obtain rfl := Json.object.inj (Option.some.inj e)
        exact ⟨(name, raw), List.mem_filter.mpr ⟨hm, object⟩, by rw [hs]; rfl⟩
    | _ =>
      rw [readProperties, found] at h
      exact absurd h (Built.defect_ne_ok _ _ _)

/-- Each property that is an object has a schema. -/
theorem readProperties_built {properties : List (String × Schema)}
    (h : readProperties sub path members = .ok properties) {declared : Members}
    (found : Json.member? members "properties" = some (.object declared)) {name : String} {raw : Json}
    (hm : (name, raw) ∈ declared) (object : raw.isObject) :
    ∃ s, sub ((path.key "properties").key name) raw = .ok s := by
  rw [readProperties_object path found] at h
  obtain ⟨p, hp⟩ := Built.ok_of_all h (List.mem_map_of_mem (List.mem_filter.mpr ⟨hm, object⟩))
  obtain ⟨s, hs, -⟩ := Built.map_eq_ok.mp hp
  exact ⟨s, hs⟩

/-- Properties stand in the order of the document. -/
theorem pairwise_readProperties {properties : List (String × Schema)} (h : (Json.object members).WellFormed)
    (hp : readProperties sub path members = .ok properties) : properties.Pairwise fun a b => a.1 < b.1 := by
  cases found : Json.member? members "properties" with
  | none =>
    rw [readProperties, found] at hp
    obtain rfl := Except.ok.inj hp
    exact .nil
  | some v =>
    cases v with
    | object declared =>
      rw [readProperties_object path found] at hp
      have ascending := (h.member (mem_of_member? found)).pairwise.filter (·.2.isObject)
      refine Built.pairwise_of_all hp (List.pairwise_map.mpr (ascending.imp fun lt p q hp hq => ?_))
      obtain ⟨s, -, rfl⟩ := Built.map_eq_ok.mp hp
      obtain ⟨s', -, rfl⟩ := Built.map_eq_ok.mp hq
      exact lt
    | _ =>
      rw [readProperties, found] at hp
      exact absurd hp (Built.defect_ne_ok _ _ _)

/-- One schema for all items, or one schema for each of the first items. -/
theorem readItems_eq_ok {keyword : String} {v : Json} {r : ArrayRule} (h : readItems sub keyword path v = .ok r) :
    (v.isObject ∧ ∃ s, sub (path.key keyword) v = .ok s ∧ r = .items s) ∨
      ∃ list schemas, v = .array list ∧ r = .itemList schemas ∧ schemas.length = list.length ∧
        ∀ (i : Nat) (s : Schema), schemas[i]? = some s ↔
          ∃ raw, list[i]? = some raw ∧ sub ((path.key keyword).index i) raw = .ok s := by
  cases v with
  | object ms =>
    obtain ⟨s, hs, rfl⟩ := Built.map_eq_ok.mp h
    exact Or.inl ⟨rfl, s, hs, rfl⟩
  | array list =>
    obtain ⟨schemas, hs, rfl⟩ := Built.map_eq_ok.mp h
    have size := congrArg List.length (Built.all_eq_ok.mp hs)
    rw [List.length_mapIdx, List.length_map] at size
    refine Or.inr ⟨list, schemas, rfl, rfl, size.symm, fun i s => ?_⟩
    have same := congrArg (·[i]?) (Built.all_eq_ok.mp hs)
    simp only [List.getElem?_mapIdx, List.getElem?_map] at same
    have iff : schemas[i]? = some s ↔ (schemas[i]?).map (Except.ok (ε := Defects)) = some (.ok s) := by
      simp
    rw [iff, ← same, Option.map_eq_some_iff]
  | _ => exact absurd h (Built.defect_ne_ok _ _ _)

/-- The schema of each pattern. -/
theorem readPatterns_eq_ok {keyword : String} {v : Json} {patterns : List (Pattern × Schema)}
    (h : readPatterns sub keyword path v = .ok patterns) : ∃ sources, v = .object sources ∧
      (∀ source raw, (source, raw) ∈ sources → ∃ s, sub ((path.key keyword).key source) raw = .ok s) ∧
      ∀ p s, (p, s) ∈ patterns ↔ ∃ source raw, (source, raw) ∈ sources ∧ Pattern.compile source = .ok p ∧
        sub ((path.key keyword).key source) raw = .ok s := by
  cases v with
  | object sources =>
    refine ⟨sources, rfl, fun source raw hm => ?_, fun p s => ?_⟩
    · obtain ⟨m, hb⟩ := Built.ok_of_all h (List.mem_map.mpr ⟨(source, raw), hm, rfl⟩)
      exact ⟨m.2, (Built.both_eq_ok.mp hb).2⟩
    rw [Built.mem_of_all h, List.mem_map]
    constructor
    · rintro ⟨⟨source, raw⟩, hm, hb⟩
      obtain ⟨hp, hs⟩ := Built.both_eq_ok.mp hb
      exact ⟨source, raw, hm, compilePattern_eq_ok.mp hp, hs⟩
    · rintro ⟨source, raw, hm, hp, hs⟩
      exact ⟨(source, raw), hm, Built.both_eq_ok.mpr ⟨compilePattern_eq_ok.mpr hp, hs⟩⟩
  | _ => exact absurd h (Built.defect_ne_ok _ _ _)

/-- Patterns stand in the order of the document. -/
theorem pairwise_readPatterns {keyword : String} {v : Json} {patterns : List (Pattern × Schema)} (h : v.WellFormed)
    (hp : readPatterns sub keyword path v = .ok patterns) :
    patterns.Pairwise fun a b => a.1.source < b.1.source := by
  cases v with
  | object sources =>
    refine Built.pairwise_of_all hp (List.pairwise_map.mpr (h.pairwise.imp fun lt p q hp hq => ?_))
    rw [pattern_source (compilePattern_eq_ok.mp (Built.both_eq_ok.mp hp).1),
      pattern_source (compilePattern_eq_ok.mp (Built.both_eq_ok.mp hq).1)]
    exact lt
  | _ => exact absurd hp (Built.defect_ne_ok _ _ _)

end

/-! ## The order of properties and patterns -/

def ArrayRule.schemas : ArrayRule → List Schema
  | .items s => [s]
  | .itemList schemas => schemas
  | .contains s => [s]
  | .minContains _ s => [s]
  | .maxContains _ s => [s]
  | _ => []

/-- Properties stand in ascending order of their names and patterns in that of their texts, here and
    in all schemas below. -/
inductive Schema.Sorted : Schema → Prop
  | string (rules : List StringRule) : Sorted (.string rules)
  | integer (rules : List IntegerRule) : Sorted (.integer rules)
  | number (rules : List NumberRule) : Sorted (.number rules)
  | boolean : Sorted .boolean
  | null : Sorted .null
  | array {rules : List ArrayRule} (below : ∀ r ∈ rules, ∀ s ∈ r.schemas, Sorted s) : Sorted (.array rules)
  | object {properties : List (String × Schema)} {rules : List ObjectRule}
      (names : properties.Pairwise fun a b => a.1 < b.1) (below : ∀ p ∈ properties, Sorted p.2)
      (sources : ∀ patterns, .patternProperties patterns ∈ rules →
        patterns.Pairwise fun a b => a.1.source < b.1.source)
      (matched : ∀ patterns, .patternProperties patterns ∈ rules → ∀ p ∈ patterns, Sorted p.2) :
      Sorted (.object properties rules)

section

variable {sub : Path → Json → Built Schema} {path : Path} {members : Members}
  (h : (Json.object members).WellFormed) (below : ∀ path raw s, raw.WellFormed → sub path raw = .ok s → s.Sorted)

include h below

theorem sorted_arrayRule {rules : List ArrayRule} (hr : Entry.rules (arrayTable sub) path members = .ok rules)
    {r : ArrayRule} (mem : r ∈ rules) {s : Schema} (hs : s ∈ r.schemas) : s.Sorted := by
  obtain ⟨e, he, v, hv, hb⟩ := (mem_rules hr).mp mem
  have wellFormed : v.WellFormed := h.member (mem_of_member? hv)
  have counted {keyword : String} {rule : Nat → Schema → ArrayRule} (schemas : ∀ n s, (rule n s).schemas = [s])
      (hb : (countContained sub keyword rule).build path members v = .ok r) : s.Sorted := by
    simp only [countContained, Entry.beside] at hb
    cases found : Json.member? members "contains" with
    | none => simp [found] at hb
    | some contained =>
      simp only [found] at hb
      obtain ⟨⟨n, s'⟩, hc, rfl⟩ := Built.map_eq_ok.mp hb
      rw [schemas, List.mem_singleton] at hs
      obtain rfl := hs
      exact below _ _ _ (h.member (mem_of_member? found)) (Built.both_eq_ok.mp hc).2
  simp only [arrayTable, List.mem_cons, List.not_mem_nil, or_false] at he
  rcases he with rfl | rfl | rfl | rfl | rfl | rfl | rfl
  · obtain ⟨n, -, rfl⟩ := Built.map_eq_ok.mp hb
    cases hs
  · obtain ⟨n, -, rfl⟩ := Built.map_eq_ok.mp hb
    cases hs
  · obtain ⟨on, -, rfl⟩ := Built.map_eq_ok.mp hb
    cases hs
  · obtain ⟨r, hi, rfl⟩ := Built.map_eq_ok.mp hb
    rcases readItems_eq_ok hi with ⟨-, s', hs', rfl⟩ | ⟨list, schemas, rfl, rfl, -, each⟩
    · obtain rfl := List.mem_singleton.mp hs
      exact below _ _ _ wellFormed hs'
    · obtain ⟨i, hi⟩ := List.mem_iff_getElem?.mp hs
      obtain ⟨raw, hr, hs'⟩ := (each i s).mp hi
      exact below _ _ _ (wellFormed.item (List.mem_of_getElem? hr)) hs'
  · obtain ⟨s', hs', rfl⟩ := Built.map_eq_ok.mp hb
    obtain rfl := List.mem_singleton.mp hs
    exact below _ _ _ wellFormed hs'
  · exact counted (fun _ _ => rfl) hb
  · exact counted (fun _ _ => rfl) hb

theorem sorted_patterns {names : Path → Json → Built (List StringRule)} {rules : List ObjectRule}
    (hr : Entry.rules (objectTable sub names) path members = .ok rules) {patterns : List (Pattern × Schema)}
    (mem : .patternProperties patterns ∈ rules) :
    (patterns.Pairwise fun a b => a.1.source < b.1.source) ∧ ∀ p ∈ patterns, p.2.Sorted := by
  obtain ⟨e, he, v, hv, hb⟩ := (mem_rules hr).mp mem
  have wellFormed : v.WellFormed := h.member (mem_of_member? hv)
  simp only [objectTable, List.mem_cons, List.not_mem_nil, or_false] at he
  rcases he with rfl | rfl | rfl | rfl | rfl | rfl
  iterate 5 obtain ⟨_, -, e⟩ := Built.map_eq_ok.mp hb; cases e
  obtain ⟨patterns', hp, e⟩ := Built.map_eq_ok.mp hb
  obtain rfl := ObjectRule.patternProperties.inj e
  refine ⟨pairwise_readPatterns wellFormed hp, fun p mem => ?_⟩
  obtain ⟨sources, rfl, -, each⟩ := readPatterns_eq_ok hp
  obtain ⟨source, raw, hm, -, hs⟩ := (each p.1 p.2).mp mem
  exact below _ _ _ (wellFormed.member hm) hs

end

theorem compileNode_sorted {limit levels : Nat} {path : Path} {raw : Json} {s : Schema} (h : raw.WellFormed)
    (hs : compileNode limit levels path raw = .ok s) : s.Sorted := by
  induction levels generalizing path raw s with
  | zero => exact absurd hs (Built.defect_ne_ok _ _ _)
  | succ levels ih =>
    have below (path : Path) (raw : Json) (s : Schema) (h : raw.WellFormed)
        (hs : compileNode limit levels path raw = .ok s) : s.Sorted := ih h hs
    cases raw with
    | object members =>
      simp only [compileNode, openNode] at hs
      cases clear : resolveType none (Json.member? members "type") with
      | error cause => simp [clear, Built.defect] at hs
      | ok type =>
        simp only [clear] at hs
        cases type with
        | string =>
          obtain ⟨rules, -, rfl⟩ := Built.map_eq_ok.mp hs
          exact .string rules
        | integer =>
          obtain ⟨rules, -, rfl⟩ := Built.map_eq_ok.mp hs
          exact .integer rules
        | number =>
          obtain ⟨rules, -, rfl⟩ := Built.map_eq_ok.mp hs
          exact .number rules
        | boolean =>
          obtain rfl := Except.ok.inj hs
          exact .boolean
        | null =>
          obtain rfl := Except.ok.inj hs
          exact .null
        | array =>
          obtain ⟨rules, hr, rfl⟩ := Built.map_eq_ok.mp hs
          exact .array fun r mem s hs => sorted_arrayRule h below hr mem hs
        | object =>
          obtain ⟨⟨properties, rules⟩, hb, rfl⟩ := Built.map_eq_ok.mp hs
          obtain ⟨hp, hr⟩ := Built.both_eq_ok.mp hb
          refine .object (pairwise_readProperties h hp) (fun p mem => ?_)
            (fun patterns mem => (sorted_patterns h below hr mem).1)
            (fun patterns mem => (sorted_patterns h below hr mem).2)
          obtain ⟨declared, raw, found, hm, -, hs⟩ := (readProperties_eq_ok hp p.1 p.2).mp mem
          exact below _ _ _ ((h.member (mem_of_member? found)).member hm) hs
    | _ => simp [compileNode, openNode, Built.defect] at hs

theorem compileWithin_eq_ok {depth : Nat} {raw : Json} {s : Schema} :
    Schema.compileWithin depth raw = .ok s ↔ compileNode depth (depth + 1) [] raw = .ok s := by
  unfold Schema.compileWithin
  cases compileNode depth (depth + 1) [] raw with
  | ok t => exact Iff.rfl
  | error e =>
    constructor
    · intro h
      cases h
    · intro h
      cases h

/-- A compiled schema keeps the order of the document throughout. -/
theorem compileWithin_sorted {depth : Nat} {raw : Json} {s : Schema} (h : raw.WellFormed)
    (hs : Schema.compileWithin depth raw = .ok s) : s.Sorted :=
  compileNode_sorted h (compileWithin_eq_ok.mp hs)

end JsonSchema
