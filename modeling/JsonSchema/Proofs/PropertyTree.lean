/-
  JsonSchema.Proofs.PropertyTree — the properties that a schema shows are those it checks by.

  An object schema shows its properties by name, each a schema of its own, with properties of its own
  where it is an object schema again. They are what the entries of `properties` compile to by
  themselves, and they are checked before all other keywords: what one of them makes of the value of
  its key is what the whole schema answers, one key further up.

  Statements:
  - `property?_eq_some`: which properties there are, and what each of them is.
  - `rules_keywords`: the keywords of the rules of a table.
  - `validate_property`: the first property that fails is the answer.
  - `property_tree`: all of this for a compiled schema.
-/

import JsonSchema.Proofs.Keywords
import JsonSchema.Proofs.Refines
import JsonSchema.Proofs.Relocated
import JsonSchema.Proofs.Violations

namespace JsonSchema

open Json (Members)

def objectKeywords : List String :=
  ["required", "dependentRequired", "minProperties", "maxProperties", "propertyNames", "patternProperties"]

/-- The value of a key of the target fails for the property of that name. -/
def Schema.PropertyFails (s : Schema) (target : Members) (name : String) (e : Violation) : Prop :=
  ∃ p v, s.property? name = some p ∧ Json.member? target name = some v ∧ p.validate v = .error e

/-! ## What the properties are -/

section

variable {depth : Nat} {members : Members} {s : Schema}

/-- An object schema is compiled from its properties and its table. -/
theorem compileWithin_object (object : declaredType members = some .object)
    (h : Schema.compileWithin depth (.object members) = .ok s) :
    ∃ properties rules, s = .object properties rules ∧
      readProperties (compileNode depth depth) [] members = .ok properties ∧
      Entry.rules (objectTable (compileNode depth depth) (compileNames depth depth)) [] members = .ok rules := by
  have compiled := compileWithin_eq_ok.mp h
  simp only [compileNode, openNode, clear_of_declaredType object] at compiled
  obtain ⟨⟨properties, rules⟩, built, rfl⟩ := Built.map_eq_ok.mp compiled
  obtain ⟨hp, hr⟩ := Built.both_eq_ok.mp built
  exact ⟨properties, rules, rfl, hp, hr⟩

/-- What compiles as a part compiles to the same by itself. -/
theorem compileWithin_of_part {path : Path} {raw : Json} (h : compileNode depth depth path raw = .ok s) :
    Schema.compileWithin depth raw = .ok s :=
  compileWithin_eq_ok.mpr (compileNode_elsewhere [] (compileNode_mono (Nat.le_succ depth) path raw s h))

/-- There is a property for each entry that is an object, and it is what that entry compiles to. -/
theorem property?_eq_some (wellFormed : (Json.object members).WellFormed) {properties : List (String × Schema)}
    {rules : List ObjectRule} (h : readProperties (compileNode depth depth) [] members = .ok properties) {name : String}
    {p : Schema} : (Schema.object properties rules).property? name = some p ↔
      ∃ declared inner, Json.member? members "properties" = some (.object declared) ∧
        Json.member? declared name = some (.object inner) ∧ Schema.compileWithin depth (.object inner) = .ok p := by
  have ascending := pairwise_readProperties wellFormed h
  have found : (Schema.object properties rules).property? name = some p ↔ (name, p) ∈ properties :=
    ⟨mem_of_lookup, lookup_of_mem ascending⟩
  rw [found, readProperties_eq_ok h]
  constructor
  · rintro ⟨declared, raw, there, mem, object, built⟩
    cases raw with
    | object inner =>
      have entry := member?_of_mem (wellFormed.member (mem_of_member? there)) mem
      exact ⟨declared, inner, there, entry, compileWithin_of_part built⟩
    | _ => cases object
  · rintro ⟨declared, inner, there, entry, compiled⟩
    have mem := mem_of_member? entry
    obtain ⟨own, built⟩ := readProperties_built h there mem rfl
    obtain rfl := Except.ok.inj ((compileWithin_of_part built).symm.trans compiled)
    exact ⟨declared, .object inner, there, mem, rfl, built⟩

end

/-! ## Keywords -/

/-- The keywords of the rules of a table are those that are there, in its order. -/
theorem rules_keywords {ρ : Type} {keyword : ρ → String} {table : List (Entry ρ)} {path : Path} {members : Members}
    (named : ∀ e ∈ table, ∀ v r, e.build path members v = .ok r → keyword r = e.keyword) {rules : List ρ}
    (h : Entry.rules table path members = .ok rules) :
    rules.map keyword = (table.map (·.keyword)).filter fun k => (Json.member? members k).isSome := by
  unfold Entry.rules at h
  induction table generalizing rules with
  | nil =>
    obtain rfl := Except.ok.inj h
    rfl
  | cons e rest ih =>
    obtain ⟨first, others⟩ := List.forall_mem_cons.mp named
    rw [List.map_cons]
    cases there : Json.member? members e.keyword with
    | none =>
      rw [List.filterMap_cons_none (by rw [Entry.build?, there]; rfl)] at h
      rw [ih others h, List.filter_cons_of_neg (by simp [there])]
    | some v =>
      rw [List.filterMap_cons_some (b := e.build path members v) (by rw [Entry.build?, there]; rfl), Built.all] at h
      obtain ⟨⟨r, more⟩, built, rfl⟩ := Built.map_eq_ok.mp h
      obtain ⟨hr, hm⟩ := Built.both_eq_ok.mp built
      rw [List.map_cons, ih others hm, first v r hr, List.filter_cons_of_pos (by simp [there])]

theorem objectRules_keywords {sub : Path → Json → Built Schema} {names : Path → Json → Built (List StringRule)}
    {path : Path} {members : Members} {rules : List ObjectRule}
    (h : Entry.rules (objectTable sub names) path members = .ok rules) :
    rules.map (·.keyword) = objectKeywords.filter fun k => (Json.member? members k).isSome := by
  have named : ∀ e ∈ objectTable sub names, ∀ v r, e.build path members v = .ok r → r.keyword = e.keyword := by
    simp only [objectTable, List.forall_mem_cons, List.not_mem_nil, false_imp_iff, implies_true, and_true]
    refine ⟨?_, ?_, ?_, ?_, ?_, ?_⟩ <;>
    · intro v r built
      obtain ⟨_, -, rfl⟩ := Built.map_eq_ok.mp built
      rfl
  exact rules_keywords named h

/-! ## What the properties are for -/

section

variable {properties : List (String × Schema)} {rules : List ObjectRule} {target : Members}

/-- What a property makes of the value of its key, where the key is there. -/
def propertyVerdict (target : Members) (path : Path) (p : String × Schema) : Verdict :=
  match Json.member? target p.1 with
  | some v => p.2.check v (path.key p.1)
  | none => .pass

theorem checkProperties_eq_all (path : Path) :
    checkProperties properties target path = .all (properties.map (propertyVerdict target path)) := by
  induction properties with
  | nil => rfl
  | cons p rest ih =>
    rw [checkProperties, ih]
    rfl

theorem propertyVerdict_root {name : String} {p : Schema} {v : Json} (there : Json.member? target name = some v) :
    propertyVerdict target [] (name, p) = (p.validate v).under [.key name] := by
  have moved := check_under p v [.key name] []
  rw [List.append_nil] at moved
  simp only [propertyVerdict, there]
  exact moved

/-- A violation names its keyword. -/
theorem keyword_of_check_error {s : Schema} {v : Json} {path : Path} {e : Violation}
    (h : s.check v path = .error e) : e.keyword.isSome := by
  rw [check_eq_first, Verdict.first_eq_error] at h
  exact named_violations s v path e (List.mem_of_head? h)

/-- Where a property fails, the one with the least name is the answer, with the path from its key on. -/
theorem validate_property (ascending : properties.Pairwise fun a b => a.1 < b.1)
    (fails : ∃ name e, (Schema.object properties rules).PropertyFails target name e) :
    ∃ name e, (Schema.object properties rules).PropertyFails target name e ∧
      (∀ other e', (Schema.object properties rules).PropertyFails target other e' → name ≤ other) ∧
      (Schema.object properties rules).validate (.object target) =
        .error { e with path := .key name :: e.path } := by
  have verdict {name : String} {e : Violation} (h : (Schema.object properties rules).PropertyFails target name e) :
      ∃ p, (name, p) ∈ properties ∧ propertyVerdict target [] (name, p) = .error (e.under [.key name]) := by
    obtain ⟨p, v, found, there, failed⟩ := h
    refine ⟨p, mem_of_lookup found, ?_⟩
    rw [propertyVerdict_root there, failed]
    rfl
  have all := @checkProperties_eq_all properties target []
  cases outcome : checkProperties properties target [] with
  | ok _ =>
    obtain ⟨name, e, h⟩ := fails
    obtain ⟨p, mem, failed⟩ := verdict h
    have passed := Verdict.all_eq_pass.mp (all.symm.trans outcome) _ (List.mem_map_of_mem mem)
    rw [failed] at passed
    cases passed
  | error d =>
    obtain ⟨before, ⟨name, p⟩, after, split, passed, failed⟩ := Verdict.all_eq_error (all.symm.trans outcome)
    obtain ⟨v, there⟩ : ∃ v, Json.member? target name = some v := by
      cases there : Json.member? target name with
      | some v => exact ⟨v, rfl⟩
      | none => simp [propertyVerdict, there, Verdict.pass] at failed
    rw [propertyVerdict_root there] at failed
    cases broken : p.validate v with
    | ok _ =>
      rw [broken] at failed
      cases failed
    | error e =>
      rw [broken] at failed
      obtain rfl := Except.error.inj failed
      refine ⟨name, e, ⟨p, v, lookup_of_mem ascending (by simp [split]), there, broken⟩, ?_, ?_⟩
      · -- what stands before the first that fails passes, and what stands after has a greater name
        intro other e' h
        obtain ⟨q, mem, late⟩ := verdict h
        rw [split] at mem ascending
        rcases List.mem_append.mp mem with mem | mem
        · rw [passed _ mem] at late
          cases late
        · rcases List.mem_cons.mp mem with same | mem
          · obtain ⟨rfl, -⟩ := Prod.mk.inj same
            exact String.le_refl _
          · have greater := (List.pairwise_cons.mp (List.pairwise_append.mp ascending).2.1).1 _ mem
            exact String.not_lt.mp fun less => String.lt_irrefl _ (String.lt_trans less greater)
      · obtain ⟨keyword, named⟩ := Option.isSome_iff_exists.mp (keyword_of_check_error broken)
        have answer : (Schema.object properties rules).check (.object target) [] =
            ((checkProperties properties target []).labelled "properties").and (checkObjectRules rules target []) := rfl
        rw [Schema.validate, Schema.validateAt, answer, outcome]
        show Verdict.and (.error ((e.under [.key name]).labelled "properties")) _ = _
        simp [Verdict.and, Violation.labelled, Violation.under, named]

end

/-! ## Compiled schemas -/

/-- The properties that a compiled object schema shows are the entries of `properties` that are objects,
    each as it compiles by itself; `properties` is the first of its keywords where there are any, before
    those of the table; and the least property that fails is what the schema answers, one key further
    up, whatever else it asks for. -/
theorem property_tree (depth : Nat) {members : Members} {s : Schema} (wellFormed : (Json.object members).WellFormed)
    (object : declaredType members = some .object) (h : Schema.compileWithin depth (.object members) = .ok s) :
    (∀ name, (s.property? name).isSome ↔
      ∃ declared inner, Json.member? members "properties" = some (.object declared) ∧
        Json.member? declared name = some (.object inner)) ∧
    (∀ name p, s.property? name = some p →
      ∃ declared raw, Json.member? members "properties" = some (.object declared) ∧
        Json.member? declared name = some raw ∧ Schema.compileWithin depth raw = .ok p) ∧
    (∃ properties, s.properties? = some properties ∧
      s.keywords = (if properties = [] then [] else ["properties"]) ++
        objectKeywords.filter fun k => (Json.member? members k).isSome) ∧
    ∀ target, (∃ name e, s.PropertyFails target name e) →
      ∃ name e, s.PropertyFails target name e ∧ (∀ other e', s.PropertyFails target other e' → name ≤ other) ∧
        s.validate (.object target) = .error { e with path := .key name :: e.path } := by
  obtain ⟨properties, rules, rfl, hp, hr⟩ := compileWithin_object object h
  have what (name : String) (p : Schema) : (Schema.object properties rules).property? name = some p ↔
      ∃ declared inner, Json.member? members "properties" = some (.object declared) ∧
        Json.member? declared name = some (.object inner) ∧ Schema.compileWithin depth (.object inner) = .ok p :=
    property?_eq_some wellFormed hp
  refine ⟨fun name => ⟨fun some => ?_, ?_⟩, fun name p found => ?_, ⟨properties, rfl, ?_⟩, fun target => ?_⟩
  · obtain ⟨p, found⟩ := Option.isSome_iff_exists.mp some
    obtain ⟨declared, inner, there, entry, -⟩ := (what name p).mp found
    exact ⟨declared, inner, there, entry⟩
  · rintro ⟨declared, inner, there, entry⟩
    obtain ⟨p, built⟩ := readProperties_built hp there (mem_of_member? entry) rfl
    refine Option.isSome_iff_exists.mpr ⟨p, (what name p).mpr ⟨declared, inner, there, entry, ?_⟩⟩
    exact compileWithin_of_part built
  · obtain ⟨declared, inner, there, entry, compiled⟩ := (what name p).mp found
    exact ⟨declared, _, there, entry, compiled⟩
  · simp only [Schema.keywords, objectRules_keywords hr, List.isEmpty_iff]
  · exact validate_property (pairwise_readProperties wellFormed hp)

def person : Members :=
  [("properties", .object [("age", .object [("type", .string "integer")]), ("name", .bool true),
      ("tags", .object [("items", .object [("type", .string "string")]), ("type", .string "array")])]),
    ("required", .array [.string "id"]), ("type", .string "object")]

/-- A tag that is no text and an age that is not whole, without an id. -/
def nobody : Members :=
  [("age", .bool true), ("tags", .array [.string "a", .null])]

/-- The age is named before the tags, and the missing id not at all. -/
theorem property_tree_person :
    (Json.object person).WellFormed ∧ declaredType person = some .object ∧
      ∃ s, Schema.compileWithin 2 (.object person) = .ok s ∧ s.keywords = ["properties", "required"] ∧
        s.property? "name" = none ∧
        s.validate (.object nobody) = .error ⟨[.key "age"], some "type", "integer", "boolean"⟩ ∧
        ∃ e, s.PropertyFails nobody "age" e ∧ ∀ other e', s.PropertyFails nobody other e' → "age" ≤ other := by
  have wellFormed : (Json.object person).WellFormed := by
    simp only [person, Json.WellFormed, Json.WellFormedMembers, Json.WellFormedItems, Json.Ordered, and_true]
    decide
  have object : declaredType person = some .object := by decide
  have compiled : Schema.compileWithin 2 (.object person) =
      .ok (.object [("age", .integer []), ("tags", .array [.items (.string [])])] [.required ["id"]]) := rfl
  obtain ⟨there, -, ⟨properties, shown, keywords⟩, answers⟩ := property_tree 2 wellFormed object compiled
  obtain ⟨name, e, fails, least, answer⟩ := answers nobody ⟨"tags", _, _, _, rfl, rfl, rfl⟩
  have first : (Schema.object [("age", .integer []), ("tags", .array [.items (.string [])])]
      [.required ["id"]]).validate (.object nobody) = .error ⟨[.key "age"], some "type", "integer", "boolean"⟩ := rfl
  obtain ⟨rfl, -⟩ : name = "age" ∧ e.path = [] := by
    rw [first] at answer
    have path := congrArg Violation.path (Except.error.inj answer)
    simpa [eq_comm] using path
  refine ⟨wellFormed, object, _, compiled, ?_, ?_, first, e, fails, least⟩
  · obtain rfl := Option.some.inj shown
    exact keywords.trans (by decide)
  · rw [← Option.not_isSome_iff_eq_none, there]
    rintro ⟨declared, inner, found, entry⟩
    obtain rfl := Json.object.inj (Option.some.inj found)
    cases entry

end JsonSchema
