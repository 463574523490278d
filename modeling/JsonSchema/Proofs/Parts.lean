/-
  JsonSchema.Proofs.Parts — what a raw schema consists of, seen without compiling it.

  The parts of a schema of a given type are what is wrong with its keywords and the places of
  the schemas below it, in the order of the report: `properties` by name, then the keywords of
  the type in the order of its table, items by index, patterns by their text, a bad pattern
  before the schema it stands for. `minContains` and `maxContains` have no part in the schema
  of `contains`.

  A position of a document is a place that is reached from the document itself by going down to
  schemas that are parts; its level is the number of descents.

  Statements:
  - `mem_parts_schema`: the schemas among the parts are those that `Below` lists by keyword.
  - `sizeOf_lt_of_mem_contents`: a schema below another one is smaller, so that going down ends.
-/

import JsonSchema.Schema.Compile

namespace JsonSchema

open Json (Members)

/-- Something wrong with a schema itself, or the place of a schema below it, which may have to be
    of a certain type. -/
inductive Part where
  | problem (d : Defect)
  | schema (needed : Option ValueType) (path : Path) (raw : Json)

def Part.defects (below : Option ValueType → Path → Json → List Defect) : Part → List Defect
  | .problem d => [d]
  | .schema needed path raw => below needed path raw

/-! ## Values that fit -/

namespace Json

def isObject : Json → Bool
  | .object _ => true
  | _ => false

def isBool : Json → Bool
  | .bool _ => true
  | _ => false

def isText : Json → Bool
  | .string _ => true
  | _ => false

def isNumber : Json → Bool
  | .number _ => true
  | _ => false

def isInteger : Json → Bool
  | .number n => n.toInteger?.isSome
  | _ => false

def isCount : Json → Bool
  | .number n => n.toCount?.isSome
  | _ => false

def isTexts : Json → Bool
  | .array items => items.all isText
  | _ => false

def isZero : Json → Bool
  | .number n => n.toDouble.units == 0
  | _ => false

end Json

/-! ## Parts of keywords -/

/-- The parts of a keyword, from the path and the members of its schema and its own value. -/
abbrev Reading := String → Path → Members → Json → List Part

namespace Reading

def bad (keyword : String) (path : Path) (cause : Defect.Cause) : Part := .problem ⟨path.key keyword, cause⟩

def fitting (fits : Json → Bool) (expected : String) : Reading := fun keyword path _ v =>
  if fits v then [] else [bad keyword path (.invalidKeyword keyword expected v.render)]

def count : Reading := fitting Json.isCount "a non-negative integer"

def number : Reading := fitting Json.isNumber "a number"

def integer : Reading := fitting Json.isInteger "an integer"

def text : Reading := fitting Json.isText "a string"

def texts : Reading := fitting Json.isTexts "an array of strings"

def flag : Reading := fitting Json.isBool "a boolean"

def divisor (reading : Reading) : Reading := fun keyword path members v =>
  if v.isZero then [bad keyword path (.zeroDivisor keyword)] else reading keyword path members v

def badPattern (keyword : String) (path : Path) (source : String) : List Part :=
  match Pattern.compile source with
  | .ok _ => []
  | .error e => [.problem ⟨path, .invalidPattern keyword source e.message⟩]

def pattern : Reading := fun keyword path members v =>
  match v with
  | .string source => badPattern keyword (path.key keyword) source
  | _ => text keyword path members v

def format : Reading := fun keyword path members v =>
  match v with
  | .string name => if (Format.ofName? name).isSome then [] else [bad keyword path (.unknownFormat name)]
  | _ => text keyword path members v

def schema (needed : Option ValueType) : Reading := fun keyword path _ v =>
  [.schema needed (path.key keyword) v]

def items : Reading := fun keyword path members v =>
  match v with
  | .object _ => schema none keyword path members v
  | .array schemas => schemas.mapIdx fun i s => .schema none ((path.key keyword).index i) s
  | _ => fitting Json.isObject "an object or an array of objects" keyword path members v

/-- A keyword that means nothing without another one. -/
def beside (sibling : String) (reading : Reading) : Reading := fun keyword path members v =>
  if (Json.member? members sibling).isSome then reading keyword path members v
  else [bad keyword path (.missingSibling keyword sibling)]

/-- The first member that is no list of texts spoils the whole. -/
def dependents : Reading := fun keyword path members v =>
  match v with
  | .object triggers =>
    if triggers.all (·.2.isTexts) then []
    else [bad keyword path (.invalidKeyword keyword "an object of string arrays" v.render)]
  | _ => fitting Json.isObject "an object" keyword path members v

def patterns : Reading := fun keyword path members v =>
  match v with
  | .object sources => sources.flatMap fun (source, raw) =>
    badPattern keyword ((path.key keyword).key source) source ++
      [.schema none ((path.key keyword).key source) raw]
  | _ => fitting Json.isObject "an object" keyword path members v

/-- What is no object among the properties is no schema. -/
def properties : Reading := fun keyword path _ v =>
  match v with
  | .object declared => (declared.filter (·.2.isObject)).map fun (name, raw) =>
    .schema none ((path.key keyword).key name) raw
  | _ => [bad keyword path (.invalidKeyword keyword "an object" v.kindName)]

end Reading

/-! ## Parts of schemas -/

def keywordReadings : ValueType → List (String × Reading)
  | .string =>
    [("minLength", .count), ("maxLength", .count), ("pattern", .pattern), ("format", .format)]
  | .integer =>
    [("minimum", .integer), ("exclusiveMinimum", .integer), ("maximum", .integer),
     ("exclusiveMaximum", .integer), ("multipleOf", .divisor .integer)]
  | .number =>
    [("minimum", .number), ("exclusiveMinimum", .number), ("maximum", .number),
     ("exclusiveMaximum", .number), ("multipleOf", .divisor .number)]
  | .object =>
    [("properties", .properties), ("required", .texts), ("dependentRequired", .dependents),
     ("minProperties", .count), ("maxProperties", .count), ("propertyNames", .schema (some .string)),
     ("patternProperties", .patterns)]
  | .array =>
    [("minItems", .count), ("maxItems", .count), ("uniqueItems", .flag), ("items", .items),
     ("contains", .schema none), ("minContains", .beside "contains" .count),
     ("maxContains", .beside "contains" .count)]
  | .boolean => []
  | .null => []

def partsOf (path : Path) (members : Members) (k : String × Reading) : List Part :=
  match Json.member? members k.1 with
  | none => []
  | some v => k.2 k.1 path members v

def parts (type : ValueType) (path : Path) (members : Members) : List Part :=
  (keywordReadings type).flatMap (partsOf path members)

/-- The schemas below one of a type, keyword by keyword. -/
inductive Below (path : Path) (members : Members) : ValueType → Option ValueType → Path → Json → Prop
  | property {declared : Members} {name : String} {raw : Json}
      (found : Json.member? members "properties" = some (.object declared)) (mem : (name, raw) ∈ declared)
      (object : raw.isObject) :
      Below path members .object none ((path.key "properties").key name) raw
  | items {raw : Json} (found : Json.member? members "items" = some raw) (object : raw.isObject) :
      Below path members .array none (path.key "items") raw
  | item {schemas : List Json} {i : Nat} {raw : Json}
      (found : Json.member? members "items" = some (.array schemas)) (mem : schemas[i]? = some raw) :
      Below path members .array none ((path.key "items").index i) raw
  | contains {raw : Json} (found : Json.member? members "contains" = some raw) :
      Below path members .array none (path.key "contains") raw
  | names {raw : Json} (found : Json.member? members "propertyNames" = some raw) :
      Below path members .object (some .string) (path.key "propertyNames") raw
  | pattern {sources : Members} {source : String} {raw : Json}
      (found : Json.member? members "patternProperties" = some (.object sources))
      (mem : (source, raw) ∈ sources) :
      Below path members .object none ((path.key "patternProperties").key source) raw

theorem partsOf_none {path : Path} {members : Members} {k : String} {reading : Reading}
    (h : Json.member? members k = none) : partsOf path members (k, reading) = [] := by
  rw [partsOf, h]

theorem partsOf_some {path : Path} {members : Members} {k : String} {reading : Reading} {v : Json}
    (h : Json.member? members k = some v) : partsOf path members (k, reading) = reading k path members v := by
  rw [partsOf, h]

theorem mem_partsOf {path : Path} {members : Members} {k : String} {reading : Reading} {part : Part} :
    part ∈ partsOf path members (k, reading) ↔
      ∃ v, Json.member? members k = some v ∧ part ∈ reading k path members v := by
  unfold partsOf
  cases Json.member? members k <;> simp

/-- Of the properties only the objects are read. -/
theorem readProperties_object {sub : Path → Json → Built Schema} (path : Path) {members declared : Members}
    (found : Json.member? members "properties" = some (.object declared)) :
    readProperties sub path members = Built.all ((declared.filter (·.2.isObject)).map fun m =>
      (sub ((path.key "properties").key m.1) m.2).map (m.1, ·)) := by
  unfold readProperties
  rw [found, ← List.filterMap_eq_map, List.filterMap_filter]
  refine congrArg (fun read => Built.all (declared.filterMap read)) (funext fun (name, raw) => ?_)
  cases raw <;> rfl

/-! ## Keywords with and without schemas -/

/-- At most one problem, of the keyword itself. -/
def Reading.Leaf (reading : Reading) : Prop :=
  ∀ keyword path members v, reading keyword path members v = [] ∨
    ∃ cause, reading keyword path members v = [Reading.bad keyword path cause]

namespace Reading

theorem leaf_fitting (fits : Json → Bool) (expected : String) : (fitting fits expected).Leaf := by
  intro keyword path members v
  unfold fitting
  split
  · exact Or.inl rfl
  · exact Or.inr ⟨_, rfl⟩

theorem leaf_divisor {reading : Reading} (h : reading.Leaf) : (divisor reading).Leaf := by
  intro keyword path members v
  unfold divisor
  split
  · exact Or.inr ⟨_, rfl⟩
  · exact h _ _ _ _

theorem leaf_beside {sibling : String} {reading : Reading} (h : reading.Leaf) : (beside sibling reading).Leaf := by
  intro keyword path members v
  unfold beside
  split
  · exact h _ _ _ _
  · exact Or.inr ⟨_, rfl⟩

theorem leaf_pattern : pattern.Leaf := by
  intro keyword path members v
  unfold pattern badPattern
  split
  · split
    · exact Or.inl rfl
    · exact Or.inr ⟨_, rfl⟩
  · exact leaf_fitting _ _ _ _ _ _

theorem leaf_format : format.Leaf := by
  intro keyword path members v
  unfold format
  split
  · split
    · exact Or.inl rfl
    · exact Or.inr ⟨_, rfl⟩
  · exact leaf_fitting _ _ _ _ _ _

theorem leaf_dependents : dependents.Leaf := by
  intro keyword path members v
  unfold dependents
  split
  · split
    · exact Or.inl rfl
    · exact Or.inr ⟨_, rfl⟩
  · exact leaf_fitting _ _ _ _ _ _

end Reading

inductive Nesting : ValueType → String → Reading → Prop
  | properties : Nesting .object "properties" .properties
  | names : Nesting .object "propertyNames" (.schema (some .string))
  | patterns : Nesting .object "patternProperties" .patterns
  | items : Nesting .array "items" .items
  | contains : Nesting .array "contains" (.schema none)

theorem leaf_or_nesting {type : ValueType} {keyword : String} {reading : Reading}
    (h : (keyword, reading) ∈ keywordReadings type) : reading.Leaf ∨ Nesting type keyword reading := by
  have count : Reading.count.Leaf := Reading.leaf_fitting _ _
  have integer : Reading.integer.Leaf := Reading.leaf_fitting _ _
  have number : Reading.number.Leaf := Reading.leaf_fitting _ _
  have texts : Reading.texts.Leaf := Reading.leaf_fitting _ _
  have flag : Reading.flag.Leaf := Reading.leaf_fitting _ _
  cases type with
  | string =>
    simp only [keywordReadings, List.mem_cons, Prod.mk.injEq, List.not_mem_nil, or_false] at h
    rcases h with ⟨rfl, rfl⟩ | ⟨rfl, rfl⟩ | ⟨rfl, rfl⟩ | ⟨rfl, rfl⟩
    · exact Or.inl count
    · exact Or.inl count
    · exact Or.inl Reading.leaf_pattern
    · exact Or.inl Reading.leaf_format
  | integer =>
    simp only [keywordReadings, List.mem_cons, Prod.mk.injEq, List.not_mem_nil, or_false] at h
    rcases h with ⟨rfl, rfl⟩ | ⟨rfl, rfl⟩ | ⟨rfl, rfl⟩ | ⟨rfl, rfl⟩ | ⟨rfl, rfl⟩
    iterate 4 exact Or.inl integer
    exact Or.inl (Reading.leaf_divisor integer)
  | number =>
    simp only [keywordReadings, List.mem_cons, Prod.mk.injEq, List.not_mem_nil, or_false] at h
    rcases h with ⟨rfl, rfl⟩ | ⟨rfl, rfl⟩ | ⟨rfl, rfl⟩ | ⟨rfl, rfl⟩ | ⟨rfl, rfl⟩
    iterate 4 exact Or.inl number
    exact Or.inl (Reading.leaf_divisor number)
  | object =>
    simp only [keywordReadings, List.mem_cons, Prod.mk.injEq, List.not_mem_nil, or_false] at h
    rcases h with ⟨rfl, rfl⟩ | ⟨rfl, rfl⟩ | ⟨rfl, rfl⟩ | ⟨rfl, rfl⟩ | ⟨rfl, rfl⟩ | ⟨rfl, rfl⟩ | ⟨rfl, rfl⟩
    · exact Or.inr .properties
    · exact Or.inl texts
    · exact Or.inl Reading.leaf_dependents
    · exact Or.inl count
    · exact Or.inl count
    · exact Or.inr .names
    · exact Or.inr .patterns
  | array =>
    simp only [keywordReadings, List.mem_cons, Prod.mk.injEq, List.not_mem_nil, or_false] at h
    rcases h with ⟨rfl, rfl⟩ | ⟨rfl, rfl⟩ | ⟨rfl, rfl⟩ | ⟨rfl, rfl⟩ | ⟨rfl, rfl⟩ | ⟨rfl, rfl⟩ | ⟨rfl, rfl⟩
    · exact Or.inl count
    · exact Or.inl count
    · exact Or.inl flag
    · exact Or.inr .items
    · exact Or.inr .contains
    · exact Or.inl (Reading.leaf_beside count)
    · exact Or.inl (Reading.leaf_beside count)
  | boolean => cases h
  | null => cases h

theorem Nesting.mem {type : ValueType} {keyword : String} {reading : Reading}
    (h : Nesting type keyword reading) : (keyword, reading) ∈ keywordReadings type := by
  cases h <;> simp [keywordReadings]

/-! ### The schemas of each keyword -/

section

variable {needed : Option ValueType} {place : Path} {raw : Json} {keyword : String} {path : Path}
  {members : Members} {v : Json}

theorem Reading.Leaf.schema_not_mem {reading : Reading} (h : reading.Leaf) :
    .schema needed place raw ∉ reading keyword path members v := by
  rcases h keyword path members v with h | ⟨cause, h⟩ <;> simp [h, Reading.bad]

theorem place_of_mem_badPattern {source : String} {part : Part} (h : part ∈ Reading.badPattern keyword path source) :
    ∃ reason, part = .problem ⟨path, .invalidPattern keyword source reason⟩ := by
  unfold Reading.badPattern at h
  split at h
  · cases h
  · exact ⟨_, List.mem_singleton.mp h⟩

theorem mem_schema {wanted : Option ValueType} :
    .schema needed place raw ∈ Reading.schema wanted keyword path members v ↔
      needed = wanted ∧ place = path.key keyword ∧ raw = v := by
  simp [Reading.schema]

theorem mem_items : .schema needed place raw ∈ Reading.items keyword path members v ↔
    needed = none ∧ ((v.isObject ∧ place = path.key keyword ∧ raw = v) ∨
      ∃ schemas, v = .array schemas ∧ ∃ i, schemas[i]? = some raw ∧ place = (path.key keyword).index i) := by
  cases v with
  | object ms => simp [Reading.items, Reading.schema, Json.isObject]
  | array schemas =>
    simp only [Reading.items, Json.isObject, List.mem_mapIdx, Part.schema.injEq]
    constructor
    · rintro ⟨i, hi, rfl, rfl, rfl⟩
      exact ⟨rfl, Or.inr ⟨schemas, rfl, i, List.getElem?_eq_getElem hi, rfl⟩⟩
    · rintro ⟨rfl, ⟨h, -⟩ | ⟨_, h, i, hi, rfl⟩⟩
      · cases h
      · obtain rfl := Json.array.inj h
        obtain ⟨hl, rfl⟩ := List.getElem?_eq_some_iff.mp hi
        exact ⟨i, hl, rfl, rfl, rfl⟩
  | _ => simpa [Reading.items, Json.isObject] using (Reading.leaf_fitting _ _).schema_not_mem

theorem mem_patterns : .schema needed place raw ∈ Reading.patterns keyword path members v ↔
    needed = none ∧ ∃ sources, v = .object sources ∧
      ∃ source, (source, raw) ∈ sources ∧ place = (path.key keyword).key source := by
  cases v with
  | object sources =>
    simp only [Reading.patterns, List.mem_flatMap, List.mem_append, List.mem_singleton, Part.schema.injEq]
    constructor
    · rintro ⟨⟨source, r⟩, hm, h | ⟨rfl, rfl, rfl⟩⟩
      · obtain ⟨_, h⟩ := place_of_mem_badPattern h
        cases h
      · exact ⟨rfl, sources, rfl, source, hm, rfl⟩
    · rintro ⟨rfl, _, h, source, hm, rfl⟩
      obtain rfl := Json.object.inj h
      exact ⟨(source, raw), hm, Or.inr ⟨rfl, rfl, rfl⟩⟩
  | _ => simpa [Reading.patterns] using (Reading.leaf_fitting _ _).schema_not_mem

theorem mem_properties : .schema needed place raw ∈ Reading.properties keyword path members v ↔
    needed = none ∧ raw.isObject ∧ ∃ declared, v = .object declared ∧
      ∃ name, (name, raw) ∈ declared ∧ place = (path.key keyword).key name := by
  cases v with
  | object declared =>
    simp only [Reading.properties, List.mem_map, List.mem_filter, Part.schema.injEq]
    constructor
    · rintro ⟨⟨name, r⟩, ⟨hm, ho⟩, rfl, rfl, rfl⟩
      exact ⟨rfl, ho, declared, rfl, name, hm, rfl⟩
    · rintro ⟨rfl, ho, _, h, name, hm, rfl⟩
      obtain rfl := Json.object.inj h
      exact ⟨(name, raw), ⟨hm, ho⟩, rfl, rfl, rfl⟩
  | _ => simp [Reading.properties, Reading.bad]

end

/-- The schemas among the parts are the schemas below. -/
theorem mem_parts_schema {type : ValueType} {path : Path} {members : Members} {needed : Option ValueType}
    {place : Path} {raw : Json} :
    .schema needed place raw ∈ parts type path members ↔ Below path members type needed place raw := by
  constructor
  · intro h
    obtain ⟨⟨keyword, reading⟩, hk, h⟩ := List.mem_flatMap.mp h
    obtain ⟨v, found, h⟩ := mem_partsOf.mp h
    rcases leaf_or_nesting hk with leaf | nesting
    · exact absurd h leaf.schema_not_mem
    · cases nesting with
      | properties =>
        obtain ⟨rfl, object, declared, rfl, name, mem, rfl⟩ := mem_properties.mp h
        exact .property found mem object
      | names =>
        obtain ⟨rfl, rfl, rfl⟩ := mem_schema.mp h
        exact .names found
      | patterns =>
        obtain ⟨rfl, sources, rfl, source, mem, rfl⟩ := mem_patterns.mp h
        exact .pattern found mem
      | items =>
        obtain ⟨rfl, ⟨object, rfl, rfl⟩ | ⟨schemas, rfl, i, mem, rfl⟩⟩ := mem_items.mp h
        · exact .items found object
        · exact .item found mem
      | contains =>
        obtain ⟨rfl, rfl, rfl⟩ := mem_schema.mp h
        exact .contains found
  · intro h
    have part {k : String} {reading : Reading} (nesting : Nesting type k reading) {v : Json}
        (found : Json.member? members k = some v)
        (h : Part.schema needed place raw ∈ reading k path members v) :
        Part.schema needed place raw ∈ parts type path members :=
      List.mem_flatMap.mpr ⟨(k, reading), nesting.mem, mem_partsOf.mpr ⟨v, found, h⟩⟩
    cases h with
    | property found mem object =>
      exact part .properties found (mem_properties.mpr ⟨rfl, object, _, rfl, _, mem, rfl⟩)
    | items found object => exact part .items found (mem_items.mpr ⟨rfl, Or.inl ⟨object, rfl, rfl⟩⟩)
    | item found mem => exact part .items found (mem_items.mpr ⟨rfl, Or.inr ⟨_, rfl, _, mem, rfl⟩⟩)
    | contains found => exact part .contains found (mem_schema.mpr ⟨rfl, rfl, rfl⟩)
    | names found => exact part .names found (mem_schema.mpr ⟨rfl, rfl, rfl⟩)
    | pattern found mem => exact part .patterns found (mem_patterns.mpr ⟨rfl, _, rfl, _, mem, rfl⟩)

/-- Only the keys of an object are held to a type. -/
theorem Below.needed {path : Path} {members : Members} {type : ValueType} {needed : Option ValueType}
    {place : Path} {raw : Json} (h : Below path members type needed place raw) :
    needed = none ∨ needed = some .string := by
  cases h <;> simp

/-- A type that is needed is the type. -/
theorem resolveType_needed {t type : ValueType} {declared : Option Json}
    (h : resolveType (some t) declared = .ok type) : type = t := by
  cases declared with
  | none => exact (Except.ok.inj h).symm
  | some v =>
    simp only [resolveType] at h
    split at h
    · cases h
    · split at h
      · rename_i same
        rw [same]
        exact (Except.ok.inj h).symm
      · cases h

/-! ## Going down -/

theorem mem_of_lookup {α : Type} {l : List (String × α)} {key : String} {a : α} (h : l.lookup key = some a) :
    (key, a) ∈ l := by
  obtain ⟨before, after, rfl, _⟩ := List.lookup_eq_some_iff.mp h
  exact List.mem_append_right _ List.mem_cons_self

theorem mem_of_member? {members : Members} {key : String} {v : Json} (h : Json.member? members key = some v) :
    (key, v) ∈ members := mem_of_lookup h

/-- Where keys ascend, each entry is the one that is found by its key. -/
theorem lookup_of_mem {α : Type} {l : List (String × α)} (ascending : l.Pairwise fun a b => a.1 < b.1) {key : String}
    {a : α} (mem : (key, a) ∈ l) : l.lookup key = some a := by
  obtain ⟨before, after, rfl⟩ := List.append_of_mem mem
  have later := (List.pairwise_append.mp ascending).2.2
  refine List.lookup_eq_some_iff.mpr ⟨before, after, rfl, fun p hp => ?_⟩
  have lt : p.1 < key := later p hp (key, a) List.mem_cons_self
  simp only [bne_iff_ne, ne_eq]
  intro same
  exact String.lt_irrefl _ (same ▸ lt)

theorem member?_of_mem {members : Members} (h : (Json.object members).WellFormed) {key : String} {v : Json}
    (mem : (key, v) ∈ members) : Json.member? members key = some v :=
  lookup_of_mem h.pairwise mem

theorem sizeOf_lt_of_mem {members : Members} {key : String} {v : Json} (h : (key, v) ∈ members) :
    sizeOf v < sizeOf (Json.object members) := by
  have := List.sizeOf_lt_of_mem h
  simp only [Prod.mk.sizeOf_spec] at this
  rw [Json.object.sizeOf_spec]
  omega

theorem sizeOf_lt_of_member? {members : Members} {key : String} {v : Json}
    (h : Json.member? members key = some v) : sizeOf v < sizeOf (Json.object members) :=
  sizeOf_lt_of_mem (mem_of_member? h)

/-- A schema below another one is smaller. -/
theorem sizeOf_lt_of_below {path : Path} {members : Members} {type : ValueType}
    {needed : Option ValueType} {place : Path} {raw : Json} (h : Below path members type needed place raw) :
    sizeOf raw < sizeOf (Json.object members) := by
  cases h with
  | property found mem _ => exact Nat.lt_trans (sizeOf_lt_of_mem mem) (sizeOf_lt_of_member? found)
  | items found _ => exact sizeOf_lt_of_member? found
  | item found mem =>
    have inner := List.sizeOf_lt_of_mem (List.mem_of_getElem? mem)
    have outer := sizeOf_lt_of_member? found
    rw [Json.array.sizeOf_spec] at outer
    omega
  | contains found => exact sizeOf_lt_of_member? found
  | names found => exact sizeOf_lt_of_member? found
  | pattern found mem => exact Nat.lt_trans (sizeOf_lt_of_mem mem) (sizeOf_lt_of_member? found)

/-- What is found in a place where a schema has to stand. A value that is no object and a type that
    is not clear hide all else. -/
def contents (needed : Option ValueType) (path : Path) (raw : Json) : List Part :=
  match raw with
  | .object members =>
    match resolveType needed (Json.member? members "type") with
    | .ok type => parts type path members
    | .error cause => [.problem ⟨path.key "type", cause⟩]
  | v => [.problem ⟨path, .notAnObject v.kindName⟩]

theorem mem_contents_schema {needed needed' : Option ValueType} {path place : Path} {raw raw' : Json} :
    .schema needed' place raw' ∈ contents needed path raw ↔
      ∃ members type, raw = .object members ∧
        resolveType needed (Json.member? members "type") = .ok type ∧
          Below path members type needed' place raw' := by
  cases raw with
  | object members =>
    unfold contents
    cases h : resolveType needed (Json.member? members "type") with
    | error cause => simp [h]
    | ok type => simp [h, mem_parts_schema]
  | _ => simp [contents]

/-- The schemas found in a place are smaller than what stands there. -/
theorem sizeOf_lt_of_mem_contents {needed needed' : Option ValueType} {path place : Path} {raw raw' : Json}
    (h : .schema needed' place raw' ∈ contents needed path raw) : sizeOf raw' < sizeOf raw := by
  obtain ⟨members, type, rfl, _, below⟩ := mem_contents_schema.mp h
  exact sizeOf_lt_of_below below

/-- Keys stand once in what is found below where they stand once above. -/
theorem wellFormed_of_mem_contents {needed needed' : Option ValueType} {path place : Path} {raw raw' : Json}
    (h : raw.WellFormed) (hp : .schema needed' place raw' ∈ contents needed path raw) : raw'.WellFormed := by
  obtain ⟨members, type, rfl, _, below⟩ := mem_contents_schema.mp hp
  cases below with
  | property found mem _ => exact (h.member (mem_of_member? found)).member mem
  | items found _ => exact h.member (mem_of_member? found)
  | item found mem => exact (h.member (mem_of_member? found)).item (List.mem_of_getElem? mem)
  | contains found => exact h.member (mem_of_member? found)
  | names found => exact h.member (mem_of_member? found)
  | pattern found mem => exact (h.member (mem_of_member? found)).member mem

/-- The places of schemas in a document, each with its level and the type it has to be of. Only a
    schema whose own type is clear has schemas below it. -/
inductive Position (document : Json) : Nat → Option ValueType → Path → Json → Prop
  | root : Position document 0 none [] document
  | down {level : Nat} {needed needed' : Option ValueType} {path place : Path} {members : Members}
      {type : ValueType} {raw : Json} (above : Position document level needed path (.object members))
      (clear : resolveType needed (Json.member? members "type") = .ok type)
      (below : Below path members type needed' place raw) :
      Position document (level + 1) needed' place raw

end JsonSchema
