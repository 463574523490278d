/-
  JsonSchema.Schema.Compile — compiling a document into a schema.

  A schema is an object with a type. The keywords of the type are read in the order of its
  table, everything else in the object is ignored, and the defects of all keywords are
  gathered; a schema comes out only where there is none. Schemas nest through `properties`,
  `items`, `contains`, `propertyNames` and `patternProperties`, each one level down.
  `minContains` and `maxContains` build the schema of `contains` once more, so that its defects
  come up to three times; each defect is kept once, where it first stands.

  The number of levels that are left goes down with each level, and a schema below the last
  one is a defect whatever it holds. Everything is told the path of the schema it belongs to.
-/

import JsonSchema.Json.Printer
import JsonSchema.Schema.Basic
import JsonSchema.Schema.Built

namespace JsonSchema

open Json (Members)

/-! ## Values of keywords -/

def badValue {α : Type} (keyword expected : String) (path : Path) (v : Json) : Built α :=
  .defect (path.key keyword) (.invalidKeyword keyword expected v.render)

def readCount (keyword : String) (path : Path) (v : Json) : Built Nat :=
  match v with
  | .number n =>
    match n.toCount? with
    | some k => .ok k
    | none => badValue keyword "a non-negative integer" path v
  | _ => badValue keyword "a non-negative integer" path v

def readNumber (keyword : String) (path : Path) (v : Json) : Built Double :=
  match v with
  | .number n => .ok n.toDouble
  | _ => badValue keyword "a number" path v

def readInteger (keyword : String) (path : Path) (v : Json) : Built Int :=
  match v with
  | .number n =>
    match n.toInteger? with
    | some i => .ok i
    | none => badValue keyword "an integer" path v
  | _ => badValue keyword "an integer" path v

def readString (keyword : String) (path : Path) (v : Json) : Built String :=
  match v with
  | .string text => .ok text
  | _ => badValue keyword "a string" path v

def readBool (keyword : String) (path : Path) (v : Json) : Built Bool :=
  match v with
  | .bool b => .ok b
  | _ => badValue keyword "a boolean" path v

def readObject (keyword : String) (path : Path) (v : Json) : Built Members :=
  match v with
  | .object members => .ok members
  | _ => badValue keyword "an object" path v

def strings? (v : Json) : Option (List String) :=
  match v with
  | .array items => items.mapM fun item => match item with
    | .string text => some text
    | _ => none
  | _ => none

def readStrings (keyword : String) (path : Path) (v : Json) : Built (List String) :=
  match strings? v with
  | some texts => .ok texts
  | none => badValue keyword "an array of strings" path v

/-! ## Tables of keywords -/

/-- A keyword and how a rule is built from its value, in a schema that has these members and
    stands at the path. -/
structure Entry (ρ : Type) where
  keyword : String
  build : Path → Members → Json → Built ρ

namespace Entry

variable {ρ : Type}

def one {α : Type} (keyword : String) (read : String → Path → Json → Built α) (rule : α → ρ) : Entry ρ :=
  ⟨keyword, fun path _ v => (read keyword path v).map rule⟩

/-- A keyword that means nothing without another one, whose value it looks at as well. -/
def beside (keyword sibling : String) (build : Path → Json → Json → Built ρ) : Entry ρ :=
  ⟨keyword, fun path members v =>
    match Json.member? members sibling with
    | none => .defect (path.key keyword) (.missingSibling keyword sibling)
    | some other => build path v other⟩

def build? (path : Path) (members : Members) (e : Entry ρ) : Option (Built ρ) :=
  (Json.member? members e.keyword).map (e.build path members)

def rules (table : List (Entry ρ)) (path : Path) (members : Members) : Built (List ρ) :=
  .all (table.filterMap (build? path members))

end Entry

/-- A pattern at its own path, as the value of `keyword` or, for patterns that are keys, below it. -/
def compilePattern (keyword : String) (path : Path) (source : String) : Built Pattern :=
  match Pattern.compile source with
  | .ok p => .ok p
  | .error e => .defect path (.invalidPattern keyword source e.message)

def readPattern (keyword : String) (path : Path) (v : Json) : Built Pattern :=
  match readString keyword path v with
  | .ok source => compilePattern keyword (path.key keyword) source
  | .error e => .error e

def readFormat (keyword : String) (path : Path) (v : Json) : Built Format :=
  match readString keyword path v with
  | .ok name =>
    match Format.ofName? name with
    | some f => .ok f
    | none => .defect (path.key keyword) (.unknownFormat name)
  | .error e => .error e

def stringTable : List (Entry StringRule) :=
  [.one "minLength" readCount .minLength, .one "maxLength" readCount .maxLength,
   .one "pattern" readPattern .pattern, .one "format" readFormat .format]

def readIntegerDivisor (keyword : String) (path : Path) (v : Json) : Built Int :=
  match readInteger keyword path v with
  | .ok d => if d = 0 then .defect (path.key keyword) (.zeroDivisor keyword) else .ok d
  | .error e => .error e

def readNumberDivisor (keyword : String) (path : Path) (v : Json) : Built Double :=
  match readNumber keyword path v with
  | .ok d => if d.units = 0 then .defect (path.key keyword) (.zeroDivisor keyword) else .ok d
  | .error e => .error e

def bounds : List Bound := [.minimum, .exclusiveMinimum, .maximum, .exclusiveMaximum]

def integerTable : List (Entry IntegerRule) :=
  bounds.map (fun b => .one b.keyword readInteger (.bound b)) ++
    [.one "multipleOf" readIntegerDivisor .multipleOf]

def numberTable : List (Entry NumberRule) :=
  bounds.map (fun b => .one b.keyword readNumber (.bound b)) ++
    [.one "multipleOf" readNumberDivisor .multipleOf]

theorem integerTable_eq : integerTable =
    [.one "minimum" readInteger (.bound .minimum),
     .one "exclusiveMinimum" readInteger (.bound .exclusiveMinimum),
     .one "maximum" readInteger (.bound .maximum),
     .one "exclusiveMaximum" readInteger (.bound .exclusiveMaximum),
     .one "multipleOf" readIntegerDivisor .multipleOf] := rfl

theorem numberTable_eq : numberTable =
    [.one "minimum" readNumber (.bound .minimum),
     .one "exclusiveMinimum" readNumber (.bound .exclusiveMinimum),
     .one "maximum" readNumber (.bound .maximum),
     .one "exclusiveMaximum" readNumber (.bound .exclusiveMaximum),
     .one "multipleOf" readNumberDivisor .multipleOf] := rfl

/-! ## Arrays and objects -/

def readItems (sub : Path → Json → Built Schema) (keyword : String) (path : Path) (v : Json) :
    Built ArrayRule :=
  match v with
  | .object _ => (sub (path.key keyword) v).map .items
  | .array schemas =>
    (Built.all (schemas.mapIdx fun i s => sub ((path.key keyword).index i) s)).map .itemList
  | _ => badValue keyword "an object or an array of objects" path v

/-- A rule on how many items are valid for `contains`, whose schema is built again for it. -/
def countContained (sub : Path → Json → Built Schema) (keyword : String)
    (rule : Nat → Schema → ArrayRule) : Entry ArrayRule :=
  .beside keyword "contains" fun path v contained =>
    ((readCount keyword path v).both (sub (path.key "contains") contained)).map fun (n, s) => rule n s

def arrayTable (sub : Path → Json → Built Schema) : List (Entry ArrayRule) :=
  [.one "minItems" readCount .minItems, .one "maxItems" readCount .maxItems,
   .one "uniqueItems" readBool .uniqueItems, .one "items" (readItems sub) id,
   .one "contains" (fun keyword path v => sub (path.key keyword) v) .contains,
   countContained sub "minContains" .minContains, countContained sub "maxContains" .maxContains]

/-- The keys that each key calls for. The first value that is no list of strings is the defect of
    the whole. -/
def readDependent (keyword : String) (path : Path) (v : Json) : Built (List (String × List String)) :=
  match readObject keyword path v with
  | .error e => .error e
  | .ok members =>
    match members.mapM fun (trigger, names) => (strings? names).map (trigger, ·) with
    | some triggers => .ok triggers
    | none => badValue keyword "an object of string arrays" path v

/-- The schemas of patterns; the defect of a pattern stands before those of its schema. -/
def readPatterns (sub : Path → Json → Built Schema) (keyword : String) (path : Path) (v : Json) :
    Built (List (Pattern × Schema)) :=
  match readObject keyword path v with
  | .error e => .error e
  | .ok members =>
    .all (members.map fun (source, raw) =>
      let place := (path.key keyword).key source
      (compilePattern keyword place source).both (sub place raw))

def objectTable (sub : Path → Json → Built Schema) (names : Path → Json → Built (List StringRule)) :
    List (Entry ObjectRule) :=
  [.one "required" readStrings .required, .one "dependentRequired" readDependent .dependentRequired,
   .one "minProperties" readCount .minProperties, .one "maxProperties" readCount .maxProperties,
   .one "propertyNames" (fun keyword path v => names (path.key keyword) v) .propertyNames,
   .one "patternProperties" (readPatterns sub) .patternProperties]

/-- The schemas of the properties. What is no object there is no schema and is passed over. -/
def readProperties (sub : Path → Json → Built Schema) (path : Path) (members : Members) :
    Built (List (String × Schema)) :=
  match Json.member? members "properties" with
  | none => .ok []
  | some (.object declared) =>
    .all (declared.filterMap fun (name, raw) =>
      match raw with
      | .object _ => some ((sub ((path.key "properties").key name) raw).map (name, ·))
      | _ => none)
  | some other =>
    .defect (path.key "properties") (.invalidKeyword "properties" "an object" other.kindName)

/-! ## Schemas -/

def ValueType.classify : Option Json → Except Defect.Cause ValueType
  | none => .error .missingType
  | some (.string name) =>
    match ofName? name with
    | some t => .ok t
    | none => .error (.unknownType name)
  | some v => .error (.nonStringType v.kindName)

/-- The type of a schema, where the keyword around it may need a certain one and stands in for
    a type that is not given. -/
def resolveType (needed : Option ValueType) (declared : Option Json) :
    Except Defect.Cause ValueType :=
  match needed, declared with
  | some t, none => .ok t
  | needed, declared =>
    match ValueType.classify declared with
    | .error e => .error e
    | .ok t =>
      match needed with
      | some n => if n = t then .ok t else .error (.conflictingType n.name t.name)
      | none => .ok t

def openNode (needed : Option ValueType) (path : Path) (raw : Json) : Built (ValueType × Members) :=
  match raw with
  | .object members =>
    match resolveType needed (Json.member? members "type") with
    | .ok t => .ok (t, members)
    | .error cause => .defect (path.key "type") cause
  | v => .defect path (.notAnObject v.kindName)

def compileNames (limit : Nat) : Nat → Path → Json → Built (List StringRule)
  | 0, path, _ => .defect path (.depthExceeded limit)
  | _ + 1, path, raw =>
    match openNode (some .string) path raw with
    | .error e => .error e
    | .ok (_, members) => Entry.rules stringTable path members

def compileNode (limit : Nat) : Nat → Path → Json → Built Schema
  | 0, path, _ => .defect path (.depthExceeded limit)
  | levels + 1, path, raw =>
    match openNode none path raw with
    | .error e => .error e
    | .ok (type, members) =>
      let sub := compileNode limit levels
      match type with
      | .string => (Entry.rules stringTable path members).map .string
      | .integer => (Entry.rules integerTable path members).map .integer
      | .number => (Entry.rules numberTable path members).map .number
      | .boolean => .ok .boolean
      | .null => .ok .null
      | .array => (Entry.rules (arrayTable sub) path members).map .array
      | .object =>
        ((readProperties sub path members).both
          (Entry.rules (objectTable sub (compileNames limit levels)) path members)).map
            fun (properties, rules) => .object properties rules

/-- The schemas that may lie below one another, the outermost not counted. -/
def defaultDepth : Nat := 100

/-- The schema that a document describes with at most `depth` levels below the outermost, or
    everything that is wrong with the document. -/
def Schema.compileWithin (depth : Nat) (raw : Json) : Except Defects Schema :=
  (compileNode depth (depth + 1) [] raw).mapError Defects.dedup

def Schema.compile (raw : Json) : Except Defects Schema := compileWithin defaultDepth raw

end JsonSchema
