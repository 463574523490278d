/-
  JsonSchema.Schema.Check — whether a value is valid for a schema.

  A value of another type than the schema's breaks it, and nothing else is looked at. Otherwise
  the properties of an object and then all rules are checked in their order, and the first
  violation is the answer: items by their position, properties and keys in ascending order.
  The rules that look at items through `contains` only count those that are valid. Each check
  is told the path of the value and hands it on, extended, to what lies below.
-/

import JsonSchema.Json.Equality
import JsonSchema.Json.Printer
import JsonSchema.Schema.Basic
import JsonSchema.Violation

namespace JsonSchema

/-! ## Rules that look at a value only -/

def StringRule.check (text : String) (path : Path) : StringRule → Verdict
  | .minLength n =>
    .require (n ≤ text.length) path s!"at least {n} characters" s!"{text.length} characters"
  | .maxLength n =>
    .require (text.length ≤ n) path s!"at most {n} characters" s!"{text.length} characters"
  | .pattern p => .require (p.matchesIn text) path ("string matching '" ++ p.source ++ "'") text
  | .format f => .require (f.accepts text) path f.name text

def StringRule.checkAll (text : String) (path : Path) (rules : List StringRule) : Verdict :=
  .all (rules.map fun r => (r.check text path).labelled r.keyword)

def IntegerRule.check (n : Int) (path : Path) : IntegerRule → Verdict
  | .bound b limit => .require (b.holds n limit) path (b.phrase ++ toString limit) (toString n)
  | .multipleOf divisor =>
    .require (n % divisor = 0) path ("a multiple of " ++ toString divisor) (toString n)

def IntegerRule.checkAll (n : Int) (path : Path) (rules : List IntegerRule) : Verdict :=
  .all (rules.map fun r => (r.check n path).labelled r.keyword)

/-- A number divides another where the rounded quotient is whole. -/
def NumberRule.divides (divisor n : Double) : Bool := (n.quotient? divisor).any Double.isWhole

def NumberRule.check (n : Double) (path : Path) : NumberRule → Verdict
  | .bound b limit =>
    .require (b.holds n.value limit.value) path (b.phrase ++ FloatText.message.render limit)
      (FloatText.message.render n)
  | .multipleOf divisor =>
    .require (divides divisor n) path ("a multiple of " ++ FloatText.message.render divisor)
      (FloatText.message.render n)

def NumberRule.checkAll (n : Double) (path : Path) (rules : List NumberRule) : Verdict :=
  .all (rules.map fun r => (r.check n path).labelled r.keyword)

def checkUnique (items : List Json) (path : Path) : Verdict :=
  match Json.firstRepeat? items with
  | none => .pass
  | some (i, v) => .fail (path.index i) "unique items" ("duplicate item " ++ v.render)

def checkPresent (members : Json.Members) (path : Path) (reason : String) (names : List String) :
    Verdict :=
  match names.find? fun name => (Json.member? members name).isNone with
  | none => .pass
  | some name => .fail path ("property '" ++ name ++ "'" ++ reason) "missing"

def checkDependent (members : Json.Members) (path : Path) (triggers : List (String × List String)) :
    Verdict :=
  .all (triggers.map fun (trigger, names) =>
    if (Json.member? members trigger).isSome then
      checkPresent members path (" (required by '" ++ trigger ++ "')") names
    else .pass)

/-! ## Items and members in order -/

def checkItems (check : Json → Path → Verdict) (path : Path) (position : Nat) : List Json → Verdict
  | [] => .pass
  | v :: rest => (check v (path.index position)).and (checkItems check path (position + 1) rest)

def checkMembers (check : String → Json → Path → Verdict) (path : Path) : Json.Members → Verdict
  | [] => .pass
  | (key, v) :: rest => (check key v (path.key key)).and (checkMembers check path rest)

def countValid (check : Json → Verdict) (items : List Json) : Nat := items.countP fun v => (check v).isOk

/-- The kinds of the items, each once, in ascending order. -/
def kindsOf (items : List Json) : List String :=
  ["array", "boolean", "null", "number", "object", "string"].filter fun kind =>
    items.any fun v => v.kindName == kind

/-! ## Schemas -/

def mismatch (type : ValueType) (v : Json) (path : Path) : Verdict :=
  (Verdict.fail path type.name v.kindName).labelled "type"

mutual

def Schema.check (s : Schema) (v : Json) (path : Path) : Verdict :=
  match s with
  | .string rules =>
    match v with
    | .string text => StringRule.checkAll text path rules
    | _ => mismatch .string v path
  | .integer rules =>
    match v with
    | .number n =>
      match n.toInteger? with
      | some i => IntegerRule.checkAll i path rules
      | none => mismatch .integer v path
    | _ => mismatch .integer v path
  | .number rules =>
    match v with
    | .number n => NumberRule.checkAll n.toDouble path rules
    | _ => mismatch .number v path
  | .object properties rules =>
    match v with
    | .object members =>
      ((checkProperties properties members path).labelled "properties").and
        (checkObjectRules rules members path)
    | _ => mismatch .object v path
  | .array rules =>
    match v with
    | .array items => checkArrayRules rules items path
    | _ => mismatch .array v path
  | .boolean =>
    match v with
    | .bool _ => .pass
    | _ => mismatch .boolean v path
  | .null =>
    match v with
    | .null => .pass
    | _ => mismatch .null v path

def checkProperties (properties : List (String × Schema)) (members : Json.Members) (path : Path) :
    Verdict :=
  match properties with
  | [] => .pass
  | (name, s) :: rest =>
    Verdict.and
      (match Json.member? members name with
        | some v => s.check v (path.key name)
        | none => .pass)
      (checkProperties rest members path)

def checkArrayRules (rules : List ArrayRule) (items : List Json) (path : Path) : Verdict :=
  match rules with
  | [] => .pass
  | r :: rest => ((r.check items path).labelled r.keyword).and (checkArrayRules rest items path)

def ArrayRule.check (r : ArrayRule) (items : List Json) (path : Path) : Verdict :=
  match r with
  | .minItems n => .require (n ≤ items.length) path s!"at least {n} items" s!"{items.length} items"
  | .maxItems n => .require (items.length ≤ n) path s!"at most {n} items" s!"{items.length} items"
  | .uniqueItems on => if on then checkUnique items path else .pass
  | .items s => checkItems (fun v place => s.check v place) path 0 items
  | .itemList schemas => checkItemList schemas path 0 items
  | .contains s =>
    .require (items.any fun v => (s.check v path).isOk) path s.type.name
      ("[" ++ ", ".intercalate (kindsOf items) ++ "]")
  | .minContains n s =>
    let found := countValid (fun v => s.check v path) items
    .require (n ≤ found) path s!"at least {n} matching items" s!"{found} matching items"
  | .maxContains n s =>
    let found := countValid (fun v => s.check v path) items
    .require (found ≤ n) path s!"at most {n} matching items" s!"{found} matching items"

def checkItemList (schemas : List Schema) (path : Path) (position : Nat) (items : List Json) : Verdict :=
  match schemas with
  | [] => .pass
  | s :: others =>
    match items with
    | [] => .pass
    | v :: rest => (s.check v (path.index position)).and (checkItemList others path (position + 1) rest)

def checkObjectRules (rules : List ObjectRule) (members : Json.Members) (path : Path) : Verdict :=
  match rules with
  | [] => .pass
  | r :: rest => ((r.check members path).labelled r.keyword).and (checkObjectRules rest members path)

def ObjectRule.check (r : ObjectRule) (members : Json.Members) (path : Path) : Verdict :=
  match r with
  | .required names => checkPresent members path "" names
  | .dependentRequired triggers => checkDependent members path triggers
  | .minProperties n =>
    .require (n ≤ members.length) path s!"at least {n} properties" s!"{members.length} properties"
  | .maxProperties n =>
    .require (members.length ≤ n) path s!"at most {n} properties" s!"{members.length} properties"
  | .propertyNames rules => checkMembers (fun key _ place => StringRule.checkAll key place rules) path members
  | .patternProperties patterns =>
    checkMembers (fun key v place => checkPatterns patterns key v place) path members

def checkPatterns (patterns : List (Pattern × Schema)) (key : String) (v : Json) (path : Path) : Verdict :=
  match patterns with
  | [] => .pass
  | (p, s) :: rest =>
    Verdict.and (if p.matchesIn key then s.check v path else .pass) (checkPatterns rest key v path)

end

namespace Schema

/-- As `validate`, for a value that stands at the end of a path. -/
def validateAt (s : Schema) (v : Json) (base : Path) : Verdict := s.check v base

def validate (s : Schema) (v : Json) : Verdict := s.validateAt v []

def validateAll (s : Schema) (values : List Json) : List Verdict := values.map s.validate

end Schema

end JsonSchema
