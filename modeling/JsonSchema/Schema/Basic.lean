/-
  JsonSchema.Schema — compiled schemas.

  A schema has a type and the rules of that type, in the order in which they are checked.
  Objects also have the schemas of their properties, which are checked before the rules. Rules
  hold what they need in the form in which it is compared: counts as natural numbers, bounds
  of `number` as doubles, bounds of `integer` as integers, patterns read, schemas compiled.
-/

import JsonSchema.Format.Basic
import JsonSchema.Number.Basic
import JsonSchema.Text.Quoted
import JsonSchema.ValueType

namespace JsonSchema

inductive Bound where
  | minimum
  | exclusiveMinimum
  | maximum
  | exclusiveMaximum
  deriving DecidableEq

namespace Bound

def keyword : Bound → String
  | minimum => "minimum"
  | exclusiveMinimum => "exclusiveMinimum"
  | maximum => "maximum"
  | exclusiveMaximum => "exclusiveMaximum"

def phrase : Bound → String
  | minimum => "at least "
  | exclusiveMinimum => "greater than "
  | maximum => "at most "
  | exclusiveMaximum => "less than "

def holds (b : Bound) (number limit : Int) : Bool :=
  match b with
  | minimum => decide (limit ≤ number)
  | exclusiveMinimum => decide (limit < number)
  | maximum => decide (number ≤ limit)
  | exclusiveMaximum => decide (number < limit)

end Bound

inductive StringRule where
  | minLength (n : Nat)
  | maxLength (n : Nat)
  | pattern (p : Pattern)
  | format (f : Format)

inductive IntegerRule where
  | bound (b : Bound) (limit : Int)
  | multipleOf (divisor : Int)

inductive NumberRule where
  | bound (b : Bound) (limit : Double)
  | multipleOf (divisor : Double)

mutual

inductive Schema where
  | string (rules : List StringRule)
  | integer (rules : List IntegerRule)
  | number (rules : List NumberRule)
  | object (properties : List (String × Schema)) (rules : List ObjectRule)
  | array (rules : List ArrayRule)
  | boolean
  | null

inductive ArrayRule where
  | minItems (n : Nat)
  | maxItems (n : Nat)
  /-- Asks for nothing when it is switched off. -/
  | uniqueItems (on : Bool)
  /-- Every item. -/
  | items (schema : Schema)
  /-- Each item by the schema at its place, as far as both go. -/
  | itemList (schemas : List Schema)
  | contains (schema : Schema)
  | minContains (n : Nat) (schema : Schema)
  | maxContains (n : Nat) (schema : Schema)

inductive ObjectRule where
  | required (names : List String)
  /-- The keys that a key calls for. -/
  | dependentRequired (triggers : List (String × List String))
  | minProperties (n : Nat)
  | maxProperties (n : Nat)
  /-- Every key, taken as a string. -/
  | propertyNames (rules : List StringRule)
  /-- The values of the keys that match. -/
  | patternProperties (patterns : List (Pattern × Schema))

end

def StringRule.keyword : StringRule → String
  | .minLength _ => "minLength"
  | .maxLength _ => "maxLength"
  | .pattern _ => "pattern"
  | .format _ => "format"

def IntegerRule.keyword : IntegerRule → String
  | .bound b _ => b.keyword
  | .multipleOf _ => "multipleOf"

def NumberRule.keyword : NumberRule → String
  | .bound b _ => b.keyword
  | .multipleOf _ => "multipleOf"

def ArrayRule.keyword : ArrayRule → String
  | .minItems _ => "minItems"
  | .maxItems _ => "maxItems"
  | .uniqueItems _ => "uniqueItems"
  | .items _ => "items"
  | .itemList _ => "items"
  | .contains _ => "contains"
  | .minContains _ _ => "minContains"
  | .maxContains _ _ => "maxContains"

def ObjectRule.keyword : ObjectRule → String
  | .required _ => "required"
  | .dependentRequired _ => "dependentRequired"
  | .minProperties _ => "minProperties"
  | .maxProperties _ => "maxProperties"
  | .propertyNames _ => "propertyNames"
  | .patternProperties _ => "patternProperties"

namespace Schema

def type : Schema → ValueType
  | string _ => .string
  | integer _ => .integer
  | number _ => .number
  | object _ _ => .object
  | array _ => .array
  | boolean => .boolean
  | null => .null

/-- The keywords in the order in which they are checked. Properties are a keyword where there
    are any. -/
def keywords : Schema → List String
  | string rules => rules.map (·.keyword)
  | integer rules => rules.map (·.keyword)
  | number rules => rules.map (·.keyword)
  | object properties rules =>
    (if properties.isEmpty then [] else ["properties"]) ++ rules.map (·.keyword)
  | array rules => rules.map (·.keyword)
  | boolean => []
  | null => []

/-- The schemas of the properties; none for what is no object. -/
def properties? : Schema → Option (List (String × Schema))
  | object properties _ => some properties
  | _ => none

def property? (s : Schema) (name : String) : Option Schema := s.properties?.bind (·.lookup name)

mutual

def outline : Schema → String
  | .object properties rules =>
    "Schema \x7b type: " ++ ValueType.object.title ++ ", keywords: [" ++
      ", ".intercalate ((Schema.object properties rules).keywords.map Text.quoted) ++ "], properties: \x7b" ++
      outlineProperties properties ++ "\x7d \x7d"
  | s =>
    "Schema \x7b type: " ++ s.type.title ++ ", keywords: [" ++
      ", ".intercalate (s.keywords.map Text.quoted) ++ "] \x7d"

def outlineProperties : List (String × Schema) → String
  | [] => ""
  | [(name, s)] => Text.quoted name ++ ": " ++ outline s
  | (name, s) :: rest => Text.quoted name ++ ": " ++ outline s ++ ", " ++ outlineProperties rest

end

end Schema

end JsonSchema
