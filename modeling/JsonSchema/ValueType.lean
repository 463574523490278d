/-
  JsonSchema.ValueType — the types that a schema can declare.
-/

namespace JsonSchema

inductive ValueType where
  | string
  | integer
  | number
  | object
  | array
  | boolean
  | null
  deriving DecidableEq

namespace ValueType

def all : List ValueType := [.string, .integer, .number, .object, .array, .boolean, .null]

def name : ValueType → String
  | string => "string"
  | integer => "integer"
  | number => "number"
  | object => "object"
  | array => "array"
  | boolean => "boolean"
  | null => "null"

def title : ValueType → String
  | string => "String"
  | integer => "Integer"
  | number => "Number"
  | object => "Object"
  | array => "Array"
  | boolean => "Boolean"
  | null => "Null"

def ofName? (name : String) : Option ValueType := all.find? (·.name == name)

end ValueType

end JsonSchema
