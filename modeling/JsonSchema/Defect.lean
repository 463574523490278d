/-
  JsonSchema.Defect — what is wrong with a document that is meant as a schema.

  A defect has a place in the document and a cause. A document that does not compile has at
  least one: `Defects` is a list that is never empty, in the order in which the defects were
  found.
-/

import JsonSchema.Path

namespace JsonSchema

namespace Defect

inductive Cause where
  /-- The schema is no object, but a value of this kind. -/
  | notAnObject (got : String)
  | missingType
  /-- The type is no string, but a value of this kind. -/
  | nonStringType (got : String)
  | unknownType (name : String)
  /-- The keyword around the schema needs another type. -/
  | conflictingType (expected got : String)
  /-- The value of a keyword has the wrong shape. -/
  | invalidKeyword (keyword expected got : String)
  /-- A keyword that means nothing without another one. -/
  | missingSibling (keyword requires : String)
  | unknownFormat (name : String)
  | invalidPattern (keyword pattern reason : String)
  | zeroDivisor (keyword : String)
  /-- Schemas nest deeper than this. -/
  | depthExceeded (limit : Nat)
  deriving DecidableEq

def Cause.message : Cause → String
  | .notAnObject got => "schema must be an object, got " ++ got
  | .missingType => "schema has no type"
  | .nonStringType got => "schema type must be a string, got " ++ got
  | .unknownType name => "unknown schema type '" ++ name ++ "'"
  | .conflictingType expected got => "schema type must be '" ++ expected ++ "', got '" ++ got ++ "'"
  | .invalidKeyword keyword expected got => keyword ++ " requires " ++ expected ++ ", got " ++ got
  | .missingSibling keyword requires => keyword ++ " requires " ++ requires
  | .unknownFormat name => "unknown format '" ++ name ++ "'"
  | .invalidPattern keyword pattern reason =>
    keyword ++ " has invalid pattern '" ++ pattern ++ "': " ++ reason
  | .zeroDivisor keyword => keyword ++ " must not be zero"
  | .depthExceeded limit => "schema nesting exceeds maximum depth of " ++ toString limit

end Defect

structure Defect where
  path : Path
  cause : Defect.Cause
  deriving DecidableEq

namespace Defect

def message (d : Defect) : String := Path.label d.path ++ ": " ++ d.cause.message

end Defect

/-- At least one defect, in order. -/
structure Defects where
  first : Defect
  rest : List Defect
  deriving DecidableEq

namespace Defects

def single (d : Defect) : Defects := ⟨d, []⟩

def toList (ds : Defects) : List Defect := ds.first :: ds.rest

def ofList? : List Defect → Option Defects
  | [] => none
  | d :: rest => some ⟨d, rest⟩

def combine (a b : Defects) : Defects := ⟨a.first, a.rest ++ b.toList⟩

@[simp] theorem toList_single (d : Defect) : (single d).toList = [d] := rfl

@[simp] theorem toList_combine (a b : Defects) : (a.combine b).toList = a.toList ++ b.toList := rfl

def size (ds : Defects) : Nat := ds.toList.length

def atPath (ds : Defects) (path : Path) : List Defect := ds.toList.filter (·.path = path)

/-- Each defect once, where it first stands. -/
def dedup (ds : Defects) : Defects :=
  ⟨ds.first, (ds.rest.foldl (fun kept d => if d ∈ ds.first :: kept then kept else kept ++ [d]) [])⟩

def numbered (start : Nat) : List Defect → String
  | [] => ""
  | d :: rest => "  " ++ toString start ++ ". " ++ d.message ++ "\n" ++ numbered (start + 1) rest

def message (ds : Defects) : String :=
  if ds.rest.isEmpty then "invalid schema: " ++ ds.first.message
  else "invalid schema, " ++ toString ds.size ++ " error(s):\n" ++ numbered 1 ds.toList

end Defects

end JsonSchema
