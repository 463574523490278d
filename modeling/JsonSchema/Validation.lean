/-
  JsonSchema.Validation — checking one document by another.

  `validate` compiles a document and checks a value by it. `validateSource` also loads both
  documents: the schema first, then the value, and only then it compiles.
-/

import JsonSchema.Registry.Error
import JsonSchema.Schema.Check
import JsonSchema.Schema.Compile

namespace JsonSchema

inductive Failure where
  | schema (defects : Defects)
  | violation (v : Violation)
  | source (error : SourceError)
  | registry (error : RegistryError)

namespace Failure

def messageWith (explain : SourceError → String) : Failure → String
  | schema defects => defects.message
  | violation v => v.message
  | source e => e.messageWith explain
  | registry e => e.messageWith explain

def message (f : Failure) : String := f.messageWith SourceError.reason

end Failure

def validate (raw target : Json) : Except Failure Unit :=
  match Schema.compile raw with
  | .ok s => (s.validate target).mapError .violation
  | .error defects => .error (.schema defects)

def validateSource (fs : FileSystem) (target schema : Source) : Except Failure Unit :=
  match schema.load fs with
  | .error e => .error (.source e)
  | .ok raw =>
    match target.load fs with
    | .error e => .error (.source e)
    | .ok value => validate raw value

end JsonSchema
