/-
  JsonSchema.Registry.Error — why a registry refuses.
-/

import JsonSchema.Defect
import JsonSchema.Source

namespace JsonSchema

inductive RegistryError where
  | nameTaken (name : String)
  | unknownName (name : String)
  /-- The document to be bound to the name is no schema. -/
  | badSchema (name : String) (defects : Defects)
  | badSource (path : FilePath) (error : SourceError)
  | badFileName (path : FilePath)
  /-- Several files of a directory failed. -/
  | several (errors : List RegistryError)

namespace RegistryError

def messageWith (explain : SourceError → String) : RegistryError → String
  | nameTaken name => "schema '" ++ name ++ "' already registered"
  | unknownName name => "schema '" ++ name ++ "' not found"
  | badSchema name defects => "schema '" ++ name ++ "': " ++ defects.message
  | badSource path e => path.display ++ ": " ++ e.messageWith explain
  | badFileName path => "file name is not valid UTF-8: " ++ path.display
  | several errors => toString errors.length ++ " schema files failed to load"

def message (e : RegistryError) : String := e.messageWith SourceError.reason

end RegistryError

end JsonSchema
