/-
  JsonSchema.Source — where a document comes from.

  A source is a value, a text, bytes, or a path to a file. Loading it gives the value or says
  why there is none. A file is read as a text, so one that is no UTF-8 cannot be read, while
  bytes that are none are no JSON.
-/

import JsonSchema.FileSystem
import JsonSchema.Json.Reader

namespace JsonSchema

def Json.ReadError.message : Json.ReadError → String
  | .truncated => "unexpected end of input"
  | .malformed => "malformed document"

inductive SourceError where
  | unreadable (path : FilePath) (error : FileError)
  | malformed (error : Json.ReadError)
  | malformedFile (path : FilePath) (error : Json.ReadError)
  /-- A record has a key that is no string and has no text. -/
  | badKey
  deriving DecidableEq

namespace SourceError

def reason : SourceError → String
  | unreadable _ e => e.message
  | malformed e => e.message
  | malformedFile _ e => e.message
  | badKey => "key must be a string"

/-- The message, with the reasons as `explain` puts them. -/
def messageWith (explain : SourceError → String) (e : SourceError) : String :=
  match e with
  | unreadable path _ => "cannot read " ++ path.display ++ ": " ++ explain e
  | malformed _ => "invalid JSON: " ++ explain e
  | malformedFile path _ => "invalid JSON in " ++ path.display ++ ": " ++ explain e
  | badKey => "cannot convert record to JSON: " ++ explain e

def message (e : SourceError) : String := e.messageWith reason

end SourceError

inductive Source where
  | value (v : Json)
  | text (content : String)
  | bytes (content : Bytes)
  | path (file : FilePath)

namespace Source

/-- A string names a file, if there is such a file, and is the document itself if not. -/
def ofString (fs : FileSystem) (content : String) : Source :=
  let file := Bytes.ofText content
  if fs.isFile file then .path file else .text content

/-- A key of a record as a key of an object: numbers and booleans by their text. -/
def key? : Json → Option String
  | .string s => some s
  | .number n => some n.render
  | .bool b => some (if b then "true" else "false")
  | _ => none

/-- A record, as the object with its members; the last of equal keys stays. -/
def ofRecord (pairs : List (Json × Json)) : Except SourceError Source :=
  match pairs.mapM fun (k, v) => (key? k).map (·, v) with
  | some pairs => .ok (.value (.object (Json.ofPairs pairs)))
  | none => .error .badKey

def load (fs : FileSystem) : Source → Except SourceError Json
  | .value v => .ok v
  | .text content => (Json.ofText content).mapError .malformed
  | .bytes content => (Json.ofBytes content).mapError .malformed
  | .path file =>
    match fs.readText file with
    | .ok content => (Json.ofText content).mapError (.malformedFile file)
    | .error e => .error (.unreadable file e)

end Source

end JsonSchema
