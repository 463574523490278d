/-
  JsonSchema.Registry — compiled schemas by name.

  A registry binds names to schemas, in ascending order of the names. A name that is bound
  stays bound to its schema; what is refused leaves the registry as it was. Loading a
  directory registers each of its `.json` files under the name of the file, in the order of
  the names, and goes on after one that fails.
-/

import JsonSchema.Validation

namespace JsonSchema

structure Registry where
  bindings : List (String × Schema)

namespace Registry

def empty : Registry := ⟨[]⟩

def get? (r : Registry) (name : String) : Option Schema := r.bindings.lookup name

def names (r : Registry) : List String := r.bindings.map (·.1)

def size (r : Registry) : Nat := r.bindings.length

def isEmpty (r : Registry) : Bool := r.bindings.isEmpty

def bind (name : String) (s : Schema) : List (String × Schema) → List (String × Schema)
  | [] => [(name, s)]
  | (n, t) :: rest => if name < n then (name, s) :: (n, t) :: rest else (n, t) :: bind name s rest

def insert (r : Registry) (name : String) (s : Schema) : Except RegistryError (Schema × Registry) :=
  match r.get? name with
  | some _ => .error (.nameTaken name)
  | none => .ok (s, ⟨bind name s r.bindings⟩)

/-- Compiles a document for a free name, with `depth` levels below the outermost at most, and binds the name
    to the schema. -/
def register (r : Registry) (depth : Nat) (name : String) (raw : Json) :
    Except RegistryError (Schema × Registry) :=
  match r.get? name with
  | some _ => .error (.nameTaken name)
  | none =>
    match Schema.compileWithin depth raw with
    -- the name is looked up once more, since compiling is no part of the step that binds it
    | .ok s => r.insert name s
    | .error defects => .error (.badSchema name defects)

def validate (r : Registry) (name : String) (target : Json) : Except Failure Unit :=
  match r.get? name with
  | some s => (s.validate target).mapError .violation
  | none => .error (.registry (.unknownName name))

/-! ## Directories -/

def fileEnding : Bytes := Bytes.ofText "json"

def schemaFiles (fs : FileSystem) (directory : FilePath) : Except FileError (List Bytes) :=
  (fs.readDirectory directory).map fun names =>
    (names.filter fun name =>
      fs.isFile (directory.join name) && (FilePath.splitName name).2 == some fileEnding).mergeSort

def loadFile (r : Registry) (depth : Nat) (fs : FileSystem) (directory : FilePath) (file : Bytes) :
    Except RegistryError Registry :=
  let path := directory.join file
  match Bytes.decode? (FilePath.splitName file).1 with
  | none => .error (.badFileName path)
  | some name =>
    match (Source.path path).load fs with
    | .error e => .error (.badSource path e)
    | .ok raw => (r.register depth name raw).map (·.2)

/-- Registers files one after another; how many there were, and the errors of the others. -/
def loadFiles (r : Registry) (depth : Nat) (fs : FileSystem) (directory : FilePath) :
    List Bytes → Registry × Nat × List RegistryError
  | [] => (r, 0, [])
  | file :: rest =>
    match r.loadFile depth fs directory file with
    | .ok next =>
      let (last, loaded, errors) := next.loadFiles depth fs directory rest
      (last, loaded + 1, errors)
    | .error e =>
      let (last, loaded, errors) := r.loadFiles depth fs directory rest
      (last, loaded, e :: errors)

def outcome (loaded : Nat) : List RegistryError → Except RegistryError Nat
  | [] => .ok loaded
  | [e] => .error e
  | errors => .error (.several errors)

/-- Registers the schema files of a directory; the registry keeps those that succeed. -/
def loadDirectory (r : Registry) (depth : Nat) (fs : FileSystem) (directory : FilePath) :
    Registry × Except RegistryError Nat :=
  match schemaFiles fs directory with
  | .error e => (r, .error (.badSource directory (.unreadable directory e)))
  | .ok files =>
    let (last, loaded, errors) := r.loadFiles depth fs directory files
    (last, outcome loaded errors)

end Registry

end JsonSchema
