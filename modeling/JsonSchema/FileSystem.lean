/-
  JsonSchema.FileSystem — the files that documents are read from.

  A file system holds directories and files below a working directory; what lies elsewhere
  is a directory in which nothing is found. Paths are bytes: `/` stands between names, an
  empty name and `.` stay where they are, `..` goes up, and a path that starts with `/` does
  not start at the working directory. Only a directory can be gone through, so a name after
  a file, be it an empty one, is an error even where it would lead back.
-/

import JsonSchema.Text.Bytes

namespace JsonSchema

inductive FileError where
  | notFound
  | isADirectory
  | notADirectory
  /-- The content is no text. -/
  | invalidData
  /-- The path holds a zero byte. -/
  | invalidInput
  /-- The path or one of its names is too long. -/
  | invalidName
  deriving DecidableEq

def FileError.message : FileError → String
  | notFound => "no such file or directory"
  | isADirectory => "is a directory"
  | notADirectory => "not a directory"
  | invalidData => "content is not valid UTF-8"
  | invalidInput => "path contains a zero byte"
  | invalidName => "file name too long"

abbrev FilePath := Bytes

namespace FilePath

def slash : UInt8 := 0x2f

def point : UInt8 := 0x2e

/-- The names of a path, empty ones too. -/
def names : FilePath → List Bytes
  | [] => [[]]
  | b :: rest =>
    if b = slash then [] :: names rest
    else
      match names rest with
      | [] => [[b]]
      | name :: others => (b :: name) :: others

def join (directory : FilePath) (name : Bytes) : FilePath :=
  if directory.isEmpty || directory.getLast? == some slash then directory ++ name
  else directory ++ slash :: name

/-- The name before and after its last point; a name that has no point, or only its first
    byte, is not split. -/
def splitName (name : Bytes) : Bytes × Option Bytes :=
  let after := (name.reverse.takeWhile (· ≠ point)).reverse
  let before := name.take (name.length - after.length - 1)
  if before.isEmpty then (name, none) else (before, some after)

def maxLength : Nat := 4095

def maxNameLength : Nat := 255

end FilePath

namespace FileSystem

inductive Entry where
  | directory
  | file (content : Bytes)

/-- The names that lead from the working directory to an entry, or some place elsewhere. -/
inductive Place where
  | below (names : List Bytes)
  | elsewhere

def Place.parent : Place → Place
  | below names => if names.isEmpty then elsewhere else below names.dropLast
  | elsewhere => elsewhere

end FileSystem

structure FileSystem where
  entries : List (List Bytes × FileSystem.Entry)

namespace FileSystem

def empty : FileSystem := ⟨[]⟩

def entry? (fs : FileSystem) : Place → Option Entry
  | .below names => if names.isEmpty then some .directory else fs.entries.lookup names
  | .elsewhere => some .directory

def child? (fs : FileSystem) (place : Place) (name : Bytes) : Option Place :=
  match place with
  | .below names =>
    let inner := Place.below (names ++ [name])
    (fs.entry? inner).map fun _ => inner
  | .elsewhere => none

def enter (fs : FileSystem) (place : Place) (name : Bytes) : Except FileError Place :=
  if name.isEmpty || name == [FilePath.point] then .ok place
  else if name == [FilePath.point, FilePath.point] then .ok place.parent
  else if FilePath.maxNameLength < name.length then .error .invalidName
  else
    match fs.child? place name with
    | some inner => .ok inner
    | none => .error .notFound

def walk (fs : FileSystem) (place : Place) : List Bytes → Except FileError Place
  | [] => .ok place
  | name :: rest =>
    match fs.entry? place with
    | some .directory =>
      match fs.enter place name with
      | .ok next => fs.walk next rest
      | .error e => .error e
    | some (.file _) => .error .notADirectory
    | none => .error .notFound

def startOf (path : FilePath) : Place :=
  if path.head? = some FilePath.slash then .elsewhere else .below []

def resolve (fs : FileSystem) (path : FilePath) : Except FileError Place :=
  if (0 : UInt8) ∈ path then .error .invalidInput
  else if FilePath.maxLength < path.length then .error .invalidName
  else if path.isEmpty then .error .notFound
  else fs.walk (startOf path) path.names

/-! ## Reading -/

def isFile (fs : FileSystem) (path : FilePath) : Bool :=
  match fs.resolve path with
  | .ok place =>
    match fs.entry? place with
    | some (.file _) => true
    | _ => false
  | .error _ => false

def readFile (fs : FileSystem) (path : FilePath) : Except FileError Bytes :=
  match fs.resolve path with
  | .ok place =>
    match fs.entry? place with
    | some (.file content) => .ok content
    | some .directory => .error .isADirectory
    | none => .error .notFound
  | .error e => .error e

def readText (fs : FileSystem) (path : FilePath) : Except FileError String :=
  match fs.readFile path with
  | .ok content =>
    match content.decode? with
    | some text => .ok text
    | none => .error .invalidData
  | .error e => .error e

def namesAt (fs : FileSystem) : Place → List Bytes
  | .below names =>
    fs.entries.filterMap fun (own, _) => if own.dropLast = names then own.getLast? else none
  | .elsewhere => []

/-- The names in a directory, in no order of their own. -/
def readDirectory (fs : FileSystem) (path : FilePath) : Except FileError (List Bytes) :=
  match fs.resolve path with
  | .ok place =>
    match fs.entry? place with
    | some .directory => .ok (fs.namesAt place)
    | some (.file _) => .error .notADirectory
    | none => .error .notFound
  | .error e => .error e

/-! ## Writing -/

def put (fs : FileSystem) (names : List Bytes) (e : Entry) : FileSystem :=
  ⟨(names, e) :: fs.entries.filter (·.1 ≠ names)⟩

def makeWay (fs : FileSystem) (place : Place) : List Bytes → Except FileError FileSystem
  | [] =>
    match fs.entry? place with
    | some .directory => .ok fs
    | _ => .error .notADirectory
  | name :: rest =>
    match fs.entry? place with
    | some .directory =>
      match fs.enter place name, place with
      | .ok next, _ => fs.makeWay next rest
      | .error .notFound, .below names =>
        (fs.put (names ++ [name]) .directory).makeWay (.below (names ++ [name])) rest
      | .error e, _ => .error e
    | _ => .error .notADirectory

/-- Makes a directory and those above it; one that is there stays as it is. -/
def makeDirectory (fs : FileSystem) (path : FilePath) : Except FileError FileSystem :=
  if path.isEmpty then .ok fs else fs.makeWay (startOf path) path.names

def writeFile (fs : FileSystem) (path : FilePath) (content : Bytes) : Except FileError FileSystem :=
  let names := path.names
  match fs.walk (startOf path) names.dropLast, names.getLast? with
  | .ok (.below directory), some name =>
    match fs.entry? (.below directory), fs.entry? (.below (directory ++ [name])) with
    | some .directory, some .directory => .error .isADirectory
    | some .directory, _ => .ok (fs.put (directory ++ [name]) (.file content))
    | _, _ => .error .notADirectory
  | .ok .elsewhere, _ => .error .notFound
  | .ok _, none => .error .notFound
  | .error e, _ => .error e

end FileSystem

end JsonSchema
