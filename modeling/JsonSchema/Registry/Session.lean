/-
  JsonSchema.Registry.Session — a registry with several handles.

  All handles share one registry; each has a depth of its own, which limits the schemas that
  are registered through it and nothing else. A clone starts with the depth of its handle
  unless it is given another one.
-/

import JsonSchema.Registry.Basic

namespace JsonSchema

structure Session where
  registry : Registry
  /-- The depth of each handle, by its number. -/
  depths : List Nat

namespace Session

def start (depth : Nat) : Session := ⟨.empty, [depth]⟩

/-- The depth of a handle; the default where there is no such handle. -/
def depth (s : Session) (handle : Nat) : Nat := s.depths[handle]?.getD defaultDepth

inductive Action where
  | register (name : String) (raw : Json)
  | get (name : String)
  | validate (name : String) (target : Json)
  | clone (depth : Option Nat)
  | loadDirectory (fs : FileSystem) (directory : FilePath)

inductive Answer where
  | registered (result : Except RegistryError Schema)
  | got (schema : Option Schema)
  | validated (result : Except Failure Unit)
  /-- The number of the new handle. -/
  | cloned (handle : Nat)
  | loaded (result : Except RegistryError Nat)

def step (s : Session) (handle : Nat) : Action → Answer × Session
  | .register name raw =>
    match s.registry.register (s.depth handle) name raw with
    | .ok (schema, registry) => (.registered (.ok schema), { s with registry })
    | .error e => (.registered (.error e), s)
  | .get name => (.got (s.registry.get? name), s)
  | .validate name target => (.validated (s.registry.validate name target), s)
  | .clone depth =>
    (.cloned s.depths.length, { s with depths := s.depths ++ [depth.getD (s.depth handle)] })
  | .loadDirectory fs directory =>
    let (registry, result) := s.registry.loadDirectory (s.depth handle) fs directory
    (.loaded result, { s with registry })

end Session

end JsonSchema
