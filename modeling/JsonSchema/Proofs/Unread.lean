/-
  JsonSchema.Proofs.Unread — what is not read of a schema does not matter.

  Of a schema only its type and the keywords of that type are read, and of its properties only the
  objects. `Unread` relates two documents that differ in nothing but the rest, in the schema itself or
  in the schemas below it: members that are there on one side only or have other values, among them
  keywords of other types, well-formed or not, and properties that are no objects. Which
  members these are hangs on the type, so the relation is told the type that is needed from above.

  Two such schemas agree (`Agrees`), with the schemas below them related again; so compiling does the
  same with both, by induction on the levels that are left.

  Statements:
  - `unread_members`, `unread_properties`: members that are not read, and properties that are no objects,
    can be added, taken away and changed.
  - `compileNode_unread`: related schemas compile alike, in every place and with any levels left.
  - `compile_unread`: related documents have the same defects in the same order, or compile to one schema.
-/

import JsonSchema.Proofs.Agreement

namespace JsonSchema

open Json (Members)

/-! ## Documents that differ in what is not read -/

/-- Two schemas differ at most in what is not read of them. Of a schema whose type is wrong nothing
    else is read. -/
inductive Unread : Option ValueType → Json → Json → Prop
  | same {needed : Option ValueType} {raw : Json} : Unread needed raw raw
  | wrong {needed : Option ValueType} {members members' : Members} {cause : Defect.Cause}
      (type : Json.member? members' "type" = Json.member? members "type")
      (unclear : resolveType needed (Json.member? members "type") = .error cause) :
      Unread needed (.object members) (.object members')
  | node {needed : Option ValueType} {members members' : Members} {t : ValueType}
      (type : Json.member? members' "type" = Json.member? members "type")
      (clear : resolveType needed (Json.member? members "type") = .ok t)
      (agrees : Agrees Unread (.object members) (.object members') t) :
      Unread needed (.object members) (.object members')

section

variable {needed : Option ValueType} {members members' : Members} {type : ValueType}

/-- Members that are neither the type nor keywords of the type are not read. -/
theorem unread_members (clear : resolveType needed (Json.member? members "type") = .ok type)
    (same : ∀ k ∈ "type" :: type.keywords, Json.member? members' k = Json.member? members k) :
    Unread needed (.object members) (.object members') := by
  obtain ⟨own, others⟩ := List.forall_mem_cons.mp same
  refine .node own clear (.intro (fun k known => ?_) fun k known v v' found found' => ?_)
  · rw [others k known]
  · obtain rfl : v = v' := Option.some.inj (by rw [← found, ← found', others k known])
    exact .same

/-- Properties that are no objects are not read. -/
theorem unread_properties {declared declared' : Members}
    (clear : resolveType needed (Json.member? members "type") = .ok .object)
    (there : Json.member? members "properties" = some (.object declared))
    (objects : declared'.filter (·.2.isObject) = declared.filter (·.2.isObject)) :
    Unread needed (.object members) (.object (Json.insert "properties" (.object declared') members)) := by
  refine .node ?_ clear (.intro (fun k known => ?_) fun k known v v' found found' => ?_)
  · rw [Json.member?_insert, if_neg (by decide)]
  · rw [Json.member?_insert]
    split
    · subst k
      rw [there]
      rfl
    · rfl
  · rw [Json.member?_insert] at found'
    split at found'
    · subst k
      obtain rfl := Option.some.inj (there.symm.trans found)
      obtain rfl := Option.some.inj found'
      refine .properties rfl (by rw [objects]) ?_
      rw [objects]
      exact List.forall₂_same.mpr fun _ _ => .same
    · obtain rfl : v = v' := Option.some.inj (found.symm.trans found')
      exact .same

end

/-! ## Compiling -/

theorem compileNames_unread (limit levels : Nat) (path : Path) {raw raw' : Json} (h : Unread (some .string) raw raw') :
    compileNames limit levels path raw' = compileNames limit levels path raw := by
  cases h with
  | same => rfl
  | wrong type unclear => exact compileNames_wrong limit levels path type unclear
  | node type clear agrees =>
    obtain rfl := resolveType_needed clear
    exact compileNames_agree limit levels path type clear agrees

/-- What is not read of a schema does not matter to compiling it, wherever it stands. -/
theorem compileNode_unread (limit levels : Nat) (path : Path) {raw raw' : Json} (h : Unread none raw raw') :
    compileNode limit levels path raw' = compileNode limit levels path raw := by
  induction levels generalizing path raw raw' with
  | zero => rfl
  | succ levels ih =>
    cases h with
    | same => rfl
    | wrong type unclear => exact compileNode_wrong limit _ path type unclear
    | node type clear agrees =>
      exact compileNode_agree limit levels path type (fun path _ _ related => ih path related)
        (fun path _ _ related => compileNames_unread limit levels path related) clear agrees

/-- Documents that differ in nothing that is read have the same defects in the same order, or compile to
    one schema, which has one tree and judges every value alike. -/
theorem compile_unread {raw raw' : Json} (h : Unread none raw raw') (depth : Nat) :
    (∃ ds, Schema.compileWithin depth raw = .error ds ∧ Schema.compileWithin depth raw' = .error ds) ∨
      ∃ s, Schema.compileWithin depth raw = .ok s ∧ Schema.compileWithin depth raw' = .ok s := by
  have same : Schema.compileWithin depth raw' = Schema.compileWithin depth raw :=
    congrArg (Except.mapError Defects.dedup) (compileNode_unread depth (depth + 1) [] h)
  cases compiled : Schema.compileWithin depth raw with
  | error ds => exact Or.inl ⟨ds, rfl, same.trans compiled⟩
  | ok s => exact Or.inr ⟨s, rfl, same.trans compiled⟩

def adult : Members := [("minimum", .number (.integer 18 (by decide))), ("type", .string "integer")]

def tidy : Members := [("properties", .object [("age", .object adult)]), ("type", .string "object")]

/-- The same with a keyword of arrays, a property that is no object, and in the other property
    a keyword of texts, both keywords malformed. -/
def cluttered : Members :=
  [("items", .bool true),
    ("properties", .object [("age", .object (("minLength", .string "two") :: adult)), ("name", .null)]),
    ("type", .string "object")]

/-- Both compile to one schema. -/
theorem compile_unread_cluttered :
    Unread none (.object tidy) (.object cluttered) ∧
      ∃ s, Schema.compileWithin 1 (.object tidy) = .ok s ∧ Schema.compileWithin 1 (.object cluttered) = .ok s := by
  have inner : Unread none (.object adult) (.object (("minLength", .string "two") :: adult)) := by
    have others : ∀ k ∈ "type" :: ValueType.integer.keywords, (k == "minLength") = false := by decide
    refine unread_members rfl fun k known => ?_
    rw [Json.member?, List.lookup_cons, others k known]
    rfl
  have related : Unread none (.object tidy) (.object cluttered) := by
    have single : ∀ k ∈ ValueType.object.keywords, (Json.member? tidy k).isSome → k = "properties" := by decide
    refine .node rfl rfl (.intro (by decide) fun k known v v' found found' => ?_)
    obtain rfl := single k known (by rw [found]; rfl)
    obtain rfl := Option.some.inj found
    obtain rfl := Option.some.inj found'
    exact .properties rfl rfl (.cons inner .nil)
  have compiled : Schema.compileWithin 1 (.object tidy) =
      .ok (.object [("age", .integer [.bound .minimum 18])] []) := rfl
  refine ⟨related, ?_⟩
  rcases compile_unread related 1 with ⟨ds, failed, -⟩ | both
  · cases failed.symm.trans compiled
  · exact both

end JsonSchema
