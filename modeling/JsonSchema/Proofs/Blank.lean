/-
  JsonSchema.Proofs.Blank — the schemas that a limit keeps from being read.

  `blank` puts an empty object in the place of each schema some levels below. Nothing else is changed, so
  a schema agrees with what is left of it; and what is left of the schemas below compiles as they do, by
  induction on the levels, down to the last one, at which nothing is read at all.

  Statements:
  - `agrees_mapMembers`: a schema agrees with the one in which the schemas below are changed.
  - `compileNode_blank`: with some levels left, the schemas that many levels below do not matter.
-/

import JsonSchema.Proofs.Agreement

namespace JsonSchema

open Json (Members)

namespace Json

/-- The value of a keyword with the schemas in it changed. What is no object among the properties
    is no schema. -/
def mapSchemas (f : Json → Json) (keyword : String) (v : Json) : Json :=
  match keyword, v with
  | "contains", v => f v
  | "propertyNames", v => f v
  | "items", .object members => f (.object members)
  | "items", .array schemas => .array (schemas.map f)
  | "patternProperties", .object sources => .object (sources.map fun (source, raw) => (source, f raw))
  | "properties", .object declared =>
    .object (declared.map fun (name, raw) => (name, if raw.isObject then f raw else raw))
  | _, v => v

def mapMembers (f : Json → Json) (members : Members) : Members :=
  members.map fun (keyword, v) => (keyword, mapSchemas f keyword v)

/-- The document with an empty object in the place of each schema some levels below. -/
def blank : Nat → Json → Json
  | 0, _ => .object []
  | levels + 1, .object members => .object (mapMembers (blank levels) members)
  | _ + 1, v => v

theorem mapSchemas_of_not_mem {f : Json → Json} {keyword : String} (h : keyword ∉ nestingKeywords) (v : Json) :
    mapSchemas f keyword v = v := by
  simp only [nestingKeywords, List.mem_cons, List.not_mem_nil, or_false, not_or] at h
  obtain ⟨h₁, h₂, h₃, h₄, h₅⟩ := h
  unfold mapSchemas
  split
  · exact absurd rfl h₃
  · exact absurd rfl h₄
  · exact absurd rfl h₂
  · exact absurd rfl h₂
  · exact absurd rfl h₅
  · exact absurd rfl h₁
  · rfl

theorem member?_mapMembers (f : Json → Json) (members : Members) (key : String) :
    member? (mapMembers f members) key = (member? members key).map (mapSchemas f key) := by
  unfold mapMembers
  induction members with
  | nil => rfl
  | cons m rest ih =>
    obtain ⟨k, v⟩ := m
    simp only [member?, List.map_cons, List.lookup_cons] at ih ⊢
    by_cases e : key = k
    · simp [e]
    · have ne : (key == k) = false := by simpa using e
      simpa [ne] using ih

end Json

open Json (mapSchemas mapMembers blank member?_mapMembers mapSchemas_of_not_mem)

/-! ## Schemas and what is left of them -/

theorem forall₂_map_right {α β : Type} {R : α → β → Prop} {f : α → β} {l : List α} (h : ∀ a ∈ l, R a (f a)) :
    List.Forall₂ R l (l.map f) :=
  List.forall₂_map_right_iff.mpr (List.forall₂_same.mpr h)

section

variable {f : Json → Json} (object : ∀ members, (f (.object members)).isObject)

include object

theorem isObject_mapProperty (raw : Json) : (if raw.isObject then f raw else raw).isObject = raw.isObject := by
  cases raw with
  | object members => exact object members
  | _ => rfl

/-- The values of a keyword differ in the schemas below it only. -/
theorem keeps_mapSchemas (keyword : String) (v : Json) :
    Keeps (fun _ raw raw' => raw' = f raw) v (mapSchemas f keyword v) keyword := by
  unfold mapSchemas
  split
  · exact .contains rfl rfl
  · exact .propertyNames rfl rfl
  · rename_i members
    obtain ⟨members', blanked⟩ : ∃ members', f (.object members) = .object members' := by
      have shape := object members
      cases e : f (.object members) with
      | object members' => exact ⟨members', rfl⟩
      | _ => simp [e, Json.isObject] at shape
    rw [blanked]
    exact .items rfl blanked.symm
  · exact .itemList rfl (forall₂_map_right fun _ _ => rfl)
  · refine .patterns rfl ?_ (forall₂_map_right fun _ _ => rfl)
    rw [List.map_map]
    rfl
  · rename_i declared
    have objects : (declared.map fun m => (m.1, if m.2.isObject then f m.2 else m.2)).filter (·.2.isObject) =
        (declared.filter (·.2.isObject)).map fun m => (m.1, if m.2.isObject then f m.2 else m.2) := by
      rw [List.filter_map]
      congr 2
      funext m
      exact isObject_mapProperty object m.2
    refine .properties rfl ?_ ?_
    · rw [objects, List.map_map]
      rfl
    · rw [objects]
      exact forall₂_map_right fun m mem => if_pos (List.mem_filter.mp mem).2
  · exact .same

theorem agrees_mapMembers (type : ValueType) (members : Members) :
    Agrees (fun _ raw raw' => raw' = f raw) (.object members) (.object (mapMembers f members)) type := by
  refine .intro (fun k _ => ?_) fun k _ v v' found found' => ?_
  · rw [member?_mapMembers, Option.isSome_map]
  · rw [member?_mapMembers, found] at found'
    obtain rfl := Option.some.inj found'
    exact keeps_mapSchemas object k v

end

/-- The type of a schema does not depend on the schemas below. -/
theorem type_mapMembers (f : Json → Json) (members : Members) :
    Json.member? (mapMembers f members) "type" = Json.member? members "type" := by
  have same : mapSchemas f "type" = id := funext fun v => mapSchemas_of_not_mem (by decide) v
  rw [member?_mapMembers, same, Option.map_id, id]

theorem isObject_blank (levels : Nat) (members : Members) : (blank levels (.object members)).isObject := by
  cases levels <;> rfl

theorem compileNames_blank (limit levels : Nat) (path : Path) (raw : Json) :
    compileNames limit levels path (blank levels raw) = compileNames limit levels path raw := by
  cases levels with
  | zero => rfl
  | succ levels =>
    cases raw with
    | object members =>
      have same := type_mapMembers (blank levels) members
      cases type : resolveType (some .string) (Json.member? members "type") with
      | error cause => exact compileNames_wrong limit _ path same type
      | ok t => exact compileNames_agree limit _ path same type (agrees_mapMembers (isObject_blank levels) _ members)
    | _ => rfl

/-- Compiling with some levels left does not look at the schemas that many levels below. -/
theorem compileNode_blank (limit levels : Nat) (path : Path) (raw : Json) :
    compileNode limit levels path (blank levels raw) = compileNode limit levels path raw := by
  induction levels generalizing path raw with
  | zero => rfl
  | succ levels ih =>
    cases raw with
    | object members =>
      have same := type_mapMembers (blank levels) members
      cases type : resolveType none (Json.member? members "type") with
      | error cause => exact compileNode_wrong limit _ path same type
      | ok t =>
        refine compileNode_agree limit levels path same ?_ ?_ type (agrees_mapMembers (isObject_blank levels) _ members)
        · rintro path raw _ rfl
          exact ih path raw
        · rintro path raw _ rfl
          exact compileNames_blank limit levels path raw
    | _ => rfl

end JsonSchema
