/-
  JsonSchema.Proofs.Valid — what a document asks of a value, read off the document.

  A value is valid for a document when its kind fits the type that the document declares and
  every keyword of that type that is there holds. Nothing is compiled: bounds are the whole
  numbers or doubles that the document writes, patterns and formats are looked up by their text,
  and nested schemas are the values of the keywords themselves. Keywords of other types do not
  matter.

  The clauses of a type are told what it means to be valid for a nested schema (`ArrayHolds`,
  `ObjectHolds`); `Valid` ties the knot, as nested schemas are smaller.

  Statements:
  - `valid_iff`: the recursion equation, without a word about sizes.
-/

import JsonSchema.Json.Equality
import JsonSchema.Proofs.Numbers
import JsonSchema.Proofs.Parts
import Mathlib.Tactic.MkIffOfInductiveProp

namespace JsonSchema

open Json (Members)

namespace Json

/-! ## Values of keywords -/

/-- A whole number that a signed 64-bit integer holds, and which. -/
def IsInteger (v : Json) (i : Int) : Prop :=
  ∃ n, v = .number n ∧ n.Is i ∧ -9223372036854775808 ≤ i ∧ i < 9223372036854775808

/-- The bound of a count: the nearest double is a whole number up to 2^64, which stands for the
    greatest count. -/
def IsCount (v : Json) (c : Nat) : Prop :=
  ∃ n, v = .number n ∧ ∃ w : Nat, n.toDouble.Is w ∧ w ≤ UInt64.size ∧ c = min w (UInt64.size - 1)

def IsDouble (v : Json) (d : Double) : Prop := ∃ n, v = .number n ∧ n.toDouble = d

def IsTextList (v : Json) (texts : List String) : Prop := v = .array (texts.map .string)

theorem IsTextList.unique {v : Json} {texts texts' : List String} (h : v.IsTextList texts)
    (h' : v.IsTextList texts') : texts = texts' := by
  have same := Json.array.inj (h.symm.trans h')
  exact (List.map_inj_right fun _ _ e => Json.string.inj e).mp same

end Json

/-- What is asked of the value of a keyword, where the keyword is there. -/
def Given (members : Members) (keyword : String) (asks : Json → Prop) : Prop :=
  ∀ v, Json.member? members keyword = some v → asks v

/-- A keyword that is not there asks nothing. -/
theorem Given.of_absent {members : Members} {keyword : String} {asks : Json → Prop}
    (absent : Json.member? members keyword = none) : Given members keyword asks := by
  intro v there
  rw [absent] at there
  cases there

theorem given_iff_of_member {members : Members} {keyword : String} {asks : Json → Prop} {v : Json}
    (there : Json.member? members keyword = some v) : Given members keyword asks ↔ asks v := by
  simp [Given, there]

def declaredType (members : Members) : Option ValueType :=
  match Json.member? members "type" with
  | some (.string name) => ValueType.ofName? name
  | _ => none

/-! ## Keywords of each type -/

@[mk_iff]
structure StringHolds (members : Members) (text : String) : Prop where
  minLength : Given members "minLength" fun v => ∃ n, v.IsCount n ∧ n ≤ text.length
  maxLength : Given members "maxLength" fun v => ∃ n, v.IsCount n ∧ text.length ≤ n
  pattern : Given members "pattern" fun v =>
    ∃ p, (∃ source, v = .string source ∧ Pattern.compile source = .ok p) ∧ p.matchesIn text
  format : Given members "format" fun v =>
    ∃ f, (∃ name, v = .string name ∧ Format.ofName? name = some f) ∧ f.accepts text

@[mk_iff]
structure IntegerHolds (members : Members) (i : Int) : Prop where
  minimum : Given members "minimum" fun v => ∃ limit, v.IsInteger limit ∧ limit ≤ i
  exclusiveMinimum : Given members "exclusiveMinimum" fun v => ∃ limit, v.IsInteger limit ∧ limit < i
  maximum : Given members "maximum" fun v => ∃ limit, v.IsInteger limit ∧ i ≤ limit
  exclusiveMaximum : Given members "exclusiveMaximum" fun v => ∃ limit, v.IsInteger limit ∧ i < limit
  multipleOf : Given members "multipleOf" fun v => ∃ d, (v.IsInteger d ∧ d ≠ 0) ∧ d ∣ i

/-- Doubles are compared by their exact values; one is a multiple of another where the rounded
    quotient is finite and whole. -/
@[mk_iff]
structure NumberHolds (members : Members) (x : Double) : Prop where
  minimum : Given members "minimum" fun v => ∃ limit, v.IsDouble limit ∧ limit.value ≤ x.value
  exclusiveMinimum : Given members "exclusiveMinimum" fun v => ∃ limit, v.IsDouble limit ∧ limit.value < x.value
  maximum : Given members "maximum" fun v => ∃ limit, v.IsDouble limit ∧ x.value ≤ limit.value
  exclusiveMaximum : Given members "exclusiveMaximum" fun v => ∃ limit, v.IsDouble limit ∧ x.value < limit.value
  multipleOf : Given members "multipleOf" fun v =>
    ∃ d, (v.IsDouble d ∧ d.units ≠ 0) ∧ ∃ q i, x.quotient? d = some q ∧ q.Is i

section

variable (valid : Json → Json → Prop)

open Classical in
@[mk_iff]
structure ArrayHolds (members : Members) (items : List Json) : Prop where
  minItems : Given members "minItems" fun v => ∃ n, v.IsCount n ∧ n ≤ items.length
  maxItems : Given members "maxItems" fun v => ∃ n, v.IsCount n ∧ items.length ≤ n
  uniqueItems : Given members "uniqueItems" fun v => v = .bool true → items.Pairwise fun a b => ¬Json.same a b
  /-- One schema for every item, or one for each of the first items, as far as both lists go. -/
  eachItem : Given members "items" fun s => (s.isObject → ∀ v ∈ items, valid s v) ∧
    ∀ schemas, s = .array schemas →
      ∀ (i : Nat) s v, schemas[i]? = some s → items[i]? = some v → valid s v
  contains : Given members "contains" fun s => ∃ v ∈ items, valid s v
  minContains : Given members "contains" fun s => Given members "minContains" fun bound =>
    ∃ n, bound.IsCount n ∧ n ≤ items.countP fun v => decide (valid s v)
  maxContains : Given members "contains" fun s => Given members "maxContains" fun bound =>
    ∃ n, bound.IsCount n ∧ (items.countP fun v => decide (valid s v)) ≤ n

@[mk_iff]
structure ObjectHolds (members target : Members) : Prop where
  /-- The properties that are there. What is no object is no schema. -/
  properties : Given members "properties" fun all => ∀ declared, all = .object declared →
    ∀ name s v, (name, s) ∈ declared → s.isObject → Json.member? target name = some v → valid s v
  required : Given members "required" fun v =>
    ∃ names, v.IsTextList names ∧ ∀ name ∈ names, (Json.member? target name).isSome
  /-- The keys that a key calls for, where it is there. -/
  dependentRequired : Given members "dependentRequired" fun v => ∃ triggers, v = .object triggers ∧
    ∀ trigger list, (trigger, list) ∈ triggers → (Json.member? target trigger).isSome →
      ∃ names, list.IsTextList names ∧ ∀ name ∈ names, (Json.member? target name).isSome
  minProperties : Given members "minProperties" fun v => ∃ n, v.IsCount n ∧ n ≤ target.length
  maxProperties : Given members "maxProperties" fun v => ∃ n, v.IsCount n ∧ target.length ≤ n
  /-- Every key, as a text. -/
  propertyNames : Given members "propertyNames" fun s => ∀ names, s = .object names →
    ∀ key v, (key, v) ∈ target → StringHolds names key
  /-- The values of all keys that match. -/
  patternProperties : Given members "patternProperties" fun all => ∀ sources, all = .object sources →
    ∀ source s key v, (source, s) ∈ sources → (key, v) ∈ target →
      (∃ p, Pattern.compile source = .ok p ∧ p.matchesIn key) → valid s v

def Holds (raw t : Json) : Prop :=
  match raw with
  | .object members =>
    match declaredType members, t with
    | some .string, .string text => StringHolds members text
    | some .integer, .number n =>
      ∃ i, (n.Is i ∧ -9223372036854775808 ≤ i ∧ i < 9223372036854775808) ∧ IntegerHolds members i
    | some .number, .number n => NumberHolds members n.toDouble
    | some .object, .object target => ObjectHolds valid members target
    | some .array, .array items => ArrayHolds valid members items
    | some .boolean, .bool _ => True
    | some .null, .null => True
    | _, _ => False
  | _ => False

end

/-- The value is valid for the document, by recursion on the document. -/
def Valid (raw t : Json) : Prop := Holds (fun s v => ∃ _ : sizeOf s < sizeOf raw, Valid s v) raw t
termination_by sizeOf raw

/-! ## The recursion equation -/

open Classical in
theorem countP_valid_congr {valid valid' : Json → Json → Prop} {s : Json} (h : ∀ v, valid s v ↔ valid' s v)
    (items : List Json) :
    (items.countP fun v => decide (valid s v)) = items.countP fun v => decide (valid' s v) :=
  List.countP_congr fun v _ => by rw [decide_eq_true_iff, decide_eq_true_iff, h v]

section

variable {valid valid' : Json → Json → Prop} {members : Members}
  (h : ∀ s, sizeOf s < sizeOf (Json.object members) → ∀ v, valid s v ↔ valid' s v)

include h

/-- Only schemas that are smaller matter. -/
theorem ArrayHolds.congr {items : List Json} (holds : ArrayHolds valid members items) :
    ArrayHolds valid' members items where
  minItems := holds.minItems
  maxItems := holds.maxItems
  uniqueItems := holds.uniqueItems
  eachItem s found := by
    obtain ⟨all, each⟩ := holds.eachItem s found
    refine ⟨fun object v hv => (h s (sizeOf_lt_of_member? found) v).mp (all object v hv), ?_⟩
    rintro schemas rfl i s v hs hv
    have smaller := List.sizeOf_lt_of_mem (List.mem_of_getElem? hs)
    have outer := sizeOf_lt_of_member? found
    rw [Json.array.sizeOf_spec] at outer
    exact (h s (by omega) v).mp (each schemas rfl i s v hs hv)
  contains s found := by
    obtain ⟨v, hv, valid⟩ := holds.contains s found
    exact ⟨v, hv, (h s (sizeOf_lt_of_member? found) v).mp valid⟩
  minContains s found bound there := by
    obtain ⟨n, count, le⟩ := holds.minContains s found bound there
    rw [countP_valid_congr (h s (sizeOf_lt_of_member? found))] at le
    exact ⟨n, count, le⟩
  maxContains s found bound there := by
    obtain ⟨n, count, le⟩ := holds.maxContains s found bound there
    rw [countP_valid_congr (h s (sizeOf_lt_of_member? found))] at le
    exact ⟨n, count, le⟩

theorem ObjectHolds.congr {target : Members} (holds : ObjectHolds valid members target) :
    ObjectHolds valid' members target where
  properties all found declared object name s v hs shape there := by
    subst object
    have smaller := Nat.lt_trans (sizeOf_lt_of_mem hs) (sizeOf_lt_of_member? found)
    exact (h s smaller v).mp (holds.properties _ found declared rfl name s v hs shape there)
  required := holds.required
  dependentRequired := holds.dependentRequired
  minProperties := holds.minProperties
  maxProperties := holds.maxProperties
  propertyNames := holds.propertyNames
  patternProperties all found sources object source s key v hs hv matched := by
    subst object
    have smaller := Nat.lt_trans (sizeOf_lt_of_mem hs) (sizeOf_lt_of_member? found)
    exact (h s smaller v).mp (holds.patternProperties _ found sources rfl source s key v hs hv matched)

end

/-- A value is valid when the keywords hold, with validity for nested schemas the same thing. -/
theorem valid_iff (raw t : Json) : Valid raw t ↔ Holds Valid raw t := by
  have same (s : Json) (smaller : sizeOf s < sizeOf raw) (v : Json) :
      (∃ _ : sizeOf s < sizeOf raw, Valid s v) ↔ Valid s v := by
    simp [smaller]
  rw [Valid]
  cases raw with
  | object members =>
    simp only [Holds]
    cases declaredType members with
    | none => rfl
    | some type =>
      cases type with
      | object =>
        cases t with
        | object target =>
          exact ⟨ObjectHolds.congr same, ObjectHolds.congr fun s smaller v => (same s smaller v).symm⟩
        | _ => rfl
      | array =>
        cases t with
        | array items => exact ⟨ArrayHolds.congr same, ArrayHolds.congr fun s smaller v => (same s smaller v).symm⟩
        | _ => rfl
      | _ => cases t <;> rfl
  | _ => rfl

end JsonSchema
