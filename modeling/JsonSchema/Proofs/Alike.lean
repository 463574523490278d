/-
  JsonSchema.Proofs.Alike — schemas that judge a value alike, however its numbers are written.

  Of a verdict its trace matters here: whether the value passes, and if not, at which place and by
  which keyword it fails; the texts of a violation quote numbers as they are written. Two rules are
  alike when the second one treats a value with plain numbers as the first one treats the value
  itself, by their traces. The rules that look at numbers do so by their values; all others hand
  the relation on from the schemas in them. So schemas with rules that are alike, in the same order,
  are alike.

  Statements:
  - `alike_items` … `alike_patternProperties`: rules are alike where the schemas in them are.
  - `alike_string` … `alike_object`: schemas are alike where their rules are.
-/

import JsonSchema.Proofs.Plain
import JsonSchema.Proofs.Rules
import Mathlib.Data.List.Forall2

namespace JsonSchema

open Json (Members plainItems plainMembers plainItems_eq_map plainMembers_eq_map member?_plain)

/-! ## Traces -/

namespace Verdict

def trace (v : Verdict) : Except (Path × Option String) Unit := v.mapError fun e => (e.path, e.keyword)

theorem trace_require (holds : Bool) (path : Path) (expected got expected' got' : String) :
    (require holds path expected' got').trace = (require holds path expected got).trace := by
  cases holds <;> rfl

theorem isOk_of_trace {v v' : Verdict} (h : v'.trace = v.trace) : v'.isOk = v.isOk := by
  cases v <;> cases v' <;> first | rfl | cases h

theorem trace_labelled {v v' : Verdict} (h : v'.trace = v.trace) (keyword : String) :
    (v'.labelled keyword).trace = (v.labelled keyword).trace := by
  cases v with
  | ok _ =>
    cases v' with
    | ok _ => rfl
    | error _ => cases h
  | error e =>
    cases v' with
    | ok _ => cases h
    | error e' =>
      obtain ⟨path, key⟩ := Prod.mk.inj (Except.error.inj h)
      show Except.error ((e'.labelled keyword).path, (e'.labelled keyword).keyword) =
        Except.error ((e.labelled keyword).path, (e.labelled keyword).keyword)
      simp only [Violation.labelled, path, key]

theorem trace_and {first first' second second' : Verdict} (h : first'.trace = first.trace)
    (h' : second'.trace = second.trace) : (first'.and second').trace = (first.and second).trace := by
  cases first with
  | ok _ =>
    cases first' with
    | ok _ => exact h'
    | error _ => cases h
  | error e =>
    cases first' with
    | ok _ => cases h
    | error e' => exact h

theorem trace_all {α β : Type} {f : α → Verdict} {g : β → Verdict} {l : List α} {l' : List β}
    (h : List.Forall₂ (fun x y => (g y).trace = (f x).trace) l l') :
    (all (l'.map g)).trace = (all (l.map f)).trace := by
  induction h with
  | nil => rfl
  | cons first _ ih => exact trace_and first ih

end Verdict

/-! ## Schemas and rules that are alike -/

/-- What can be seen of a schema: its type, its keywords and its properties. -/
inductive SchemaTree where
  | node (type : ValueType) (keywords : List String) (properties : List (String × SchemaTree))

mutual

def Schema.tree : Schema → SchemaTree
  | .object properties rules =>
    .node .object (Schema.object properties rules).keywords (propertyTrees properties)
  | s => .node s.type s.keywords []

def propertyTrees : List (String × Schema) → List (String × SchemaTree)
  | [] => []
  | (name, s) :: rest => (name, s.tree) :: propertyTrees rest

end

/-- The second schema makes of a value with plain numbers what the first one makes of the value. -/
structure Schema.Alike (s s' : Schema) : Prop where
  tree : s'.tree = s.tree
  check : ∀ v path, (s'.check v.plain path).trace = (s.check v path).trace

structure NumberRule.Alike (r r' : NumberRule) : Prop where
  keyword : r'.keyword = r.keyword
  check : ∀ x path, (r'.check x.unsignedZero path).trace = (r.check x path).trace

structure ArrayRule.Alike (r r' : ArrayRule) : Prop where
  keyword : r'.keyword = r.keyword
  check : ∀ items path, (r'.check (items.map Json.plain) path).trace = (r.check items path).trace

structure ObjectRule.Alike (r r' : ObjectRule) : Prop where
  keyword : r'.keyword = r.keyword
  check : ∀ members path, (r'.check (plainMembers members) path).trace = (r.check members path).trace

/-! ### Numbers -/

theorem NumberRule.alike_bound (b : Bound) (limit : Double) :
    NumberRule.Alike (.bound b limit) (.bound b limit.unsignedZero) where
  keyword := rfl
  check x path := by
    simp only [NumberRule.check, Double.value_unsignedZero]
    exact Verdict.trace_require _ _ _ _ _ _

theorem NumberRule.alike_multipleOf (divisor : Double) :
    NumberRule.Alike (.multipleOf divisor) (.multipleOf divisor.unsignedZero) where
  keyword := rfl
  check x path := by
    simp only [NumberRule.check, NumberRule.divides_unsignedZero]
    exact Verdict.trace_require _ _ _ _ _ _

/-! ### Arrays -/

namespace ArrayRule

theorem alike_minItems (n : Nat) : ArrayRule.Alike (.minItems n) (.minItems n) where
  keyword := rfl
  check items path := by
    simp only [ArrayRule.check, List.length_map]

theorem alike_maxItems (n : Nat) : ArrayRule.Alike (.maxItems n) (.maxItems n) where
  keyword := rfl
  check items path := by
    simp only [ArrayRule.check, List.length_map]

theorem alike_uniqueItems (on : Bool) : ArrayRule.Alike (.uniqueItems on) (.uniqueItems on) where
  keyword := rfl
  check items path := by
    cases on with
    | false => rfl
    | true =>
      simp only [ArrayRule.check, if_true, checkUnique, Json.firstRepeat?_plain]
      cases Json.firstRepeat? items <;> rfl

section

variable {s s' : Schema} (h : s.Alike s')

include h

theorem trace_checkItems (path : Path) (position : Nat) (items : List Json) :
    (checkItems (fun v place => s'.check v place) path position (items.map Json.plain)).trace =
      (checkItems (fun v place => s.check v place) path position items).trace := by
  induction items generalizing position with
  | nil => rfl
  | cons v rest ih => exact Verdict.trace_and (h.check v _) (ih (position + 1))

theorem alike_items : ArrayRule.Alike (.items s) (.items s') where
  keyword := rfl
  check items path := trace_checkItems h path 0 items

theorem isOk_plain (v : Json) (path : Path) : (s'.check v.plain path).isOk = (s.check v path).isOk :=
  Verdict.isOk_of_trace (h.check v path)

theorem countValid_plain (path : Path) (items : List Json) :
    countValid (fun v => s'.check v path) (items.map Json.plain) = countValid (fun v => s.check v path) items := by
  simp only [countValid, List.countP_map, Function.comp_def, isOk_plain h]

theorem alike_contains : ArrayRule.Alike (.contains s) (.contains s') where
  keyword := rfl
  check items path := by
    simp only [ArrayRule.check, List.any_map, Function.comp_def, isOk_plain h]
    exact Verdict.trace_require _ _ _ _ _ _

theorem alike_minContains (n : Nat) : ArrayRule.Alike (.minContains n s) (.minContains n s') where
  keyword := rfl
  check items path := by
    simp only [ArrayRule.check, countValid_plain h]

theorem alike_maxContains (n : Nat) : ArrayRule.Alike (.maxContains n s) (.maxContains n s') where
  keyword := rfl
  check items path := by
    simp only [ArrayRule.check, countValid_plain h]

end

theorem trace_checkItemList {schemas schemas' : List Schema} (h : List.Forall₂ Schema.Alike schemas schemas')
    (path : Path) (position : Nat) (items : List Json) :
    (checkItemList schemas' path position (items.map Json.plain)).trace =
      (checkItemList schemas path position items).trace := by
  induction h generalizing position items with
  | nil => simp only [checkItemList]
  | cons first _ ih =>
    cases items with
    | nil => simp only [List.map_nil, checkItemList]
    | cons v rest =>
      simp only [List.map_cons, checkItemList]
      exact Verdict.trace_and (first.check v _) (ih (position + 1) rest)

theorem alike_itemList {schemas schemas' : List Schema} (h : List.Forall₂ Schema.Alike schemas schemas') :
    ArrayRule.Alike (.itemList schemas) (.itemList schemas') where
  keyword := rfl
  check items path := trace_checkItemList h path 0 items

end ArrayRule

/-! ### Objects -/

namespace ObjectRule

theorem checkPresent_plain (members : Members) (path : Path) (reason : String) (names : List String) :
    checkPresent (plainMembers members) path reason names = checkPresent members path reason names := by
  simp only [checkPresent, member?_plain, Option.isNone_map]

theorem alike_required (names : List String) : ObjectRule.Alike (.required names) (.required names) where
  keyword := rfl
  check members path := by
    simp only [ObjectRule.check, checkPresent_plain]

theorem alike_dependentRequired (triggers : List (String × List String)) :
    ObjectRule.Alike (.dependentRequired triggers) (.dependentRequired triggers) where
  keyword := rfl
  check members path := by
    simp only [ObjectRule.check, checkDependent, checkPresent_plain, member?_plain, Option.isSome_map]

theorem alike_minProperties (n : Nat) : ObjectRule.Alike (.minProperties n) (.minProperties n) where
  keyword := rfl
  check members path := by
    simp only [ObjectRule.check, plainMembers_eq_map, List.length_map]

theorem alike_maxProperties (n : Nat) : ObjectRule.Alike (.maxProperties n) (.maxProperties n) where
  keyword := rfl
  check members path := by
    simp only [ObjectRule.check, plainMembers_eq_map, List.length_map]

/-- The members are gone through in the same order. -/
theorem trace_checkMembers {check check' : String → Json → Path → Verdict}
    (h : ∀ key v place, (check' key v.plain place).trace = (check key v place).trace) (path : Path)
    (members : Members) :
    (checkMembers check' path (plainMembers members)).trace = (checkMembers check path members).trace := by
  induction members with
  | nil => rfl
  | cons m rest ih => exact Verdict.trace_and (h _ _ _) ih

theorem alike_propertyNames (rules : List StringRule) :
    ObjectRule.Alike (.propertyNames rules) (.propertyNames rules) where
  keyword := rfl
  check members path := trace_checkMembers (fun _ _ _ => rfl) path members

theorem trace_checkPatterns {patterns patterns' : List (Pattern × Schema)}
    (h : List.Forall₂ (fun p p' => p'.1 = p.1 ∧ p.2.Alike p'.2) patterns patterns') (key : String) (v : Json)
    (path : Path) : (checkPatterns patterns' key v.plain path).trace = (checkPatterns patterns key v path).trace := by
  induction h with
  | nil => simp only [checkPatterns]
  | @cons p p' _ _ first _ ih =>
    obtain ⟨pattern, s⟩ := p
    obtain ⟨pattern', s'⟩ := p'
    obtain ⟨rfl, alike⟩ := first
    simp only [checkPatterns]
    refine Verdict.trace_and ?_ ih
    by_cases matched : pattern'.matchesIn key
    · rw [if_pos matched, if_pos matched]
      exact alike.check v path
    · rw [if_neg matched, if_neg matched]

theorem alike_patternProperties {patterns patterns' : List (Pattern × Schema)}
    (h : List.Forall₂ (fun p p' => p'.1 = p.1 ∧ p.2.Alike p'.2) patterns patterns') :
    ObjectRule.Alike (.patternProperties patterns) (.patternProperties patterns') where
  keyword := rfl
  check members path := trace_checkMembers (fun key v place => trace_checkPatterns h key v place) path members

end ObjectRule

/-! ### Schemas -/

namespace Schema

theorem alike_string (rules : List StringRule) : (Schema.string rules).Alike (.string rules) where
  tree := rfl
  check v path := by
    cases v <;> rfl

theorem alike_integer (rules : List IntegerRule) : (Schema.integer rules).Alike (.integer rules) where
  tree := rfl
  check v path := by
    cases v with
    | number n =>
      simp only [Json.plain, Schema.check, Number.toInteger?_plain]
      cases n.toInteger? <;> rfl
    | _ => rfl

theorem alike_boolean : Schema.boolean.Alike .boolean where
  tree := rfl
  check v path := by
    cases v <;> rfl

theorem alike_null : Schema.null.Alike .null where
  tree := rfl
  check v path := by
    cases v <;> rfl

theorem map_keyword {ρ : Type} {R : ρ → ρ → Prop} {keyword : ρ → String}
    (same : ∀ r r', R r r' → keyword r' = keyword r) {rules rules' : List ρ} (h : List.Forall₂ R rules rules') :
    rules'.map keyword = rules.map keyword := by
  induction h with
  | nil => rfl
  | cons first _ ih => rw [List.map_cons, List.map_cons, same _ _ first, ih]

theorem alike_number {rules rules' : List NumberRule} (h : List.Forall₂ NumberRule.Alike rules rules') :
    (Schema.number rules).Alike (.number rules') where
  tree := by
    simp only [Schema.tree, Schema.type, Schema.keywords, map_keyword (fun _ _ alike => alike.keyword) h]
  check v path := by
    cases v with
    | number n =>
      simp only [Json.plain, Schema.check, Number.toDouble_plain, NumberRule.checkAll]
      refine Verdict.trace_all (h.imp fun r r' alike => ?_)
      rw [alike.keyword]
      exact Verdict.trace_labelled (alike.check _ path) _
    | _ => rfl

theorem alike_array {rules rules' : List ArrayRule} (h : List.Forall₂ ArrayRule.Alike rules rules') :
    (Schema.array rules).Alike (.array rules') where
  tree := by
    simp only [Schema.tree, Schema.type, Schema.keywords, map_keyword (fun _ _ alike => alike.keyword) h]
  check v path := by
    cases v with
    | array items =>
      simp only [Json.plain, Schema.check, checkArrayRules_eq_all, plainItems_eq_map]
      refine Verdict.trace_all (h.imp fun r r' alike => ?_)
      rw [alike.keyword]
      exact Verdict.trace_labelled (alike.check items path) _
    | _ => rfl

section

variable {properties properties' : List (String × Schema)}
  (h : List.Forall₂ (fun p p' => p'.1 = p.1 ∧ p.2.Alike p'.2) properties properties')

include h

theorem propertyTrees_alike : propertyTrees properties' = propertyTrees properties := by
  induction h with
  | nil => rfl
  | cons first _ ih =>
    obtain ⟨name, alike⟩ := first
    rw [propertyTrees, propertyTrees, name, alike.tree, ih]

theorem trace_checkProperties (members : Members) (path : Path) :
    (checkProperties properties' (plainMembers members) path).trace =
      (checkProperties properties members path).trace := by
  induction h with
  | nil => simp only [checkProperties]
  | @cons p p' _ _ first _ ih =>
    obtain ⟨name, s⟩ := p
    obtain ⟨name', s'⟩ := p'
    obtain ⟨rfl, alike⟩ := first
    simp only [checkProperties, member?_plain]
    refine Verdict.trace_and ?_ ih
    cases Json.member? members name' with
    | none => rfl
    | some v => exact alike.check v _

theorem alike_object {rules rules' : List ObjectRule} (hr : List.Forall₂ ObjectRule.Alike rules rules') :
    (Schema.object properties rules).Alike (.object properties' rules') where
  tree := by
    have empty : properties'.isEmpty = properties.isEmpty := by
      cases h <;> rfl
    simp only [Schema.tree, Schema.keywords, propertyTrees_alike h, empty,
      map_keyword (fun _ _ alike => alike.keyword) hr]
  check v path := by
    cases v with
    | object members =>
      simp only [Json.plain, Schema.check, checkObjectRules_eq_all]
      refine Verdict.trace_and (Verdict.trace_labelled (trace_checkProperties h members path) _) ?_
      refine Verdict.trace_all (hr.imp fun r r' alike => ?_)
      rw [alike.keyword]
      exact Verdict.trace_labelled (alike.check members path) _
    | _ => rfl

end

end Schema

end JsonSchema
