/-
  JsonSchema.Proofs.Rules — a schema judges a value by one rule after another.

  A value of another type is refused as such. For every other value each rule is a judge of its
  own, named by its keyword, and the properties of an object are a judge before all rules; the
  verdict of the schema is that of the first judge who does not let the value pass.

  Statements:
  - `check_eq_all`: the verdict of a schema from those of its judges.
  - `all_eq_error`: the first verdict that fails, and all before it pass.
-/

import JsonSchema.Schema.Check

namespace JsonSchema

open Json (Members)

/-- The value is of the type; an integer is one that a signed 64-bit integer holds. -/
def ValueType.fits : ValueType → Json → Bool
  | .string, .string _ => true
  | .integer, .number n => n.toInteger?.isSome
  | .number, .number _ => true
  | .object, .object _ => true
  | .array, .array _ => true
  | .boolean, .bool _ => true
  | .null, .null => true
  | _, _ => false

/-! ## Judges -/

/-- What is made of a value at a path. -/
abbrev Judge := Json → Path → Verdict

def StringRule.judge (r : StringRule) : Judge := fun v path =>
  match v with
  | .string text => (r.check text path).labelled r.keyword
  | _ => .pass

def IntegerRule.judge (r : IntegerRule) : Judge := fun v path =>
  match v with
  | .number n =>
    match n.toInteger? with
    | some i => (r.check i path).labelled r.keyword
    | none => .pass
  | _ => .pass

def NumberRule.judge (r : NumberRule) : Judge := fun v path =>
  match v with
  | .number n => (r.check n.toDouble path).labelled r.keyword
  | _ => .pass

def ArrayRule.judge (r : ArrayRule) : Judge := fun v path =>
  match v with
  | .array list => (r.check list path).labelled r.keyword
  | _ => .pass

def ObjectRule.judge (r : ObjectRule) : Judge := fun v path =>
  match v with
  | .object members => (r.check members path).labelled r.keyword
  | _ => .pass

def judgeProperties (properties : List (String × Schema)) : Judge := fun v path =>
  match v with
  | .object members => (checkProperties properties members path).labelled "properties"
  | _ => .pass

def Schema.judges : Schema → List Judge
  | .string rules => rules.map StringRule.judge
  | .integer rules => rules.map IntegerRule.judge
  | .number rules => rules.map NumberRule.judge
  | .object properties rules => judgeProperties properties :: rules.map ObjectRule.judge
  | .array rules => rules.map ArrayRule.judge
  | .boolean => []
  | .null => []

theorem checkArrayRules_eq_all (rules : List ArrayRule) (items : List Json) (path : Path) :
    checkArrayRules rules items path = .all (rules.map fun r => (r.check items path).labelled r.keyword) := by
  induction rules with
  | nil => rfl
  | cons r rest ih => rw [checkArrayRules, ih, List.map_cons, Verdict.all]

theorem checkObjectRules_eq_all (rules : List ObjectRule) (members : Members) (path : Path) :
    checkObjectRules rules members path = .all (rules.map fun r => (r.check members path).labelled r.keyword) := by
  induction rules with
  | nil => rfl
  | cons r rest ih => rw [checkObjectRules, ih, List.map_cons, Verdict.all]

/-- The verdict of a schema is that of its judges, where the type fits. -/
theorem check_eq_all (s : Schema) (v : Json) (path : Path) :
    s.check v path =
      if s.type.fits v then .all (s.judges.map fun judge => judge v path) else mismatch s.type v path := by
  cases s with
  | string rules =>
    cases v with
    | string text => simp [Schema.check, Schema.type, ValueType.fits, Schema.judges, StringRule.checkAll,
        Function.comp_def, StringRule.judge]
    | _ => rfl
  | integer rules =>
    cases v with
    | number n =>
      simp only [Schema.check, Schema.type, ValueType.fits, Schema.judges, List.map_map, Function.comp_def,
        IntegerRule.judge]
      cases n.toInteger? with
      | some i => simp [IntegerRule.checkAll]
      | none => rfl
    | _ => rfl
  | number rules =>
    cases v with
    | number n => simp [Schema.check, Schema.type, ValueType.fits, Schema.judges, NumberRule.checkAll,
        Function.comp_def, NumberRule.judge]
    | _ => rfl
  | object properties rules =>
    cases v with
    | object members => simp [Schema.check, Schema.type, ValueType.fits, Schema.judges, checkObjectRules_eq_all,
        Function.comp_def, ObjectRule.judge, judgeProperties, Verdict.all]
    | _ => rfl
  | array rules =>
    cases v with
    | array items => simp [Schema.check, Schema.type, ValueType.fits, Schema.judges, checkArrayRules_eq_all,
        Function.comp_def, ArrayRule.judge]
    | _ => rfl
  | boolean => cases v <;> rfl
  | null => cases v <;> rfl

/-! ## The first that fails -/

namespace Verdict

theorem all_append (a b : List Verdict) : all (a ++ b) = (all a).and (all b) := by
  induction a with
  | nil => rfl
  | cons v rest ih =>
    rw [List.cons_append, all, all, ih]
    cases v <;> rfl

/-- The verdict after those that pass. -/
theorem all_of_pass_before {before : List Verdict} (h : ∀ v ∈ before, v = pass) (rest : List Verdict) :
    all (before ++ rest) = all rest := by
  rw [all_append, all_eq_pass.mpr h]
  rfl

/-- What fails is the first verdict that does. -/
theorem all_eq_error {α : Type} {verdict : α → Verdict} {l : List α} {e : Violation}
    (h : all (l.map verdict) = .error e) :
    ∃ before x after, l = before ++ x :: after ∧ (∀ y ∈ before, verdict y = pass) ∧ verdict x = .error e := by
  induction l with
  | nil => cases h
  | cons x rest ih =>
    rw [List.map_cons, all] at h
    cases first : verdict x with
    | error d =>
      rw [first] at h
      refine ⟨[], x, rest, rfl, (by intro y hy; cases hy), ?_⟩
      rw [first]
      exact h
    | ok u =>
      rw [first] at h
      obtain ⟨before, y, after, rfl, passed, failed⟩ := ih h
      refine ⟨x :: before, y, after, rfl, fun z hz => ?_, failed⟩
      rcases List.mem_cons.mp hz with rfl | hz
      · exact first
      · exact passed z hz

end Verdict

end JsonSchema
