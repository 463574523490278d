/-
  JsonSchema.Proofs.Relocated — where something stands does not change what is made of it.

  A check is told the path of its value and compiling the path of its schema, both only to say where
  something went wrong. Behind another base, a check has the same outcome, and so has compiling;
  all that is different is that the paths of what went wrong start with the base (`under`).

  Statements:
  - `check_under`: the verdict on a value behind a base.
  - `compileNode_under`: a schema, or the defects, of a document behind a base.
  - `compileNode_elsewhere`: what compiles in one place compiles to the same in every other.
-/

import JsonSchema.Proofs.Parts
import JsonSchema.Schema.Check
import Mathlib.Data.List.Basic

namespace JsonSchema

open Json (Members)

namespace Path

theorem append_key (base path : Path) (name : String) : (base ++ path).key name = base ++ path.key name :=
  List.append_assoc _ _ _

theorem append_index (base path : Path) (i : Nat) : (base ++ path).index i = base ++ path.index i :=
  List.append_assoc _ _ _

end Path

/-! ## Verdicts -/

/-- The violation, seen from the start of a base. -/
def Violation.under (base : Path) (e : Violation) : Violation := { e with path := base ++ e.path }

namespace Verdict

def under (base : Path) (v : Verdict) : Verdict := v.mapError (·.under base)

section

variable (base path : Path) (v w : Verdict)

@[simp] theorem under_pass : pass.under base = pass := rfl

@[simp] theorem under_require (holds : Bool) (expected got : String) :
    (require holds path expected got).under base = require holds (base ++ path) expected got := by
  cases holds <;> rfl

@[simp] theorem under_labelled (keyword : String) :
    (v.labelled keyword).under base = (v.under base).labelled keyword := by
  cases v <;> rfl

@[simp] theorem under_and : (v.and w).under base = (v.under base).and (w.under base) := by
  cases v <;> rfl

@[simp] theorem isOk_under : (v.under base).isOk = v.isOk := by
  cases v <;> rfl

theorem under_all (verdicts : List Verdict) : (all verdicts).under base = all (verdicts.map (under base)) := by
  induction verdicts with
  | nil => rfl
  | cons v rest ih => rw [all, under_and, ih, List.map_cons, all]

/-- Verdicts that move with the path are moved together. -/
theorem all_under {α : Type} {f g : α → Verdict} {l : List α} (h : ∀ x ∈ l, f x = (g x).under base) :
    all (l.map f) = (all (l.map g)).under base := by
  rw [under_all, List.map_map]
  exact congrArg all (List.map_congr_left h)

end

end Verdict

/-! ## Checks -/

section

variable (base path : Path)

theorem StringRule.checkAll_under (text : String) (rules : List StringRule) :
    checkAll text (base ++ path) rules = (checkAll text path rules).under base := by
  refine Verdict.all_under base fun r _ => ?_
  rw [Verdict.under_labelled]
  cases r <;> simp only [StringRule.check, Verdict.under_require]

theorem IntegerRule.checkAll_under (n : Int) (rules : List IntegerRule) :
    checkAll n (base ++ path) rules = (checkAll n path rules).under base := by
  refine Verdict.all_under base fun r _ => ?_
  rw [Verdict.under_labelled]
  cases r <;> simp only [IntegerRule.check, Verdict.under_require]

theorem NumberRule.checkAll_under (x : Double) (rules : List NumberRule) :
    checkAll x (base ++ path) rules = (checkAll x path rules).under base := by
  refine Verdict.all_under base fun r _ => ?_
  rw [Verdict.under_labelled]
  cases r <;> simp only [NumberRule.check, Verdict.under_require]

theorem checkUnique_under (items : List Json) :
    checkUnique items (base ++ path) = (checkUnique items path).under base := by
  unfold checkUnique
  cases Json.firstRepeat? items with
  | none => rfl
  | some repeated =>
    show Verdict.fail ((base ++ path).index repeated.1) _ _ = _
    rw [Path.append_index]
    rfl

theorem checkPresent_under (members : Members) (reason : String) (names : List String) :
    checkPresent members (base ++ path) reason names = (checkPresent members path reason names).under base := by
  unfold checkPresent
  cases names.find? fun name => (Json.member? members name).isNone <;> rfl

theorem checkDependent_under (members : Members) (triggers : List (String × List String)) :
    checkDependent members (base ++ path) triggers = (checkDependent members path triggers).under base := by
  refine Verdict.all_under base fun t _ => ?_
  by_cases there : (Json.member? members t.1).isSome
  · simp only [there, if_true, checkPresent_under]
  · simp only [there]
    rfl

theorem checkItems_under {check : Json → Path → Verdict}
    (h : ∀ v place, check v (base ++ place) = (check v place).under base) (position : Nat) (items : List Json) :
    checkItems check (base ++ path) position items = (checkItems check path position items).under base := by
  induction items generalizing position with
  | nil => rfl
  | cons v rest ih => rw [checkItems, checkItems, Verdict.under_and, Path.append_index, h, ih]

theorem checkMembers_under {check : String → Json → Path → Verdict}
    (h : ∀ key v place, check key v (base ++ place) = (check key v place).under base) (members : Members) :
    checkMembers check (base ++ path) members = (checkMembers check path members).under base := by
  induction members with
  | nil => rfl
  | cons m rest ih => rw [checkMembers, checkMembers, Verdict.under_and, Path.append_key, h, ih]

end

mutual

/-- Behind a base, a value is judged alike, and a violation starts with the base. -/
theorem check_under (s : Schema) (v : Json) (base path : Path) :
    s.check v (base ++ path) = (s.check v path).under base := by
  cases s with
  | string rules =>
    cases v with
    | string text => exact StringRule.checkAll_under base path text rules
    | _ => rfl
  | integer rules =>
    cases v with
    | number n =>
      simp only [Schema.check]
      cases n.toInteger? with
      | some i => exact IntegerRule.checkAll_under base path i rules
      | none => rfl
    | _ => rfl
  | number rules =>
    cases v with
    | number n => exact NumberRule.checkAll_under base path n.toDouble rules
    | _ => rfl
  | object properties rules =>
    cases v with
    | object members =>
      simp only [Schema.check, Verdict.under_and, Verdict.under_labelled]
      rw [checkProperties_under, checkObjectRules_under]
    | _ => rfl
  | array rules =>
    cases v with
    | array items => exact checkArrayRules_under rules items base path
    | _ => rfl
  | boolean => cases v <;> rfl
  | null => cases v <;> rfl

theorem checkProperties_under (properties : List (String × Schema)) (members : Members) (base path : Path) :
    checkProperties properties members (base ++ path) = (checkProperties properties members path).under base := by
  match properties with
  | [] => rfl
  | (name, s) :: rest =>
    simp only [checkProperties, Verdict.under_and]
    rw [checkProperties_under rest]
    congr 1
    cases Json.member? members name with
    | none => rfl
    | some v =>
      simp only [Path.append_key]
      exact check_under s v base _

theorem checkArrayRules_under (rules : List ArrayRule) (items : List Json) (base path : Path) :
    checkArrayRules rules items (base ++ path) = (checkArrayRules rules items path).under base := by
  match rules with
  | [] => rfl
  | r :: rest =>
    simp only [checkArrayRules, Verdict.under_and, Verdict.under_labelled]
    rw [arrayRule_under r, checkArrayRules_under rest]

theorem arrayRule_under (r : ArrayRule) (items : List Json) (base path : Path) :
    r.check items (base ++ path) = (r.check items path).under base := by
  have counts (s : Schema) (h : ∀ v, s.check v (base ++ path) = (s.check v path).under base) :
      countValid (fun v => s.check v (base ++ path)) items = countValid (fun v => s.check v path) items := by
    simp only [countValid, h, Verdict.isOk_under]
  cases r with
  | minItems n => exact (Verdict.under_require _ _ _ _ _).symm
  | maxItems n => exact (Verdict.under_require _ _ _ _ _).symm
  | uniqueItems on =>
    cases on with
    | true => exact checkUnique_under base path items
    | false => rfl
  | items s => exact checkItems_under base path (fun v place => check_under s v base place) 0 items
  | itemList schemas => exact checkItemList_under schemas 0 items base path
  | contains s =>
    have same (v : Json) : (s.check v (base ++ path)).isOk = (s.check v path).isOk := by
      rw [check_under s v base path, Verdict.isOk_under]
    simp only [ArrayRule.check, Verdict.under_require, same]
  | minContains n s =>
    have same := counts s fun v => check_under s v base path
    simp only [ArrayRule.check, Verdict.under_require, same]
  | maxContains n s =>
    have same := counts s fun v => check_under s v base path
    simp only [ArrayRule.check, Verdict.under_require, same]

theorem checkItemList_under (schemas : List Schema) (position : Nat) (items : List Json) (base path : Path) :
    checkItemList schemas (base ++ path) position items = (checkItemList schemas path position items).under base := by
  match schemas, items with
  | [], _ => simp only [checkItemList, Verdict.under_pass]
  | s :: others, [] => simp only [checkItemList, Verdict.under_pass]
  | s :: others, v :: rest =>
    simp only [checkItemList, Verdict.under_and, Path.append_index]
    rw [check_under s v, checkItemList_under others]

theorem checkObjectRules_under (rules : List ObjectRule) (members : Members) (base path : Path) :
    checkObjectRules rules members (base ++ path) = (checkObjectRules rules members path).under base := by
  match rules with
  | [] => rfl
  | r :: rest =>
    simp only [checkObjectRules, Verdict.under_and, Verdict.under_labelled]
    rw [objectRule_under r, checkObjectRules_under rest]

theorem objectRule_under (r : ObjectRule) (members : Members) (base path : Path) :
    r.check members (base ++ path) = (r.check members path).under base := by
  cases r with
  | required names => exact checkPresent_under base path members "" names
  | dependentRequired triggers => exact checkDependent_under base path members triggers
  | minProperties n => exact (Verdict.under_require _ _ _ _ _).symm
  | maxProperties n => exact (Verdict.under_require _ _ _ _ _).symm
  | propertyNames rules =>
    exact checkMembers_under base path (fun key _ place => StringRule.checkAll_under base place key rules) members
  | patternProperties patterns =>
    exact checkMembers_under base path (fun key v place => checkPatterns_under patterns key v base place) members

theorem checkPatterns_under (patterns : List (Pattern × Schema)) (key : String) (v : Json) (base path : Path) :
    checkPatterns patterns key v (base ++ path) = (checkPatterns patterns key v path).under base := by
  match patterns with
  | [] => rfl
  | (p, s) :: rest =>
    simp only [checkPatterns, Verdict.under_and]
    rw [checkPatterns_under rest]
    congr 1
    by_cases matched : p.matchesIn key
    · rw [if_pos matched, if_pos matched]
      exact check_under s v base path
    · rw [if_neg matched, if_neg matched]
      rfl

end

/-! ## What is built -/

def Defect.under (base : Path) (d : Defect) : Defect := { d with path := base ++ d.path }

def Defects.under (base : Path) (ds : Defects) : Defects := ⟨ds.first.under base, ds.rest.map (·.under base)⟩

@[simp] theorem Defects.under_combine (base : Path) (ds es : Defects) :
    (ds.combine es).under base = (ds.under base).combine (es.under base) := by
  simp [under, combine, toList]

namespace Built

variable {α β : Type} (base path : Path)

def under (b : Built α) : Built α := b.mapError (·.under base)

@[simp] theorem under_ok (a : α) : under base (.ok a : Built α) = .ok a := rfl

theorem under_eq_ok {b : Built α} {a : α} : b.under base = .ok a ↔ b = .ok a := by
  cases b <;> simp [under, Except.mapError]

@[simp] theorem under_defect (cause : Defect.Cause) :
    (defect path cause : Built α).under base = defect (base ++ path) cause := rfl

@[simp] theorem under_map (f : α → β) (b : Built α) : under base (b.map f) = (b.under base).map f := by
  cases b <;> rfl

@[simp] theorem under_both (a : Built α) (b : Built β) :
    (a.both b).under base = (a.under base).both (b.under base) := by
  cases a <;> cases b <;> simp [under, both, Except.mapError]

theorem under_all (parts : List (Built α)) : (all parts).under base = all (parts.map (under base)) := by
  induction parts with
  | nil => rfl
  | cons b rest ih => rw [all, under_map, under_both, ih, List.map_cons, all]

end Built

/-! ## Keywords -/

section

variable (base path : Path) (keyword : String) (v : Json)

theorem badValue_under {α : Type} (expected : String) :
    (badValue keyword expected (base ++ path) v : Built α) = (badValue keyword expected path v).under base := by
  rw [badValue, badValue, Built.under_defect, Path.append_key]

theorem readCount_under : readCount keyword (base ++ path) v = (readCount keyword path v).under base := by
  cases v with
  | number n =>
    simp only [readCount]
    cases n.toCount? with
    | some _ => rfl
    | none => exact badValue_under base path keyword _ _
  | _ => exact badValue_under base path keyword _ _

theorem readNumber_under : readNumber keyword (base ++ path) v = (readNumber keyword path v).under base := by
  cases v with
  | number n => rfl
  | _ => exact badValue_under base path keyword _ _

theorem readInteger_under : readInteger keyword (base ++ path) v = (readInteger keyword path v).under base := by
  cases v with
  | number n =>
    simp only [readInteger]
    cases n.toInteger? with
    | some _ => rfl
    | none => exact badValue_under base path keyword _ _
  | _ => exact badValue_under base path keyword _ _

theorem readString_under : readString keyword (base ++ path) v = (readString keyword path v).under base := by
  cases v with
  | string _ => rfl
  | _ => exact badValue_under base path keyword _ _

theorem readBool_under : readBool keyword (base ++ path) v = (readBool keyword path v).under base := by
  cases v with
  | bool _ => rfl
  | _ => exact badValue_under base path keyword _ _

theorem readObject_under : readObject keyword (base ++ path) v = (readObject keyword path v).under base := by
  cases v with
  | object _ => rfl
  | _ => exact badValue_under base path keyword _ _

theorem readStrings_under : readStrings keyword (base ++ path) v = (readStrings keyword path v).under base := by
  unfold readStrings
  cases strings? v with
  | some _ => rfl
  | none => exact badValue_under base path keyword _ _

theorem compilePattern_under (source : String) :
    compilePattern keyword (base ++ path) source = (compilePattern keyword path source).under base := by
  unfold compilePattern
  cases Pattern.compile source <;> rfl

theorem readPattern_under : readPattern keyword (base ++ path) v = (readPattern keyword path v).under base := by
  unfold readPattern
  rw [readString_under]
  cases readString keyword path v with
  | ok source => exact Path.append_key base path keyword ▸ compilePattern_under base (path.key keyword) keyword source
  | error _ => rfl

theorem readFormat_under : readFormat keyword (base ++ path) v = (readFormat keyword path v).under base := by
  unfold readFormat
  rw [readString_under]
  cases readString keyword path v with
  | ok name =>
    simp only [Built.under_ok, Path.append_key]
    cases Format.ofName? name <;> rfl
  | error _ => rfl

theorem readIntegerDivisor_under :
    readIntegerDivisor keyword (base ++ path) v = (readIntegerDivisor keyword path v).under base := by
  unfold readIntegerDivisor
  rw [readInteger_under]
  cases readInteger keyword path v with
  | ok d =>
    simp only [Built.under_ok, Path.append_key]
    split <;> rfl
  | error _ => rfl

theorem readNumberDivisor_under :
    readNumberDivisor keyword (base ++ path) v = (readNumberDivisor keyword path v).under base := by
  unfold readNumberDivisor
  rw [readNumber_under]
  cases readNumber keyword path v with
  | ok d =>
    simp only [Built.under_ok, Path.append_key]
    split <;> rfl
  | error _ => rfl

theorem readDependent_under : readDependent keyword (base ++ path) v = (readDependent keyword path v).under base := by
  unfold readDependent
  rw [readObject_under]
  cases readObject keyword path v with
  | ok members =>
    simp only [Built.under_ok]
    split
    · rfl
    · exact badValue_under base path keyword _ _
  | error _ => rfl

end

def Entry.Moves {ρ : Type} (base : Path) (e : Entry ρ) : Prop :=
  ∀ path members v, e.build (base ++ path) members v = (e.build path members v).under base

section

variable {ρ : Type} {base : Path}

theorem Entry.moves_one {α : Type} {keyword : String} {read : String → Path → Json → Built α} {rule : α → ρ}
    (h : ∀ path v, read keyword (base ++ path) v = (read keyword path v).under base) :
    (Entry.one keyword read rule).Moves base := by
  intro path members v
  simp only [Entry.one, h, Built.under_map]

theorem rules_under {table : List (Entry ρ)} (h : ∀ e ∈ table, e.Moves base) (path : Path) (members : Members) :
    Entry.rules table (base ++ path) members = (Entry.rules table path members).under base := by
  unfold Entry.rules
  rw [Built.under_all, List.map_filterMap]
  refine congrArg Built.all (List.filterMap_congr fun e he => ?_)
  unfold Entry.build?
  rw [Option.map_map]
  exact congrArg (Option.map · _) (funext fun v => h e he path members v)

theorem stringTable_moves : ∀ e ∈ stringTable, e.Moves base := by
  simp only [stringTable, List.forall_mem_cons, List.not_mem_nil, false_imp_iff, implies_true, and_true]
  exact ⟨Entry.moves_one fun path v => readCount_under base path _ v,
    Entry.moves_one fun path v => readCount_under base path _ v,
    Entry.moves_one fun path v => readPattern_under base path _ v,
    Entry.moves_one fun path v => readFormat_under base path _ v⟩

theorem integerTable_moves : ∀ e ∈ integerTable, e.Moves base := by
  simp only [integerTable_eq, List.forall_mem_cons, List.not_mem_nil, false_imp_iff, implies_true, and_true]
  have bound (b : Bound) (keyword : String) : (Entry.one keyword readInteger (IntegerRule.bound b)).Moves base :=
    Entry.moves_one fun path v => readInteger_under base path keyword v
  exact ⟨bound _ _, bound _ _, bound _ _, bound _ _,
    Entry.moves_one fun path v => readIntegerDivisor_under base path _ v⟩

theorem numberTable_moves : ∀ e ∈ numberTable, e.Moves base := by
  simp only [numberTable_eq, List.forall_mem_cons, List.not_mem_nil, false_imp_iff, implies_true, and_true]
  have bound (b : Bound) (keyword : String) : (Entry.one keyword readNumber (NumberRule.bound b)).Moves base :=
    Entry.moves_one fun path v => readNumber_under base path keyword v
  exact ⟨bound _ _, bound _ _, bound _ _, bound _ _,
    Entry.moves_one fun path v => readNumberDivisor_under base path _ v⟩

variable {sub : Path → Json → Built Schema} (below : ∀ path raw, sub (base ++ path) raw = (sub path raw).under base)

include below

theorem readItems_under (keyword : String) (path : Path) (v : Json) :
    readItems sub keyword (base ++ path) v = (readItems sub keyword path v).under base := by
  cases v with
  | object ms => simp only [readItems, Path.append_key, below, Built.under_map]
  | array schemas =>
    simp only [readItems, Path.append_key, Path.append_index, below, Built.under_map, Built.under_all]
    rw [List.mapIdx_eq_zipIdx_map, List.mapIdx_eq_zipIdx_map, List.map_map]
    rfl
  | _ => exact badValue_under base path keyword _ _

theorem countContained_moves (keyword : String) (rule : Nat → Schema → ArrayRule) :
    (countContained sub keyword rule).Moves base := by
  intro path members v
  simp only [countContained, Entry.beside]
  cases Json.member? members "contains" with
  | none => simp only [Path.append_key, Built.under_defect]
  | some contained =>
    simp only [Path.append_key, below, readCount_under, Built.under_map, Built.under_both]

theorem arrayTable_moves : ∀ e ∈ arrayTable sub, e.Moves base := by
  simp only [arrayTable, List.forall_mem_cons, List.not_mem_nil, false_imp_iff, implies_true, and_true]
  exact ⟨Entry.moves_one fun path v => readCount_under base path _ v,
    Entry.moves_one fun path v => readCount_under base path _ v,
    Entry.moves_one fun path v => readBool_under base path _ v,
    Entry.moves_one fun path v => readItems_under below _ path v,
    Entry.moves_one fun path v => by rw [Path.append_key, below],
    countContained_moves below _ _, countContained_moves below _ _⟩

theorem readPatterns_under (keyword : String) (path : Path) (v : Json) :
    readPatterns sub keyword (base ++ path) v = (readPatterns sub keyword path v).under base := by
  unfold readPatterns
  rw [readObject_under]
  cases readObject keyword path v with
  | ok sources =>
    simp only [Built.under_ok, Path.append_key, below, compilePattern_under, Built.under_all, List.map_map,
      Function.comp_def, Built.under_both]
  | error _ => rfl

theorem readProperties_under (path : Path) (members : Members) :
    readProperties sub (base ++ path) members = (readProperties sub path members).under base := by
  cases found : Json.member? members "properties" with
  | none =>
    rw [readProperties, readProperties, found]
    rfl
  | some v =>
    cases v with
    | object declared =>
      rw [readProperties_object _ found, readProperties_object _ found, Built.under_all, List.map_map]
      refine congrArg Built.all (List.map_congr_left fun m _ => ?_)
      simp only [Function.comp_apply, Path.append_key, below, Built.under_map]
    | _ =>
      rw [readProperties, readProperties, found]
      simp only [Path.append_key, Built.under_defect]

theorem objectTable_moves {names : Path → Json → Built (List StringRule)}
    (texts : ∀ path raw, names (base ++ path) raw = (names path raw).under base) :
    ∀ e ∈ objectTable sub names, e.Moves base := by
  simp only [objectTable, List.forall_mem_cons, List.not_mem_nil, false_imp_iff, implies_true, and_true]
  exact ⟨Entry.moves_one fun path v => readStrings_under base path _ v,
    Entry.moves_one fun path v => readDependent_under base path _ v,
    Entry.moves_one fun path v => readCount_under base path _ v,
    Entry.moves_one fun path v => readCount_under base path _ v,
    Entry.moves_one fun path v => by rw [Path.append_key, texts],
    Entry.moves_one fun path v => readPatterns_under below _ path v⟩

end

/-! ## Schemas -/

theorem openNode_under (base : Path) (needed : Option ValueType) (path : Path) (raw : Json) :
    openNode needed (base ++ path) raw = (openNode needed path raw).under base := by
  cases raw with
  | object members =>
    simp only [openNode, Path.append_key]
    cases resolveType needed (Json.member? members "type") <;> rfl
  | _ => rfl

theorem compileNames_under (limit levels : Nat) (base path : Path) (raw : Json) :
    compileNames limit levels (base ++ path) raw = (compileNames limit levels path raw).under base := by
  cases levels with
  | zero => rfl
  | succ levels =>
    simp only [compileNames, openNode_under]
    cases openNode (some .string) path raw with
    | error _ => rfl
    | ok opened => exact rules_under stringTable_moves path opened.2

/-- Behind a base, a document compiles to the same schema, and its defects start with the base. -/
theorem compileNode_under (limit levels : Nat) (base path : Path) (raw : Json) :
    compileNode limit levels (base ++ path) raw = (compileNode limit levels path raw).under base := by
  induction levels generalizing path raw with
  | zero => rfl
  | succ levels ih =>
    simp only [compileNode, openNode_under]
    cases openNode none path raw with
    | error _ => rfl
    | ok opened =>
      obtain ⟨type, members⟩ := opened
      have table {ρ : Type} {table : List (Entry ρ)} (moves : ∀ e ∈ table, e.Moves base) (make : List ρ → Schema) :
          (Entry.rules table (base ++ path) members).map make =
            Built.under base ((Entry.rules table path members).map make) := by
        rw [rules_under moves, Built.under_map]
      cases type with
      | string => exact table stringTable_moves _
      | integer => exact table integerTable_moves _
      | number => exact table numberTable_moves _
      | boolean => rfl
      | null => rfl
      | array => exact table (arrayTable_moves ih) _
      | object =>
        have names : ∀ path raw, compileNames limit levels (base ++ path) raw = _ :=
          compileNames_under limit levels base
        have properties := readProperties_under ih path members
        have rules := rules_under (objectTable_moves ih names) path members
        simp only [Built.under_ok, properties, rules, Built.under_map, Built.under_both]

/-- What compiles in one place compiles to the same in every other. -/
theorem compileNode_elsewhere {limit levels : Nat} {path : Path} {raw : Json} {s : Schema} (other : Path)
    (h : compileNode limit levels path raw = .ok s) : compileNode limit levels other raw = .ok s := by
  have from_root (place : Path) :
      compileNode limit levels place raw = (compileNode limit levels [] raw).under place := by
    simpa using compileNode_under limit levels place [] raw
  rw [from_root, Built.under_eq_ok] at h
  rw [from_root, Built.under_eq_ok]
  exact h

end JsonSchema
