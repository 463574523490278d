/-
  JsonSchema.Proofs.Violations — all violations, and the first of them.

  `violations` goes through a value without stopping at what it finds: a value of another type
  breaks the schema in one way, and every other value in all the ways of its keywords, one after
  another. A repeated item counts once at each position where it is repeated; what items lack for
  `contains` stays inside; a violation in an item or a member keeps its own keyword.

  Statements:
  - `named_violations`: every violation names its keyword, so that no keyword around it names it.
  - `check_eq_first`: a check that stops at the first violation finds the first of all.
  - `validateAt_first`: a value is valid just when there is no violation, and otherwise the answer
    is the first, with its path, keyword and both texts.
-/

import JsonSchema.Proofs.Compiled
import JsonSchema.Proofs.Equality
import JsonSchema.Schema.Check

namespace JsonSchema

open Json (Members)

namespace Verdict

def first : List Violation → Verdict
  | [] => pass
  | e :: _ => .error e

theorem first_append (a b : List Violation) : first (a ++ b) = (first a).and (first b) := by
  cases a <;> rfl

theorem first_flatMap {α : Type} (f : α → List Violation) (l : List α) :
    first (l.flatMap f) = all (l.map fun x => first (f x)) := by
  induction l with
  | nil => rfl
  | cons x rest ih => rw [List.flatMap_cons, first_append, ih]; rfl

theorem isOk_of_eq_first {v : Verdict} {l : List Violation} (h : v = first l) : v.isOk = l.isEmpty := by
  subst h
  cases l <;> rfl

theorem first_eq_pass {l : List Violation} : first l = pass ↔ l = [] := by
  cases l <;> simp [first, pass]

theorem first_eq_error {l : List Violation} {e : Violation} : first l = .error e ↔ l.head? = some e := by
  cases l <;> simp [first, pass]

end Verdict

/-! ## All violations -/

/-- The violation of a keyword that looks at a value only. -/
def own (keyword : String) (v : Verdict) : List Violation :=
  match v with
  | .ok _ => []
  | .error e => [{ e with keyword := some keyword }]

def mismatched (type : ValueType) (v : Json) (path : Path) : Violation :=
  ⟨path, some "type", type.name, v.kindName⟩

def StringRule.violations (text : String) (path : Path) (rules : List StringRule) : List Violation :=
  rules.flatMap fun r => own r.keyword (r.check text path)

def IntegerRule.violations (n : Int) (path : Path) (rules : List IntegerRule) : List Violation :=
  rules.flatMap fun r => own r.keyword (r.check n path)

def NumberRule.violations (n : Double) (path : Path) (rules : List NumberRule) : List Violation :=
  rules.flatMap fun r => own r.keyword (r.check n path)

def repeated (path : Path) (item : Json × Nat) : Violation :=
  ⟨path.index item.2, some "uniqueItems", "unique items", "duplicate item " ++ item.1.render⟩

mutual

def Schema.violations (s : Schema) (v : Json) (path : Path) : List Violation :=
  match s with
  | .string rules =>
    match v with
    | .string text => StringRule.violations text path rules
    | _ => [mismatched .string v path]
  | .integer rules =>
    match v with
    | .number n =>
      match n.toInteger? with
      | some i => IntegerRule.violations i path rules
      | none => [mismatched .integer v path]
    | _ => [mismatched .integer v path]
  | .number rules =>
    match v with
    | .number n => NumberRule.violations n.toDouble path rules
    | _ => [mismatched .number v path]
  | .object properties rules =>
    match v with
    | .object members => propertyViolations properties members path ++ objectViolations rules members path
    | _ => [mismatched .object v path]
  | .array rules =>
    match v with
    | .array items => arrayViolations rules items path
    | _ => [mismatched .array v path]
  | .boolean =>
    match v with
    | .bool _ => []
    | _ => [mismatched .boolean v path]
  | .null =>
    match v with
    | .null => []
    | _ => [mismatched .null v path]

def propertyViolations (properties : List (String × Schema)) (members : Members) (path : Path) :
    List Violation :=
  match properties with
  | [] => []
  | (name, s) :: rest =>
    (match Json.member? members name with
      | some v => s.violations v (path.key name)
      | none => []) ++ propertyViolations rest members path

def arrayViolations (rules : List ArrayRule) (items : List Json) (path : Path) : List Violation :=
  match rules with
  | [] => []
  | r :: rest => r.violations items path ++ arrayViolations rest items path

def ArrayRule.violations (r : ArrayRule) (items : List Json) (path : Path) : List Violation :=
  match r with
  | .minItems n => own "minItems" (ArrayRule.check (.minItems n) items path)
  | .maxItems n => own "maxItems" (ArrayRule.check (.maxItems n) items path)
  | .uniqueItems on => if on then (Json.repeats items).map (repeated path) else []
  | .items s => items.zipIdx.flatMap fun (v, i) => s.violations v (path.index i)
  | .itemList schemas => listViolations schemas path 0 items
  | .contains s =>
    if items.any fun v => (s.violations v path).isEmpty then []
    else [⟨path, some "contains", s.type.name, "[" ++ ", ".intercalate (kindsOf items) ++ "]"⟩]
  | .minContains n s =>
    let found := items.countP fun v => (s.violations v path).isEmpty
    if n ≤ found then []
    else [⟨path, some "minContains", s!"at least {n} matching items", s!"{found} matching items"⟩]
  | .maxContains n s =>
    let found := items.countP fun v => (s.violations v path).isEmpty
    if found ≤ n then []
    else [⟨path, some "maxContains", s!"at most {n} matching items", s!"{found} matching items"⟩]

def listViolations (schemas : List Schema) (path : Path) (position : Nat) (items : List Json) :
    List Violation :=
  match schemas with
  | [] => []
  | s :: others =>
    match items with
    | [] => []
    | v :: rest => s.violations v (path.index position) ++ listViolations others path (position + 1) rest

def objectViolations (rules : List ObjectRule) (members : Members) (path : Path) : List Violation :=
  match rules with
  | [] => []
  | r :: rest => r.violations members path ++ objectViolations rest members path

def ObjectRule.violations (r : ObjectRule) (members : Members) (path : Path) : List Violation :=
  match r with
  | .required names => own "required" (checkPresent members path "" names)
  | .dependentRequired triggers => own "dependentRequired" (checkDependent members path triggers)
  | .minProperties n => own "minProperties" (ObjectRule.check (.minProperties n) members path)
  | .maxProperties n => own "maxProperties" (ObjectRule.check (.maxProperties n) members path)
  | .propertyNames rules =>
    members.flatMap fun (key, _) => StringRule.violations key (path.key key) rules
  | .patternProperties patterns =>
    members.flatMap fun (key, v) => patternViolations patterns key v (path.key key)

def patternViolations (patterns : List (Pattern × Schema)) (key : String) (v : Json) (path : Path) :
    List Violation :=
  match patterns with
  | [] => []
  | (p, s) :: rest =>
    (if p.matchesIn key then s.violations v path else []) ++ patternViolations rest key v path

end

/-! ## Keywords of violations -/

def Named (l : List Violation) : Prop := ∀ e ∈ l, e.keyword.isSome

theorem Named.nil : Named [] := fun _ h => nomatch h

theorem Named.single {path : Path} {keyword expected got : String} :
    Named [⟨path, some keyword, expected, got⟩] := fun _ h => by
  obtain rfl := List.mem_singleton.mp h
  rfl

theorem Named.append {a b : List Violation} (ha : Named a) (hb : Named b) : Named (a ++ b) := fun e h =>
  (List.mem_append.mp h).elim (ha e) (hb e)

theorem Named.flatMap {α : Type} {f : α → List Violation} {l : List α} (h : ∀ x ∈ l, Named (f x)) :
    Named (l.flatMap f) := fun e he => by
  obtain ⟨x, hx, he⟩ := List.mem_flatMap.mp he
  exact h x hx e he

theorem Named.ite {p : Prop} [Decidable p] {a b : List Violation} (ha : Named a) (hb : Named b) :
    Named (if p then a else b) := by
  split
  · exact ha
  · exact hb

theorem named_own (keyword : String) (v : Verdict) : Named (own keyword v) := by
  cases v with
  | ok _ => exact .nil
  | error _ => exact .single

theorem named_string (text : String) (path : Path) (rules : List StringRule) :
    Named (StringRule.violations text path rules) := .flatMap fun _ _ => named_own _ _

mutual

theorem named_violations (s : Schema) (v : Json) (path : Path) : Named (s.violations v path) := by
  cases s with
  | string rules =>
    cases v with
    | string text => exact named_string text path rules
    | _ => exact .single
  | integer rules =>
    cases v with
    | number n =>
      simp only [Schema.violations]
      cases n.toInteger? with
      | some i => exact .flatMap fun _ _ => named_own _ _
      | none => exact .single
    | _ => exact .single
  | number rules =>
    cases v with
    | number n => exact .flatMap fun _ _ => named_own _ _
    | _ => exact .single
  | object properties rules =>
    cases v with
    | object members => exact (named_properties properties members path).append (named_objectRules rules members path)
    | _ => exact .single
  | array rules =>
    cases v with
    | array items => exact named_arrayRules rules items path
    | _ => exact .single
  | boolean =>
    cases v with
    | bool _ => exact .nil
    | _ => exact .single
  | null =>
    cases v with
    | null => exact .nil
    | _ => exact .single

theorem named_properties (properties : List (String × Schema)) (members : Members) (path : Path) :
    Named (propertyViolations properties members path) := by
  match properties with
  | [] => exact .nil
  | (name, s) :: rest =>
    refine .append ?_ (named_properties rest members path)
    cases Json.member? members name with
    | some v => exact named_violations s v _
    | none => exact .nil

theorem named_arrayRules (rules : List ArrayRule) (items : List Json) (path : Path) :
    Named (arrayViolations rules items path) := by
  match rules with
  | [] => exact .nil
  | r :: rest => exact (named_arrayRule r items path).append (named_arrayRules rest items path)

theorem named_arrayRule (r : ArrayRule) (items : List Json) (path : Path) : Named (r.violations items path) := by
  cases r with
  | minItems n => exact named_own _ _
  | maxItems n => exact named_own _ _
  | uniqueItems on =>
    refine .ite (fun e h => ?_) .nil
    obtain ⟨item, -, rfl⟩ := List.mem_map.mp h
    rfl
  | items s => exact .flatMap fun _ _ => named_violations s _ _
  | itemList schemas => exact named_list schemas path 0 items
  | contains s => exact .ite .nil .single
  | minContains n s => exact .ite .nil .single
  | maxContains n s => exact .ite .nil .single

theorem named_list (schemas : List Schema) (path : Path) (position : Nat) (items : List Json) :
    Named (listViolations schemas path position items) := by
  match schemas, items with
  | [], _ => exact .nil
  | _ :: _, [] => exact .nil
  | s :: others, v :: rest => exact (named_violations s v _).append (named_list others path (position + 1) rest)

theorem named_objectRules (rules : List ObjectRule) (members : Members) (path : Path) :
    Named (objectViolations rules members path) := by
  match rules with
  | [] => exact .nil
  | r :: rest => exact (named_objectRule r members path).append (named_objectRules rest members path)

theorem named_objectRule (r : ObjectRule) (members : Members) (path : Path) : Named (r.violations members path) := by
  cases r with
  | required _ => exact named_own _ _
  | dependentRequired _ => exact named_own _ _
  | minProperties _ => exact named_own _ _
  | maxProperties _ => exact named_own _ _
  | propertyNames rules => exact .flatMap fun _ _ => named_string _ _ rules
  | patternProperties patterns => exact .flatMap fun _ _ => named_patterns patterns _ _ _

theorem named_patterns (patterns : List (Pattern × Schema)) (key : String) (v : Json) (path : Path) :
    Named (patternViolations patterns key v path) := by
  match patterns with
  | [] => exact .nil
  | (p, s) :: rest =>
    exact .append (.ite (named_violations s v path) .nil) (named_patterns rest key v path)

end

/-! ## The first violation -/

section

variable {path : Path} {keyword : String}

/-- What is named keeps its keyword. -/
theorem labelled_first {l : List Violation} (h : Named l) : (Verdict.first l).labelled keyword = .first l := by
  cases l with
  | nil => rfl
  | cons e rest =>
    have named := h e List.mem_cons_self
    obtain ⟨path, _ | keyword, expected, got⟩ := e
    · cases named
    · rfl

/-- A check that names no keyword itself. -/
theorem labelled_require {holds : Bool} {expected got : String} :
    (Verdict.require holds path expected got).labelled keyword =
      .first (if holds then [] else [⟨path, some keyword, expected, got⟩]) := by
  cases holds <;> rfl

def Unnamed (v : Verdict) : Prop := ∀ e, v = .error e → e.keyword = none

theorem Unnamed.require {holds : Bool} {expected got : String} : Unnamed (.require holds path expected got) := by
  intro e h
  cases holds <;> cases h
  rfl

theorem labelled_own {v : Verdict} (h : Unnamed v) : v.labelled keyword = .first (own keyword v) := by
  cases v with
  | ok _ => rfl
  | error e =>
    have none := h e rfl
    obtain ⟨path, keyword', expected, got⟩ := e
    subst none
    rfl

theorem unnamed_present {members : Members} {reason : String} {names : List String} :
    Unnamed (checkPresent members path reason names) := by
  intro e h
  unfold checkPresent at h
  split at h
  · cases h
  · obtain rfl := Except.error.inj h
    rfl

theorem Unnamed.all {verdicts : List Verdict} (h : ∀ v ∈ verdicts, Unnamed v) : Unnamed (.all verdicts) := by
  induction verdicts with
  | nil => exact fun _ h => nomatch h
  | cons v rest ih =>
    have first := h v List.mem_cons_self
    have later := ih fun w hw => h w (List.mem_cons_of_mem _ hw)
    cases v with
    | ok _ => exact later
    | error e => exact first

theorem unnamed_dependent {members : Members} {triggers : List (String × List String)} :
    Unnamed (checkDependent members path triggers) := by
  refine Unnamed.all fun v hv => ?_
  obtain ⟨⟨trigger, names⟩, -, rfl⟩ := List.mem_map.mp hv
  dsimp only
  split
  · exact unnamed_present
  · exact fun _ h => nomatch h

/-- Rules that name no keyword themselves are named one by one. -/
theorem all_labelled_eq_first {ρ : Type} {check : ρ → Verdict} {keyword : ρ → String} (h : ∀ r, Unnamed (check r))
    (rules : List ρ) : Verdict.all (rules.map fun r => (check r).labelled (keyword r)) =
      .first (rules.flatMap fun r => own (keyword r) (check r)) := by
  rw [Verdict.first_flatMap]
  congr 1
  exact List.map_congr_left fun r _ => labelled_own (h r)

variable (path)

theorem StringRule.checkAll_eq_first (text : String) (rules : List StringRule) :
    checkAll text path rules = .first (violations text path rules) :=
  all_labelled_eq_first (fun r => by cases r <;> exact .require) rules

theorem IntegerRule.checkAll_eq_first (n : Int) (rules : List IntegerRule) :
    checkAll n path rules = .first (violations n path rules) :=
  all_labelled_eq_first (fun r => by cases r <;> exact .require) rules

theorem NumberRule.checkAll_eq_first (n : Double) (rules : List NumberRule) :
    checkAll n path rules = .first (violations n path rules) :=
  all_labelled_eq_first (fun r => by cases r <;> exact .require) rules

/-- The first repeated item, and all of them. -/
theorem checkUnique_eq_first (items : List Json) :
    (checkUnique items path).labelled "uniqueItems" = .first ((Json.repeats items).map (repeated path)) := by
  unfold checkUnique
  rw [Json.firstRepeat?_eq]
  cases Json.repeats items <;> rfl

theorem checkItems_eq_first {check : Json → Path → Verdict} {violations : Json → Path → List Violation}
    (h : ∀ v place, check v place = .first (violations v place)) (position : Nat) (items : List Json) :
    checkItems check path position items =
      .first ((items.zipIdx position).flatMap fun (v, i) => violations v (path.index i)) := by
  induction items generalizing position with
  | nil => rfl
  | cons v rest ih =>
    rw [List.zipIdx_cons, List.flatMap_cons, Verdict.first_append, checkItems, ih, h]

theorem checkMembers_eq_first {check : String → Json → Path → Verdict}
    {violations : String → Json → Path → List Violation}
    (h : ∀ key v place, check key v place = .first (violations key v place)) (members : Members) :
    checkMembers check path members = .first (members.flatMap fun (key, v) => violations key v (path.key key)) := by
  induction members with
  | nil => rfl
  | cons m rest ih =>
    obtain ⟨key, v⟩ := m
    rw [List.flatMap_cons, Verdict.first_append, checkMembers, ih, h]

end

mutual

/-- The check of a schema finds the first violation of all. -/
theorem check_eq_first (s : Schema) (v : Json) (path : Path) : s.check v path = .first (s.violations v path) := by
  cases s with
  | string rules =>
    cases v with
    | string text => exact StringRule.checkAll_eq_first path text rules
    | _ => rfl
  | integer rules =>
    cases v with
    | number n =>
      simp only [Schema.check, Schema.violations]
      cases n.toInteger? with
      | some i => exact IntegerRule.checkAll_eq_first path i rules
      | none => rfl
    | _ => rfl
  | number rules =>
    cases v with
    | number n => exact NumberRule.checkAll_eq_first path n.toDouble rules
    | _ => rfl
  | object properties rules =>
    cases v with
    | object members =>
      simp only [Schema.check, Schema.violations]
      rw [Verdict.first_append, properties_eq_first properties members path, objectRules_eq_first rules members path,
        labelled_first (named_properties properties members path)]
    | _ => rfl
  | array rules =>
    cases v with
    | array items => exact arrayRules_eq_first rules items path
    | _ => rfl
  | boolean => cases v <;> rfl
  | null => cases v <;> rfl

theorem properties_eq_first (properties : List (String × Schema)) (members : Members) (path : Path) :
    checkProperties properties members path = .first (propertyViolations properties members path) := by
  match properties with
  | [] => rfl
  | (name, s) :: rest =>
    rw [checkProperties, propertyViolations, Verdict.first_append, properties_eq_first rest members path]
    cases Json.member? members name with
    | some v => simp only [check_eq_first s v (path.key name)]
    | none => rfl

theorem arrayRules_eq_first (rules : List ArrayRule) (items : List Json) (path : Path) :
    checkArrayRules rules items path = .first (arrayViolations rules items path) := by
  match rules with
  | [] => rfl
  | r :: rest =>
    rw [checkArrayRules, arrayViolations, Verdict.first_append, arrayRule_eq_first r items path,
      arrayRules_eq_first rest items path]

theorem arrayRule_eq_first (r : ArrayRule) (items : List Json) (path : Path) :
    (r.check items path).labelled r.keyword = .first (r.violations items path) := by
  have named := named_arrayRule r items path
  cases r with
  | minItems n => exact labelled_own .require
  | maxItems n => exact labelled_own .require
  | uniqueItems on =>
    cases on with
    | true => exact checkUnique_eq_first path items
    | false => rfl
  | items s =>
    have each := checkItems_eq_first path (fun v place => check_eq_first s v place) 0 items
    exact (congrArg _ each).trans (labelled_first named)
  | itemList schemas =>
    exact (congrArg _ (list_eq_first schemas path 0 items)).trans (labelled_first named)
  | contains s =>
    have valid (v : Json) := Verdict.isOk_of_eq_first (check_eq_first s v path)
    simp only [ArrayRule.check, ArrayRule.violations, valid]
    exact labelled_require
  | minContains n s =>
    have valid (v : Json) := Verdict.isOk_of_eq_first (check_eq_first s v path)
    simp only [ArrayRule.check, ArrayRule.violations, countValid, valid, labelled_require, decide_eq_true_iff]
    rfl
  | maxContains n s =>
    have valid (v : Json) := Verdict.isOk_of_eq_first (check_eq_first s v path)
    simp only [ArrayRule.check, ArrayRule.violations, countValid, valid, labelled_require, decide_eq_true_iff]
    rfl

theorem list_eq_first (schemas : List Schema) (path : Path) (position : Nat) (items : List Json) :
    checkItemList schemas path position items = .first (listViolations schemas path position items) := by
  match schemas, items with
  | [], _ => rfl
  | _ :: _, [] => rfl
  | s :: others, v :: rest =>
    rw [checkItemList, listViolations, Verdict.first_append, check_eq_first s v (path.index position),
      list_eq_first others path (position + 1) rest]

theorem objectRules_eq_first (rules : List ObjectRule) (members : Members) (path : Path) :
    checkObjectRules rules members path = .first (objectViolations rules members path) := by
  match rules with
  | [] => rfl
  | r :: rest =>
    rw [checkObjectRules, objectViolations, Verdict.first_append, objectRule_eq_first r members path,
      objectRules_eq_first rest members path]

theorem objectRule_eq_first (r : ObjectRule) (members : Members) (path : Path) :
    (r.check members path).labelled r.keyword = .first (r.violations members path) := by
  have named := named_objectRule r members path
  cases r with
  | required names => exact labelled_own unnamed_present
  | dependentRequired triggers => exact labelled_own unnamed_dependent
  | minProperties n => exact labelled_own .require
  | maxProperties n => exact labelled_own .require
  | propertyNames rules =>
    have each := checkMembers_eq_first path
      (fun key (_ : Json) place => StringRule.checkAll_eq_first place key rules) members
    exact (congrArg _ each).trans (labelled_first named)
  | patternProperties patterns =>
    have each := checkMembers_eq_first path (fun key v place => patterns_eq_first patterns key v place) members
    exact (congrArg _ each).trans (labelled_first named)

theorem patterns_eq_first (patterns : List (Pattern × Schema)) (key : String) (v : Json) (path : Path) :
    checkPatterns patterns key v path = .first (patternViolations patterns key v path) := by
  match patterns with
  | [] => rfl
  | (p, s) :: rest =>
    rw [checkPatterns, patternViolations, Verdict.first_append, patterns_eq_first rest key v path]
    split
    · rw [check_eq_first s v path]
    · rfl

end

/-- A value is valid just when nothing breaks the schema, and otherwise the answer is the first of all
    violations, whole. Properties and patterns are gone through in ascending order. -/
theorem validateAt_first (s : Schema) (v : Json) (base : Path) :
    (s.validateAt v base = .pass ↔ s.violations v base = []) ∧
      (∀ e, s.validateAt v base = .error e ↔ (s.violations v base).head? = some e) ∧
      ∀ depth raw, raw.WellFormed → Schema.compileWithin depth raw = .ok s → s.Sorted := by
  have first : s.validateAt v base = .first (s.violations v base) := check_eq_first s v base
  rw [first]
  exact ⟨Verdict.first_eq_pass, fun e => Verdict.first_eq_error, fun _ _ h hs => compileWithin_sorted h hs⟩

/-- A schema with two properties of different types, and a third one that has to be there. -/
def flags : Json :=
  .object [("properties", .object [("a", .object [("type", .string "boolean")]),
      ("b", .object [("type", .string "null")])]),
    ("required", .array [.string "c"]), ("type", .string "object")]

def flagsSchema : Schema := .object [("a", .boolean), ("b", .null)] [.required ["c"]]

/-- Three ways to break the schema at once; the first of them is the answer. -/
theorem validateAt_first_flags :
    flags.WellFormed ∧ Schema.compileWithin 1 flags = .ok flagsSchema ∧ flagsSchema.Sorted ∧
      (flagsSchema.violations (.object [("a", .null), ("b", .bool true)]) []).length = 3 ∧
      flagsSchema.validateAt (.object [("a", .null), ("b", .bool true)]) [] =
        .error ⟨[.key "a"], some "type", "boolean", "null"⟩ := by
  have wellFormed : flags.WellFormed := by
    simp only [flags, Json.WellFormed, Json.WellFormedMembers, Json.WellFormedItems, Json.Ordered, and_true]
    decide
  have compiled : Schema.compileWithin 1 flags = .ok flagsSchema := by rfl
  obtain ⟨-, error, sorted⟩ :=
    validateAt_first flagsSchema (.object [("a", .null), ("b", .bool true)]) []
  refine ⟨wellFormed, compiled, sorted 1 flags wellFormed compiled, by decide +kernel, ?_⟩
  rw [error]
  decide +kernel

end JsonSchema
