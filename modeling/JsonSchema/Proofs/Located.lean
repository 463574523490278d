/-
  JsonSchema.Proofs.Located — a violation says where it is and what is there.

  The path of a violation goes on from the path of the value, by keys of objects and positions of
  items, to a value that is there. What the violation says is true of that value: a value that is
  of another type than a schema asks for, an item that is there already, an object that lacks a
  key. The keyword is that of the schema that was broken, never one that only leads down to it.
  All of this is carried through the ways down: whatever is found in a member or an item is found
  one step further down from the value around it.

  Statements:
  - `Located.down`: a violation in a part of a value is one in the value.
  - `located_violations`: every violation of a schema is located, not only the first.
  - `violation_located`: what a check answers points into the value.
-/

import JsonSchema.Proofs.Clauses
import JsonSchema.Proofs.Violations

namespace JsonSchema

open Json (Members)

def Json.descend? : Json → Path → Option Json
  | v, [] => some v
  | .object members, .key name :: rest => (member? members name).bind fun v => v.descend? rest
  | .array items, .index i :: rest => items[i]?.bind fun v => v.descend? rest
  | _, _ :: _ => none

/-- The schemas that a schema consists of, itself among them. -/
inductive Schema.Node : Schema → Schema → Prop
  | here (s : Schema) : Node s s
  | property {properties : List (String × Schema)} {rules : List ObjectRule} {p : String × Schema} {n : Schema}
      (mem : p ∈ properties) (below : Node p.2 n) : Node (.object properties rules) n
  | item {rules : List ArrayRule} {r : ArrayRule} {s n : Schema} (mem : r ∈ rules) (inside : s ∈ r.schemas)
      (below : Node s n) : Node (.array rules) n
  | names {properties : List (String × Schema)} {rules : List ObjectRule} {texts : List StringRule}
      (mem : .propertyNames texts ∈ rules) : Node (.object properties rules) (.string texts)
  | pattern {properties : List (String × Schema)} {rules : List ObjectRule} {patterns : List (Pattern × Schema)}
      {p : Pattern × Schema} {n : Schema} (mem : .patternProperties patterns ∈ rules) (inside : p ∈ patterns)
      (below : Node p.2 n) : Node (.object properties rules) n

/-- The keywords that only lead down to other schemas. -/
def structuralKeywords : List String := ["properties", "items", "propertyNames", "patternProperties"]

def leafKeywords : List String := (ValueType.all.flatMap ValueType.keywords).filter (· ∉ structuralKeywords)

/-- The keywords that say nothing of the value but that it breaks them. -/
def plainKeywords : List String := leafKeywords.filter (· ∉ ["uniqueItems", "required", "dependentRequired"])

/-- What a violation says of a value `w` of a document `t`, which stands at the end of `q`. -/
structure Tells (nodes : Schema → Prop) (t : Json) (q : Path) (w : Json) (e : Violation) : Prop where
  keyword : ∃ k, e.keyword = some k ∧ (k = "type" ∨ k ∈ leafKeywords) ∧ k ∉ structuralKeywords
  /-- The value does not fit the type of one of the schemas. -/
  type : e.keyword = some "type" →
    e.got = w.kindName ∧ ∃ n, nodes n ∧ e.expected = n.type.name ∧ n.type.fits w = false
  /-- The value is an item, and there is the same one before it. -/
  uniqueItems : e.keyword = some "uniqueItems" → e.got = "duplicate item " ++ w.render ∧
    ∃ above items i j u, q = Path.index above i ∧ t.descend? above = some (.array items) ∧ items[i]? = some w ∧
      j < i ∧ items[j]? = some u ∧ Json.same u w
  /-- The value is an object, and something is not there. -/
  missing : e.keyword = some "required" ∨ e.keyword = some "dependentRequired" → w.isObject ∧ e.got = "missing"

/-- The violation points to a value of the document, and what it says of that value is so. -/
def Located (nodes : Schema → Prop) (t : Json) (base : Path) (e : Violation) : Prop :=
  ∃ q w, e.path = base ++ q ∧ t.descend? q = some w ∧ Tells nodes t q w e

/-! ## Going down -/

section

variable {nodes : Schema → Prop} {t v : Json} {base : Path} {step : Segment} {e : Violation}

theorem descend?_cons (h : t.descend? [step] = some v) (q : Path) : t.descend? (step :: q) = v.descend? q := by
  cases step with
  | key name =>
    cases t with
    | object members =>
      simp only [Json.descend?, Option.bind_eq_some_iff, Option.some.injEq, exists_eq_right] at h
      simp [Json.descend?, h]
    | _ => cases h
  | index i =>
    cases t with
    | array items =>
      simp only [Json.descend?, Option.bind_eq_some_iff, Option.some.injEq, exists_eq_right] at h
      simp [Json.descend?, h]
    | _ => cases h

theorem descend?_key {members : Members} {name : String} (h : Json.member? members name = some v) :
    (Json.object members).descend? [.key name] = some v := by
  simp [Json.descend?, h]

theorem descend?_index {items : List Json} {i : Nat} (h : items[i]? = some v) :
    (Json.array items).descend? [.index i] = some v := by
  simp [Json.descend?, h]

/-- A violation in a part of a value is one in the value. -/
theorem Located.down (h : Located nodes v (base ++ [step]) e) (found : t.descend? [step] = some v) :
    Located nodes t base e := by
  obtain ⟨q, w, path, there, tells⟩ := h
  refine ⟨step :: q, w, ?_, ?_, tells.keyword, tells.type, fun unique => ?_, tells.missing⟩
  · rw [path, List.append_assoc, List.singleton_append]
  · rw [descend?_cons found, there]
  · obtain ⟨got, above, items, i, j, u, rfl, array, rest⟩ := tells.uniqueItems unique
    refine ⟨got, step :: above, items, i, j, u, rfl, ?_, rest⟩
    rw [descend?_cons found, array]

end

/-! ## Keywords that look at a value only -/

theorem type_not_mem_leafKeywords : "type" ∉ leafKeywords := by decide

theorem StringRule.keyword_plain (r : StringRule) : r.keyword ∈ plainKeywords := by
  cases r with
  | minLength n => show "minLength" ∈ plainKeywords; decide
  | maxLength n => show "maxLength" ∈ plainKeywords; decide
  | pattern p => show "pattern" ∈ plainKeywords; decide
  | format f => show "format" ∈ plainKeywords; decide

theorem Bound.keyword_plain (b : Bound) : b.keyword ∈ plainKeywords := by cases b <;> decide

section

variable {nodes : Schema → Prop} {t : Json} {path : Path}

/-- A keyword that says nothing more than that the value breaks it. -/
theorem located_plain {k expected got : String} (plain : k ∈ plainKeywords) :
    Located nodes t path ⟨path, some k, expected, got⟩ := by
  obtain ⟨leaf, others⟩ := List.mem_filter.mp plain
  have own : k ∉ structuralKeywords := by
    have := (List.mem_filter.mp leaf).2
    simpa using this
  simp only [List.mem_cons, List.not_mem_nil, or_false, not_or, decide_eq_true_iff] at others
  obtain ⟨unique, required, dependent⟩ := others
  refine ⟨[], t, (List.append_nil path).symm, rfl, ⟨k, rfl, Or.inr leaf, own⟩, ?_, ?_, ?_⟩
  · intro h
    obtain rfl := Option.some.inj h
    exact absurd leaf type_not_mem_leafKeywords
  · intro h
    exact absurd (Option.some.inj h) unique
  · rintro (h | h)
    · exact absurd (Option.some.inj h) required
    · exact absurd (Option.some.inj h) dependent

theorem located_require {k expected got : String} {holds : Bool} (plain : k ∈ plainKeywords) :
    ∀ e ∈ own k (.require holds path expected got), Located nodes t path e := by
  intro e he
  cases holds with
  | true => cases he
  | false =>
    obtain rfl := List.mem_singleton.mp he
    exact located_plain plain

theorem located_strings {text : String} {rules : List StringRule} :
    ∀ e ∈ StringRule.violations text path rules, Located nodes t path e := by
  intro e he
  obtain ⟨r, -, he⟩ := List.mem_flatMap.mp he
  have plain := r.keyword_plain
  cases r <;> exact located_require plain e he

theorem located_integers {n : Int} {rules : List IntegerRule} :
    ∀ e ∈ IntegerRule.violations n path rules, Located nodes t path e := by
  intro e he
  obtain ⟨r, -, he⟩ := List.mem_flatMap.mp he
  cases r with
  | bound b limit => exact located_require b.keyword_plain e he
  | multipleOf d => exact located_require (k := "multipleOf") (by decide) e he

theorem located_numbers {x : Double} {rules : List NumberRule} :
    ∀ e ∈ NumberRule.violations x path rules, Located nodes t path e := by
  intro e he
  obtain ⟨r, -, he⟩ := List.mem_flatMap.mp he
  cases r with
  | bound b limit => exact located_require b.keyword_plain e he
  | multipleOf d => exact located_require (k := "multipleOf") (by decide) e he

/-- A value of another type. -/
theorem located_mismatched {s : Schema} {v : Json} (node : nodes s) (misfit : s.type.fits v = false) :
    ∀ e ∈ [mismatched s.type v path], Located nodes v path e := by
  intro e he
  obtain rfl := List.mem_singleton.mp he
  refine ⟨[], v, (List.append_nil path).symm, rfl, ⟨"type", rfl, Or.inl rfl, by decide⟩, ?_, ?_, ?_⟩
  · intro _
    exact ⟨rfl, s, node, rfl, misfit⟩
  · intro h
    exact absurd (Option.some.inj h) (by decide)
  · rintro (h | h)
    · exact absurd (Option.some.inj h) (by decide)
    · exact absurd (Option.some.inj h) (by decide)

/-- An item that is there already. -/
theorem located_repeats {items : List Json} :
    ∀ e ∈ (Json.repeats items).map (repeated path), Located nodes (.array items) path e := by
  intro e he
  obtain ⟨⟨w, i⟩, mem, rfl⟩ := List.mem_map.mp he
  obtain ⟨mem, earlier⟩ := List.mem_filter.mp mem
  have there : items[i]? = some w := List.mem_zipIdx_iff_getElem?.mp mem
  obtain ⟨u, hu, same⟩ := List.any_eq_true.mp earlier
  obtain ⟨j, hj, found⟩ := List.mem_take_iff_getElem.mp hu
  have before : items[j]? = some u := by
    rw [List.getElem?_eq_getElem (by omega), found]
  refine ⟨[.index i], w, rfl, descend?_index there, ⟨"uniqueItems", rfl, Or.inr (by decide), by decide⟩, ?_, ?_, ?_⟩
  · intro h
    exact absurd (Option.some.inj h) (by decide)
  · intro _
    exact ⟨rfl, [], items, i, j, u, rfl, rfl, there, by omega, before, Json.same_comm.mp same⟩
  · rintro (h | h)
    · exact absurd (Option.some.inj h) (by decide)
    · exact absurd (Option.some.inj h) (by decide)

/-- A key that is not there. -/
theorem located_missing {members : Members} {k : String} {v : Verdict}
    (named : k = "required" ∨ k = "dependentRequired")
    (reports : ∀ e, v = .error e → e.path = path ∧ e.got = "missing") :
    ∀ e ∈ own k v, Located nodes (.object members) path e := by
  intro e he
  cases v with
  | ok _ => cases he
  | error d =>
    obtain rfl := List.mem_singleton.mp he
    obtain ⟨rfl, missing⟩ := reports d rfl
    have leaf : k ∈ leafKeywords ∧ k ∉ structuralKeywords ∧ k ≠ "type" ∧ k ≠ "uniqueItems" := by
      rcases named with rfl | rfl <;> decide
    obtain ⟨leaf, own, type, unique⟩ := leaf
    refine ⟨[], _, (List.append_nil _).symm, rfl, ⟨k, rfl, Or.inr leaf, own⟩, ?_, ?_, ?_⟩
    · intro h
      exact absurd (Option.some.inj h) type
    · intro h
      exact absurd (Option.some.inj h) unique
    · intro _
      exact ⟨rfl, missing⟩

theorem checkPresent_error {members : Members} {reason : String} {names : List String} {e : Violation}
    (h : checkPresent members path reason names = .error e) : e.path = path ∧ e.got = "missing" := by
  unfold checkPresent at h
  split at h
  · cases h
  · obtain rfl := Except.error.inj h
    exact ⟨rfl, rfl⟩

theorem checkDependent_error {members : Members} {triggers : List (String × List String)} {e : Violation}
    (h : checkDependent members path triggers = .error e) : e.path = path ∧ e.got = "missing" := by
  obtain ⟨before, ⟨trigger, names⟩, after, -, -, failed⟩ := Verdict.all_eq_error h
  dsimp only at failed
  split at failed
  · exact checkPresent_error failed
  · cases failed

end

/-! ## Schemas -/

section

variable {nodes : Schema → Prop}

mutual

/-- Every violation of a schema is located in the value. -/
theorem located_violations (s : Schema) (known : ∀ n, s.Node n → nodes n) (v : Json) (wellFormed : v.WellFormed)
    (path : Path) : ∀ e ∈ s.violations v path, Located nodes v path e := by
  have node : nodes s := known s (.here s)
  cases s with
  | string rules =>
    cases v with
    | string text => exact located_strings
    | _ => exact located_mismatched node rfl
  | integer rules =>
    cases v with
    | number n =>
      simp only [Schema.violations]
      cases h : n.toInteger? with
      | some i => exact located_integers
      | none => exact located_mismatched node (by simp [Schema.type, ValueType.fits, h])
    | _ => exact located_mismatched node rfl
  | number rules =>
    cases v with
    | number n => exact located_numbers
    | _ => exact located_mismatched node rfl
  | object properties rules =>
    cases v with
    | object members =>
      intro e he
      rcases List.mem_append.mp he with he | he
      · exact located_properties properties
          (fun p hp n below => known n (.property hp below)) members wellFormed path e he
      · exact located_objectRules rules
          (fun patterns hr p hp n below => known n (.pattern hr hp below)) members wellFormed path e he
    | _ => exact located_mismatched node rfl
  | array rules =>
    cases v with
    | array items =>
      exact located_arrayRules rules (fun r hr s hs n below => known n (.item hr hs below)) items wellFormed path
    | _ => exact located_mismatched node rfl
  | boolean =>
    cases v with
    | bool _ =>
      intro e he
      cases he
    | _ => exact located_mismatched node rfl
  | null =>
    cases v with
    | null =>
      intro e he
      cases he
    | _ => exact located_mismatched node rfl

theorem located_properties (properties : List (String × Schema))
    (known : ∀ p ∈ properties, ∀ n, p.2.Node n → nodes n) (members : Members)
    (wellFormed : (Json.object members).WellFormed) (path : Path) :
    ∀ e ∈ propertyViolations properties members path, Located nodes (.object members) path e := by
  match properties with
  | [] =>
    intro e he
    cases he
  | (name, s) :: rest =>
    intro e he
    obtain ⟨first, others⟩ := List.forall_mem_cons.mp known
    rcases List.mem_append.mp he with he | he
    · cases there : Json.member? members name with
      | none =>
        rw [there] at he
        cases he
      | some v =>
        rw [there] at he
        have inner := located_violations s first v (wellFormed.member (mem_of_member? there)) (path.key name) e he
        exact inner.down (descend?_key there)
    · exact located_properties rest others members wellFormed path e he

theorem located_arrayRules (rules : List ArrayRule) (known : ∀ r ∈ rules, ∀ s ∈ r.schemas, ∀ n, s.Node n → nodes n)
    (items : List Json) (wellFormed : (Json.array items).WellFormed) (path : Path) :
    ∀ e ∈ arrayViolations rules items path, Located nodes (.array items) path e := by
  match rules with
  | [] =>
    intro e he
    cases he
  | r :: rest =>
    intro e he
    obtain ⟨first, others⟩ := List.forall_mem_cons.mp known
    rcases List.mem_append.mp he with he | he
    · exact located_arrayRule r first items wellFormed path e he
    · exact located_arrayRules rest others items wellFormed path e he

theorem located_arrayRule (r : ArrayRule) (known : ∀ s ∈ r.schemas, ∀ n, s.Node n → nodes n) (items : List Json)
    (wellFormed : (Json.array items).WellFormed) (path : Path) :
    ∀ e ∈ r.violations items path, Located nodes (.array items) path e := by
  have counted {holds : Prop} [Decidable holds] {k expected got : String} (plain : k ∈ plainKeywords) :
      ∀ e ∈ (if holds then [] else [(⟨path, some k, expected, got⟩ : Violation)]),
        Located nodes (.array items) path e := by
    intro e he
    split at he
    · cases he
    · obtain rfl := List.mem_singleton.mp he
      exact located_plain plain
  cases r with
  | minItems n => exact located_require (by decide)
  | maxItems n => exact located_require (by decide)
  | uniqueItems on =>
    intro e he
    cases on with
    | false => cases he
    | true => exact located_repeats e he
  | items s =>
    intro e he
    obtain ⟨⟨v, i⟩, mem, he⟩ := List.mem_flatMap.mp he
    have there : items[i]? = some v := List.mem_zipIdx_iff_getElem?.mp mem
    have inner := located_violations s (known s List.mem_cons_self) v (wellFormed.item (List.mem_of_getElem? there))
      (path.index i) e he
    exact inner.down (descend?_index there)
  | itemList schemas =>
    exact located_list schemas known path 0 items items wellFormed fun i => by rw [Nat.zero_add]
  | contains s => exact counted (by decide)
  | minContains n s => exact counted (by decide)
  | maxContains n s => exact counted (by decide)

/-- The rest of a list is gone through from a position of the whole list on. -/
theorem located_list (schemas : List Schema) (known : ∀ s ∈ schemas, ∀ n, s.Node n → nodes n) (path : Path)
    (position : Nat) (rest all : List Json) (wellFormed : (Json.array all).WellFormed)
    (from_position : ∀ i : Nat, rest[i]? = all[position + i]?) :
    ∀ e ∈ listViolations schemas path position rest, Located nodes (.array all) path e := by
  match schemas, rest with
  | [], _ =>
    intro e he
    cases he
  | _ :: _, [] =>
    intro e he
    cases he
  | s :: others, v :: rest =>
    intro e he
    obtain ⟨first, later⟩ := List.forall_mem_cons.mp known
    rcases List.mem_append.mp he with he | he
    · have there : all[position]? = some v := (from_position 0).symm
      have whole := wellFormed.item (List.mem_of_getElem? there)
      have inner := located_violations s first v whole (path.index position) e he
      exact inner.down (descend?_index there)
    · refine located_list others later path (position + 1) rest all wellFormed (fun i => ?_) e he
      rw [show position + 1 + i = position + (i + 1) by omega, ← from_position (i + 1), List.getElem?_cons_succ]

theorem located_objectRules (rules : List ObjectRule)
    (known : ∀ patterns, .patternProperties patterns ∈ rules → ∀ p ∈ patterns, ∀ n, p.2.Node n → nodes n)
    (members : Members) (wellFormed : (Json.object members).WellFormed) (path : Path) :
    ∀ e ∈ objectViolations rules members path, Located nodes (.object members) path e := by
  match rules with
  | [] =>
    intro e he
    cases he
  | r :: rest =>
    intro e he
    rcases List.mem_append.mp he with he | he
    · exact located_objectRule r (fun patterns same => known patterns (same ▸ List.mem_cons_self)) members wellFormed
        path e he
    · exact located_objectRules rest (fun patterns hr => known patterns (List.mem_cons_of_mem _ hr)) members
        wellFormed path e he

theorem located_objectRule (r : ObjectRule)
    (known : ∀ patterns, .patternProperties patterns = r → ∀ p ∈ patterns, ∀ n, p.2.Node n → nodes n)
    (members : Members) (wellFormed : (Json.object members).WellFormed) (path : Path) :
    ∀ e ∈ r.violations members path, Located nodes (.object members) path e := by
  have found {key : String} {v : Json} (mem : (key, v) ∈ members) : Json.member? members key = some v :=
    member?_of_mem wellFormed mem
  cases r with
  | required names => exact located_missing (Or.inl rfl) fun e h => checkPresent_error h
  | dependentRequired triggers => exact located_missing (Or.inr rfl) fun e h => checkDependent_error h
  | minProperties n => exact located_require (by decide)
  | maxProperties n => exact located_require (by decide)
  | propertyNames rules =>
    intro e he
    obtain ⟨⟨key, v⟩, mem, he⟩ := List.mem_flatMap.mp he
    exact (located_strings (t := v) e he).down (descend?_key (found mem))
  | patternProperties patterns =>
    intro e he
    obtain ⟨⟨key, v⟩, mem, he⟩ := List.mem_flatMap.mp he
    have inner := located_patterns patterns (known patterns rfl) key v (wellFormed.member mem) (path.key key) e he
    exact inner.down (descend?_key (found mem))

theorem located_patterns (patterns : List (Pattern × Schema)) (known : ∀ p ∈ patterns, ∀ n, p.2.Node n → nodes n)
    (key : String) (v : Json) (wellFormed : v.WellFormed) (path : Path) :
    ∀ e ∈ patternViolations patterns key v path, Located nodes v path e := by
  match patterns with
  | [] =>
    intro e he
    cases he
  | (p, s) :: rest =>
    intro e he
    obtain ⟨first, others⟩ := List.forall_mem_cons.mp known
    rcases List.mem_append.mp he with he | he
    · split at he
      · exact located_violations s first v wellFormed path e he
      · cases he
    · exact located_patterns rest others key v wellFormed path e he

end

end

/-- What a check answers points to a value that is there, under the innermost keyword, and is so of that
    value, wherever the document itself stands. -/
theorem violation_located {s : Schema} {t : Json} {base : Path} {e : Violation} (wellFormed : t.WellFormed)
    (h : s.validateAt t base = .error e) : Located s.Node t base e := by
  have first : Verdict.first (s.violations t base) = .error e := (check_eq_first s t base).symm.trans h
  have mem : e ∈ s.violations t base := List.mem_of_head? (Verdict.first_eq_error.mp first)
  exact located_violations s (fun _ below => below) t wellFormed base e mem

def rows : Schema := .object [("rows", .array [.items (.array [.uniqueItems true])])] []

theorem one_fits : -9223372036854775808 ≤ (1 : Int) ∧ (1 : Int) < 18446744073709551616 := by decide

/-- A row that has the same number twice, once with a point and once without. -/
def pairOfOnes : Json :=
  .object [("rows", .array [.array [],
    .array [.number (.float (Number.integer 1 one_fits).toDouble), .number (.integer 1 one_fits)]])]

/-- The second number of the second row is named as it is written there. -/
theorem violation_located_pairOfOnes :
    pairOfOnes.WellFormed ∧ ∃ e, rows.validateAt pairOfOnes [.key "file"] = .error e ∧
      e.path = [.key "file", .key "rows", .index 1, .index 1] ∧ e.got = "duplicate item 1" ∧
        Located rows.Node pairOfOnes [.key "file"] e := by
  have wellFormed : pairOfOnes.WellFormed := by
    simp [pairOfOnes, Json.WellFormed, Json.WellFormedMembers, Json.WellFormedItems, Json.Ordered]
  have first : (rows.violations pairOfOnes [.key "file"]).head? = some
      ⟨[.key "file", .key "rows", .index 1, .index 1], some "uniqueItems", "unique items", "duplicate item 1"⟩ := by
    decide +kernel
  have failed := (check_eq_first rows pairOfOnes [.key "file"]).trans (Verdict.first_eq_error.mpr first)
  exact ⟨wellFormed, _, failed, rfl, rfl, violation_located wellFormed failed⟩

end JsonSchema
