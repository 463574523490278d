/-
  JsonSchema.Proofs.Keywords — the keywords of a schema do not depend on one another.

  `alone` is a schema that has the type and one of the keywords only; with a bound on how many items
  are valid for `contains` goes `contains` itself. A schema and what each keyword alone makes of a
  value are compared by their clauses.

  Statements:
  - `accepts_restrict_iff`, `refuses_restrict`: what is left of a schema says what its clauses say.
  - `valid_of_fewer`: fewer keywords ask for less.
  - `compile_by_keywords`: a schema compiles, accepts and answers as its keywords alone do.
-/

import JsonSchema.Proofs.Accepts
import JsonSchema.Proofs.Clauses

namespace JsonSchema

open Json (Members)

def presentKeywords (type : ValueType) (members : Members) : List String :=
  type.keywords.filter fun k => (Json.member? members k).isSome

/-- The document compiles, and the schema accepts the value at its place. -/
def Accepts (depth : Nat) (raw t : Json) (base : Path) : Prop :=
  ∃ s, Schema.compileWithin depth raw = .ok s ∧ s.validateAt t base = .ok ()

/-- The document compiles, and the schema refuses the value at its place in this way. -/
def Refuses (depth : Nat) (raw t : Json) (base : Path) (e : Violation) : Prop :=
  ∃ s, Schema.compileWithin depth raw = .ok s ∧ s.validateAt t base = .error e

def Fewer (members more : Members) : Prop := ∀ k v, Json.member? members k = some v → Json.member? more k = some v

/-! ## What is left of a schema -/

section

variable {depth : Nat} {type : ValueType} {members : Members} {keywords : List String}

theorem clear_of_declaredType (declared : declaredType members = some type) :
    resolveType none (Json.member? members "type") = .ok type := by
  unfold declaredType at declared
  split at declared
  · rename_i name found
    rw [found]
    simp [resolveType, ValueType.classify, declared]
  · cases declared

theorem declaredType_restrict (own : "type" ∉ keywords) :
    declaredType (restrict type members keywords) = some type := by
  unfold declaredType
  rw [member?_restrict, if_neg fun h => own h.1, if_pos rfl]
  cases type <;> rfl

/-- A document compiles just when its clauses are built. -/
theorem compile_iff_built (declared : declaredType members = some type) :
    (∃ s, Schema.compileWithin depth (.object members) = .ok s) ↔
      ∀ c ∈ clauses depth depth type [] members, ∃ judge, c.judge = .ok judge := by
  rw [← compileNode_iff_clauses (clear_of_declaredType declared)]
  simp only [compileWithin_eq_ok]

theorem validateAt_clauses (declared : declaredType members = some type) {s : Schema}
    (h : Schema.compileWithin depth (.object members) = .ok s) (t : Json) (base : Path) :
    s.validateAt t base = if type.fits t then
        .all ((clauses depth depth type [] members).map fun c => c.verdict t base)
      else mismatch type t base :=
  check_clauses (clear_of_declaredType declared) (compileWithin_eq_ok.mp h) t base

/-- A value is accepted just when its type fits and no clause speaks against it. -/
theorem validateAt_pass_iff (declared : declaredType members = some type) {s : Schema}
    (h : Schema.compileWithin depth (.object members) = .ok s) (t : Json) (base : Path) :
    s.validateAt t base = .ok () ↔
      type.fits t ∧ ∀ c ∈ clauses depth depth type [] members, c.verdict t base = .pass := by
  rw [validateAt_clauses declared h]
  by_cases fits : type.fits t
  · rw [if_pos fits]
    have all : Verdict.all ((clauses depth depth type [] members).map fun c => c.verdict t base) = .pass ↔
        ∀ c ∈ clauses depth depth type [] members, c.verdict t base = .pass := by
      rw [Verdict.all_eq_pass, List.forall_mem_map]
    exact all.trans (by simp [fits])
  · rw [if_neg fits]
    exact iff_of_false (mismatch_ne_pass type t base) fun h => fits h.1

variable (own : "type" ∉ keywords) (closed : ∀ k ∈ keywords, companions k ⊆ keywords)

include own closed

/-- What is left compiles just when the clauses that it keeps are built. -/
theorem compile_restrict_iff : (∃ s, Schema.compileWithin depth (.object (restrict type members keywords)) = .ok s) ↔
    ∀ c ∈ clauses depth depth type [] members, c.keyword ∈ keywords → ∃ judge, c.judge = .ok judge := by
  rw [compile_iff_built (declaredType_restrict own), clauses_restrict own closed, List.forall_mem_map]
  refine forall₂_congr fun c _ => ?_
  by_cases kept : c.keyword ∈ keywords
  · simp [Clause.keep_of_mem kept, kept]
  · simp [Clause.keep_of_not_mem kept, kept, Clause.idle]

variable (built : ∀ c ∈ clauses depth depth type [] members, ∃ judge, c.judge = .ok judge) (t : Json) (base : Path)

include built

/-- What is left accepts what its clauses do. -/
theorem accepts_restrict_iff : Accepts depth (.object (restrict type members keywords)) t base ↔
    type.fits t ∧ ∀ c ∈ clauses depth depth type [] members, c.keyword ∈ keywords → c.verdict t base = .pass := by
  obtain ⟨s, hs⟩ := (compile_restrict_iff own closed).mpr fun c hc _ => built c hc
  have passes := validateAt_pass_iff (declaredType_restrict own) hs t base
  have kept : (∀ c ∈ clauses depth depth type [] (restrict type members keywords), c.verdict t base = .pass) ↔
      ∀ c ∈ clauses depth depth type [] members, c.keyword ∈ keywords → c.verdict t base = .pass := by
    rw [clauses_restrict own closed, List.forall_mem_map]
    refine forall₂_congr fun c _ => ?_
    by_cases kept : c.keyword ∈ keywords
    · simp [Clause.keep_of_mem kept, kept]
    · simp [Clause.keep_of_not_mem kept, kept, Clause.idle, Clause.verdict, Judge.idle]
  rw [← kept, ← passes]
  constructor
  · rintro ⟨s', hs', passed⟩
    obtain rfl := Except.ok.inj (hs.symm.trans hs')
    exact passed
  · intro passed
    exact ⟨s, hs, passed⟩

/-- What is left answers as the first of its clauses that does not let the value pass. -/
theorem refuses_restrict (fits : type.fits t) {before after : List Clause} {c : Clause} {e : Violation}
    (split : clauses depth depth type [] members = before ++ c :: after)
    (passed : ∀ b ∈ before, b.verdict t base = .pass) (failed : c.verdict t base = .error e)
    (kept : c.keyword ∈ keywords) : Refuses depth (.object (restrict type members keywords)) t base e := by
  obtain ⟨s, hs⟩ := (compile_restrict_iff own closed).mpr fun c hc _ => built c hc
  have quiet : ∀ v ∈ (before.map (Clause.keep keywords)).map (fun c => c.verdict t base), v = .pass := by
    rw [List.forall_mem_map, List.forall_mem_map]
    intro b hb
    by_cases kept : b.keyword ∈ keywords
    · rw [Clause.keep_of_mem kept]
      exact passed b hb
    · rw [Clause.keep_of_not_mem kept]
      rfl
  refine ⟨s, hs, ?_⟩
  rw [validateAt_clauses (declaredType_restrict own) hs, if_pos fits, clauses_restrict own closed, split,
    List.map_append, List.map_append, Verdict.all_of_pass_before quiet, List.map_cons, List.map_cons,
    Clause.keep_of_mem kept, failed]
  rfl

end

/-! ## Fewer keywords -/

section

variable {members more : Members} (le : Fewer members more)

include le

theorem Given.fewer {keyword : String} {asks : Json → Prop} (h : Given more keyword asks) :
    Given members keyword asks :=
  fun v there => h v (le keyword v there)

theorem StringHolds.fewer {text : String} (h : StringHolds more text) : StringHolds members text where
  minLength := h.minLength.fewer le
  maxLength := h.maxLength.fewer le
  pattern := h.pattern.fewer le
  format := h.format.fewer le

theorem IntegerHolds.fewer {i : Int} (h : IntegerHolds more i) : IntegerHolds members i where
  minimum := h.minimum.fewer le
  exclusiveMinimum := h.exclusiveMinimum.fewer le
  maximum := h.maximum.fewer le
  exclusiveMaximum := h.exclusiveMaximum.fewer le
  multipleOf := h.multipleOf.fewer le

theorem NumberHolds.fewer {x : Double} (h : NumberHolds more x) : NumberHolds members x where
  minimum := h.minimum.fewer le
  exclusiveMinimum := h.exclusiveMinimum.fewer le
  maximum := h.maximum.fewer le
  exclusiveMaximum := h.exclusiveMaximum.fewer le
  multipleOf := h.multipleOf.fewer le

theorem ArrayHolds.fewer {valid : Json → Json → Prop} {items : List Json} (h : ArrayHolds valid more items) :
    ArrayHolds valid members items where
  minItems := h.minItems.fewer le
  maxItems := h.maxItems.fewer le
  uniqueItems := h.uniqueItems.fewer le
  eachItem := h.eachItem.fewer le
  contains := h.contains.fewer le
  minContains := fun s there => (h.minContains s (le _ s there)).fewer le
  maxContains := fun s there => (h.maxContains s (le _ s there)).fewer le

theorem ObjectHolds.fewer {valid : Json → Json → Prop} {target : Members} (h : ObjectHolds valid more target) :
    ObjectHolds valid members target where
  properties := h.properties.fewer le
  required := h.required.fewer le
  dependentRequired := h.dependentRequired.fewer le
  minProperties := h.minProperties.fewer le
  maxProperties := h.maxProperties.fewer le
  propertyNames := h.propertyNames.fewer le
  patternProperties := h.patternProperties.fewer le

theorem declaredType_fewer {type : ValueType} (declared : declaredType members = some type) :
    declaredType more = some type := by
  unfold declaredType at declared ⊢
  split at declared
  · rename_i name found
    rw [le _ _ found]
    exact declared
  · cases declared

/-- What is valid for a document is valid for one that asks for less. -/
theorem valid_of_fewer {type : ValueType} (declared : declaredType members = some type) {t : Json}
    (h : Valid (.object more) t) : Valid (.object members) t := by
  rw [valid_iff] at h ⊢
  simp only [Holds, declared, declaredType_fewer le declared] at h ⊢
  cases type with
  | string =>
    cases t with
    | string text => exact StringHolds.fewer le h
    | _ => exact h
  | integer =>
    cases t with
    | number n =>
      obtain ⟨i, is, holds⟩ := h
      exact ⟨i, is, holds.fewer le⟩
    | _ => exact h
  | number =>
    cases t with
    | number n => exact NumberHolds.fewer le h
    | _ => exact h
  | object =>
    cases t with
    | object target => exact ObjectHolds.fewer le h
    | _ => exact h
  | array =>
    cases t with
    | array items => exact ArrayHolds.fewer le h
    | _ => exact h
  | boolean => cases t <;> exact h
  | null => cases t <;> exact h

end

/-! ## Keyword by keyword -/

section

variable {depth : Nat} {type : ValueType} {members : Members}

theorem alone_own {k : String} (h : k ∈ type.keywords) : "type" ∉ k :: companions k := by
  intro mem
  rcases List.mem_cons.mp mem with rfl | mem
  · exact type_not_mem_keywords type h
  · exact companions_ne_type mem rfl

theorem mem_keywords_of_mem_clauses {limit levels : Nat} {path : Path} {c : Clause}
    (h : c ∈ clauses limit levels type path members) : c.keyword ∈ type.keywords := by
  rw [← clauses_keywords]
  exact List.mem_map_of_mem h

theorem mem_presentKeywords {k : String} :
    k ∈ presentKeywords type members ↔ k ∈ type.keywords ∧ (Json.member? members k).isSome :=
  List.mem_filter

/-- Clauses that say something belong to keywords that are there. -/
theorem present_of_clause {limit levels : Nat} {path : Path} {c : Clause}
    (h : c ∈ clauses limit levels type path members) (speaks : c ≠ .idle c.keyword) :
    c.keyword ∈ presentKeywords type members := by
  refine mem_presentKeywords.mpr ⟨mem_keywords_of_mem_clauses h, ?_⟩
  cases there : Json.member? members c.keyword with
  | none => exact absurd (clause_idle h there) speaks
  | some v => rfl

/-- A document compiles just when each of its keywords does on its own. -/
theorem compile_iff_alone (declared : declaredType members = some type) :
    (∃ s, Schema.compileWithin depth (.object members) = .ok s) ↔
      ∀ k ∈ presentKeywords type members, ∃ s, Schema.compileWithin depth (.object (alone type members k)) = .ok s := by
  have each {k : String} (hk : k ∈ presentKeywords type members) :
      (∃ s, Schema.compileWithin depth (.object (alone type members k)) = .ok s) ↔
        ∀ c ∈ clauses depth depth type [] members, c.keyword ∈ k :: companions k → ∃ judge, c.judge = .ok judge :=
    compile_restrict_iff (alone_own (mem_presentKeywords.mp hk).1) fun _ hj => companions_closed hj
  rw [compile_iff_built declared]
  constructor
  · intro built k hk
    exact (each hk).mpr fun c hc _ => built c hc
  · intro compiles c hc
    by_cases speaks : c = .idle c.keyword
    · rw [speaks]
      exact ⟨_, rfl⟩
    · have hk := present_of_clause hc speaks
      exact (each hk).mp (compiles _ hk) c hc List.mem_cons_self

variable {s : Schema} (declared : declaredType members = some type)
  (h : Schema.compileWithin depth (.object members) = .ok s) (t : Json) (base : Path)

include declared h

theorem clauses_built : ∀ c ∈ clauses depth depth type [] members, ∃ judge, c.judge = .ok judge :=
  (compile_iff_built declared).mp ⟨s, h⟩

theorem accepts_alone_iff {k : String} (hk : k ∈ type.keywords) :
    Accepts depth (.object (alone type members k)) t base ↔ type.fits t ∧
      ∀ c ∈ clauses depth depth type [] members, c.keyword ∈ k :: companions k → c.verdict t base = .pass :=
  accepts_restrict_iff (alone_own hk) (fun _ hj => companions_closed hj) (clauses_built declared h) t base

/-- A value is accepted just when the type alone and every keyword alone accept it. -/
theorem accepts_iff_alone : s.validateAt t base = .ok () ↔
    Accepts depth (.object (restrict type members [])) t base ∧
      ∀ k ∈ presentKeywords type members, Accepts depth (.object (alone type members k)) t base := by
  have bare : Accepts depth (.object (restrict type members [])) t base ↔ type.fits t := by
    rw [accepts_restrict_iff List.not_mem_nil (by intro k hk; cases hk) (clauses_built declared h) t base]
    simp
  rw [validateAt_pass_iff declared h, bare]
  constructor
  · rintro ⟨fits, passed⟩
    refine ⟨fits, fun k hk => ?_⟩
    exact (accepts_alone_iff declared h t base (mem_presentKeywords.mp hk).1).mpr ⟨fits, fun c hc _ => passed c hc⟩
  · rintro ⟨fits, each⟩
    refine ⟨fits, fun c hc => ?_⟩
    by_cases speaks : c = .idle c.keyword
    · rw [speaks]
      rfl
    · have hk := present_of_clause hc speaks
      exact ((accepts_alone_iff declared h t base (mem_presentKeywords.mp hk).1).mp (each _ hk)).2 c hc
        List.mem_cons_self

/-- What refuses a value of the type is the first keyword that does so alone. -/
theorem refuses_alone (fits : type.fits t) {e : Violation} (failed : s.validateAt t base = .error e) :
    ∃ before k after, presentKeywords type members = before ++ k :: after ∧
      (∀ j ∈ before, Accepts depth (.object (alone type members j)) t base) ∧
        Refuses depth (.object (alone type members k)) t base e := by
  rw [validateAt_clauses declared h, if_pos fits] at failed
  obtain ⟨before, c, after, split, passed, failed⟩ := Verdict.all_eq_error failed
  have hc : c ∈ clauses depth depth type [] members := by simp [split]
  have hk : c.keyword ∈ presentKeywords type members := by
    refine present_of_clause hc fun idle => ?_
    rw [idle] at failed
    cases failed
  have order : type.keywords = before.map (·.keyword) ++ c.keyword :: after.map (·.keyword) := by
    rw [← @clauses_keywords depth depth type [] members, split, List.map_append, List.map_cons]
  refine ⟨(before.map (·.keyword)).filter fun k => (Json.member? members k).isSome, c.keyword,
    (after.map (·.keyword)).filter fun k => (Json.member? members k).isSome, ?_, fun j hj => ?_, ?_⟩
  · rw [presentKeywords, order, List.filter_append,
      List.filter_cons_of_pos (p := fun k => (Json.member? members k).isSome) (mem_presentKeywords.mp hk).2]
  · -- what `j` looks at stands before it, so that its clauses are among those that passed
    obtain ⟨b, hb, rfl⟩ := List.mem_map.mp (List.mem_filter.mp hj).1
    have named : b.keyword ∈ type.keywords := by
      rw [order]
      exact List.mem_append_left _ (List.mem_map_of_mem hb)
    refine (accepts_alone_iff declared h t base named).mpr ⟨fits, fun d hd looked => ?_⟩
    rw [split] at hd
    rcases List.mem_append.mp hd with hd | hd
    · exact passed d hd
    · have apart := keywords_pairwise type
      rw [order] at apart
      have later : d.keyword ∈ c.keyword :: after.map (·.keyword) := List.mem_map_of_mem (f := (·.keyword)) hd
      exact absurd looked ((List.pairwise_append.mp apart).2.2 _ (List.mem_map_of_mem hb) _ later)
  · exact refuses_restrict (alone_own (mem_presentKeywords.mp hk).1) (fun _ hj => companions_closed hj)
      (clauses_built declared h) t base fits split passed failed List.mem_cons_self

end

/-- The keywords of a schema work side by side: it compiles just when each keyword does beside the type
    alone, it accepts what the type and all of them accept, and it answers as the first of them that
    refuses. So a document with fewer members accepts no less. -/
theorem compile_by_keywords (depth : Nat) {members : Members} {type : ValueType}
    (declared : declaredType members = some type) :
    ((∃ s, Schema.compileWithin depth (.object members) = .ok s) ↔
      ∀ k ∈ presentKeywords type members,
        ∃ s, Schema.compileWithin depth (.object (alone type members k)) = .ok s) ∧
    (∀ s, Schema.compileWithin depth (.object members) = .ok s → ∀ t base,
      (s.validateAt t base = .ok () ↔
        Accepts depth (.object (restrict type members [])) t base ∧
          ∀ k ∈ presentKeywords type members, Accepts depth (.object (alone type members k)) t base) ∧
      ∀ e, type.fits t → s.validateAt t base = .error e →
        ∃ before k after, presentKeywords type members = before ++ k :: after ∧
          (∀ j ∈ before, Accepts depth (.object (alone type members j)) t base) ∧
            Refuses depth (.object (alone type members k)) t base e) ∧
    ∀ s, Schema.compileWithin depth (.object members) = .ok s →
      ∀ more depth' s', Fewer members more → Schema.compileWithin depth' (.object more) = .ok s' →
        ∀ t base, s'.validateAt t base = .ok () → s.validateAt t base = .ok () := by
  refine ⟨compile_iff_alone declared, fun s hs t base => ⟨accepts_iff_alone declared hs t base, ?_⟩, ?_⟩
  · intro e fits failed
    exact refuses_alone declared hs t base fits failed
  · intro s hs more depth' s' le hs' t base passed
    have valid := (check_iff_valid (compileWithin_eq_ok.mp hs') t base).mp passed
    exact (check_iff_valid (compileWithin_eq_ok.mp hs) t base).mpr (valid_of_fewer le declared valid)

/-- Two items or fewer, of which at most one is an integer. -/
def oneInteger : Members :=
  [("contains", .object [("type", .string "integer")]), ("maxContains", Json.ofNat 1), ("maxItems", Json.ofNat 2),
    ("type", .string "array")]

/-- Both bounds speak against three integers; the answer is that of the first. -/
theorem compile_by_keywords_oneInteger : declaredType oneInteger = some .array ∧
    ∃ s e, Schema.compileWithin 1 (.object oneInteger) = .ok s ∧
      s.validateAt (.array [Json.ofNat 3, Json.ofNat 4, Json.ofNat 5]) [] = .error e ∧
        ∃ before k after, presentKeywords .array oneInteger = before ++ k :: after ∧
          (∀ j ∈ before, Accepts 1 (.object (alone .array oneInteger j))
            (.array [Json.ofNat 3, Json.ofNat 4, Json.ofNat 5]) []) ∧
            Refuses 1 (.object (alone .array oneInteger k))
              (.array [Json.ofNat 3, Json.ofNat 4, Json.ofNat 5]) [] e := by
  have declared : declaredType oneInteger = some .array := by decide
  have outcome : (match Schema.compileWithin 1 (.object oneInteger) with
      | .ok s => !(s.validateAt (.array [Json.ofNat 3, Json.ofNat 4, Json.ofNat 5]) []).isOk
      | .error _ => false) = true := by decide +kernel
  cases h : Schema.compileWithin 1 (.object oneInteger) with
  | error ds => simp [h] at outcome
  | ok s =>
    obtain ⟨-, answers, -⟩ := compile_by_keywords 1 declared
    cases failed : s.validateAt (.array [Json.ofNat 3, Json.ofNat 4, Json.ofNat 5]) [] with
    | ok _ => simp [h, failed, Except.isOk, Except.toBool] at outcome
    | error e => exact ⟨declared, s, e, rfl, failed, (answers s h _ []).2 e rfl failed⟩

end JsonSchema
