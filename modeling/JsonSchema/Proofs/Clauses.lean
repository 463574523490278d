/-
  JsonSchema.Proofs.Clauses — a schema by the clauses of its keywords.

  Each keyword of a type has a clause: the judge that its value builds, or one who lets everything pass
  where the keyword is not there. Compiling a schema means building the clauses, and checking a
  value means asking them one after another. A clause hangs on the value of its keyword alone, except
  that a bound on how many items are valid for `contains` looks at `contains` as well; so taking
  keywords away from a schema silences their clauses and leaves the others as they are.

  Statements:
  - `compileNode_iff_clauses`, `check_clauses`: a schema by its clauses.
  - `clauses_restrict`: the clauses of what is left of a schema.
-/

import JsonSchema.Proofs.Compiled
import JsonSchema.Proofs.Rules

namespace JsonSchema

open Json (Members)

/-! ## Parts of a schema -/

def ValueType.keywords (type : ValueType) : List String := (keywordReadings type).map (·.1)

/-- The keywords that a keyword looks at besides its own value. -/
def companions (keyword : String) : List String :=
  if keyword = "minContains" ∨ keyword = "maxContains" then ["contains"] else []

/-- The type and those of the members that belong to some keywords. -/
def restrict (type : ValueType) (members : Members) (keywords : List String) : Members :=
  Json.ofPairs (("type", .string type.name) ::
    keywords.filterMap fun k => (Json.member? members k).map (k, ·))

def alone (type : ValueType) (members : Members) (keyword : String) : Members :=
  restrict type members (keyword :: companions keyword)

theorem member?_foldl_insert (members base : Members) (keywords : List String) (k : String) :
    Json.member? ((keywords.filterMap fun j => (Json.member? members j).map (j, ·)).foldl
        (fun all (key, value) => Json.insert key value all) base) k =
      if k ∈ keywords ∧ (Json.member? members k).isSome then Json.member? members k else Json.member? base k := by
  induction keywords generalizing base with
  | nil => simp
  | cons j rest ih =>
    cases found : Json.member? members j with
    | none =>
      rw [List.filterMap_cons_none (by rw [found]; rfl), ih]
      by_cases same : k = j
      · subst same
        simp [found]
      · simp [same]
    | some v =>
      rw [List.filterMap_cons_some (by rw [found]; rfl), List.foldl_cons, ih, Json.member?_insert]
      by_cases same : k = j
      · subst same
        simp [found]
      · simp [same]

/-- What is left has the type, and the keywords that it keeps. -/
theorem member?_restrict {type : ValueType} {members : Members} {keywords : List String} (k : String) :
    Json.member? (restrict type members keywords) k =
      if k ∈ keywords ∧ (Json.member? members k).isSome then Json.member? members k
      else if k = "type" then some (.string type.name) else none := by
  unfold restrict Json.ofPairs
  rw [List.foldl_cons, member?_foldl_insert, Json.member?_insert]
  rfl

theorem member?_restrict_of_mem {type : ValueType} {members : Members} {keywords : List String} {k : String}
    (kept : k ∈ keywords) (own : k ≠ "type") :
    Json.member? (restrict type members keywords) k = Json.member? members k := by
  rw [member?_restrict]
  cases Json.member? members k <;> simp [kept, own]

theorem member?_restrict_of_not_mem {type : ValueType} {members : Members} {keywords : List String} {k : String}
    (gone : k ∉ keywords) (own : k ≠ "type") : Json.member? (restrict type members keywords) k = none := by
  rw [member?_restrict]
  simp [gone, own]

/-! ## Keywords -/

theorem type_not_mem_keywords (type : ValueType) : "type" ∉ type.keywords := by
  cases type <;> decide

theorem companions_ne_type {k j : String} (h : j ∈ companions k) : j ≠ "type" := by
  unfold companions at h
  split at h
  · obtain rfl := List.mem_singleton.mp h
    decide
  · cases h

/-- What a keyword looks at looks at nothing more. -/
theorem companions_closed {k j : String} (h : j ∈ k :: companions k) : companions j ⊆ k :: companions k := by
  rcases List.mem_cons.mp h with rfl | h
  · exact List.subset_cons_self _ _
  · unfold companions at h
    split at h
    · obtain rfl := List.mem_singleton.mp h
      exact List.nil_subset _
    · cases h

/-- A keyword stands once in the order, behind all that it looks at. -/
theorem keywords_pairwise (type : ValueType) : type.keywords.Pairwise fun k later => later ∉ k :: companions k := by
  cases type <;> decide

/-! ## Clauses -/

def Judge.idle : Judge := fun _ _ => .pass

/-- A keyword and the judge that its value builds. -/
structure Clause where
  keyword : String
  judge : Built Judge

namespace Clause

def idle (keyword : String) : Clause := ⟨keyword, .ok .idle⟩

def verdict (c : Clause) (v : Json) (path : Path) : Verdict :=
  match c.judge with
  | .ok judge => judge v path
  | .error _ => .pass

def keep (keywords : List String) (c : Clause) : Clause := if c.keyword ∈ keywords then c else idle c.keyword

theorem keep_of_mem {keywords : List String} {c : Clause} (h : c.keyword ∈ keywords) : c.keep keywords = c :=
  if_pos h

theorem keep_of_not_mem {keywords : List String} {c : Clause} (h : c.keyword ∉ keywords) :
    c.keep keywords = idle c.keyword := if_neg h

end Clause

section

variable {ρ : Type} (judge : ρ → Judge) (path : Path) (members : Members)

def Entry.clause (e : Entry ρ) : Clause :=
  match e.build? path members with
  | none => .idle e.keyword
  | some built => ⟨e.keyword, built.map judge⟩

@[simp] theorem Entry.clause_keyword (e : Entry ρ) : (e.clause judge path members).keyword = e.keyword := by
  unfold Entry.clause
  cases e.build? path members <;> rfl

/-- The rules of a table are built just when its clauses are. -/
theorem rules_iff_clauses (table : List (Entry ρ)) : (∃ rules, Entry.rules table path members = .ok rules) ↔
    ∀ c ∈ table.map (Entry.clause judge path members), ∃ judge, c.judge = .ok judge := by
  rw [List.forall_mem_map]
  unfold Entry.rules
  induction table with
  | nil => exact iff_of_true ⟨[], rfl⟩ (by intro e he; cases he)
  | cons e rest ih =>
    rw [List.forall_mem_cons, ← ih]
    unfold Entry.clause
    cases found : e.build? path members with
    | none =>
      rw [List.filterMap_cons_none found]
      simp [Clause.idle]
    | some built =>
      rw [List.filterMap_cons_some found, Built.all]
      simp only [Built.map_eq_ok, Built.both_eq_ok]
      constructor
      · rintro ⟨rules, ⟨r, more⟩, ⟨hr, hm⟩, -⟩
        exact ⟨⟨judge r, r, hr, rfl⟩, more, hm⟩
      · rintro ⟨⟨_, r, hr, -⟩, more, hm⟩
        exact ⟨r :: more, (r, more), ⟨hr, hm⟩, rfl⟩

/-- The rules of a table say what its clauses say. -/
theorem rules_eq_clauses {table : List (Entry ρ)} {rules : List ρ} (h : Entry.rules table path members = .ok rules)
    (v : Json) (place : Path) : Verdict.all (rules.map fun r => judge r v place) =
      .all ((table.map (Entry.clause judge path members)).map fun c => c.verdict v place) := by
  unfold Entry.rules at h
  induction table generalizing rules with
  | nil =>
    obtain rfl := Except.ok.inj h
    rfl
  | cons e rest ih =>
    rw [List.map_cons, List.map_cons]
    unfold Entry.clause
    cases found : e.build? path members with
    | none =>
      rw [List.filterMap_cons_none found] at h
      exact ih h
    | some built =>
      rw [List.filterMap_cons_some found, Built.all] at h
      obtain ⟨⟨r, more⟩, hb, rfl⟩ := Built.map_eq_ok.mp h
      obtain ⟨rfl, hm⟩ := Built.both_eq_ok.mp hb
      rw [List.map_cons, Verdict.all, Verdict.all, ih hm]
      rfl

end

/-- The clauses of a schema of a type, with `levels` levels left below it. -/
def clauses (limit levels : Nat) (type : ValueType) (path : Path) (members : Members) : List Clause :=
  let sub := compileNode limit levels
  match type with
  | .string => stringTable.map (Entry.clause StringRule.judge path members)
  | .integer => integerTable.map (Entry.clause IntegerRule.judge path members)
  | .number => numberTable.map (Entry.clause NumberRule.judge path members)
  | .object => ⟨"properties", (readProperties sub path members).map judgeProperties⟩ ::
      (objectTable sub (compileNames limit levels)).map (Entry.clause ObjectRule.judge path members)
  | .array => (arrayTable sub).map (Entry.clause ArrayRule.judge path members)
  | .boolean => []
  | .null => []

section

variable {limit levels : Nat} {type : ValueType} {path : Path} {members : Members}

theorem clauses_keywords : (clauses limit levels type path members).map (·.keyword) = type.keywords := by
  cases type <;>
    simp [clauses, ValueType.keywords, keywordReadings, stringTable, integerTable_eq, numberTable_eq, objectTable,
      arrayTable, countContained, Entry.one, Entry.beside]

/-- A schema compiles just when its clauses are built. -/
theorem compileNode_iff_clauses (clear : resolveType none (Json.member? members "type") = .ok type) :
    (∃ s, compileNode limit (levels + 1) path (.object members) = .ok s) ↔
      ∀ c ∈ clauses limit levels type path members, ∃ judge, c.judge = .ok judge := by
  simp only [compileNode, openNode, clear]
  have made {ρ : Type} {table : List (Entry ρ)} {judge : ρ → Judge} {make : List ρ → Schema} :
      (∃ s, (Entry.rules table path members).map make = .ok s) ↔
        ∀ c ∈ table.map (Entry.clause judge path members), ∃ judge, c.judge = .ok judge := by
    rw [← rules_iff_clauses]
    simp only [Built.map_eq_ok]
    constructor
    · rintro ⟨_, rules, hr, -⟩
      exact ⟨rules, hr⟩
    · rintro ⟨rules, hr⟩
      exact ⟨_, rules, hr, rfl⟩
  cases type with
  | string => exact made
  | integer => exact made
  | number => exact made
  | boolean => simp [clauses]
  | null => simp [clauses]
  | array => exact made
  | object =>
    simp only [clauses, List.forall_mem_cons, ← rules_iff_clauses, Built.map_eq_ok, Built.both_eq_ok]
    constructor
    · rintro ⟨s, ⟨properties, rules⟩, ⟨hp, hr⟩, -⟩
      exact ⟨⟨_, properties, hp, rfl⟩, rules, hr⟩
    · rintro ⟨⟨_, properties, hp, -⟩, rules, hr⟩
      exact ⟨_, (properties, rules), ⟨hp, hr⟩, rfl⟩

/-- The verdict of a compiled schema is that of its clauses, where the type fits. -/
theorem check_clauses {s : Schema} (clear : resolveType none (Json.member? members "type") = .ok type)
    (h : compileNode limit (levels + 1) path (.object members) = .ok s) (v : Json) (place : Path) :
    s.check v place = if type.fits v then
        .all ((clauses limit levels type path members).map fun c => c.verdict v place)
      else mismatch type v place := by
  simp only [compileNode, openNode, clear] at h
  rw [check_eq_all]
  have judged {ρ : Type} {table : List (Entry ρ)} {rules : List ρ} {judge : ρ → Judge}
      (hr : Entry.rules table path members = .ok rules) :
      Verdict.all ((rules.map judge).map fun judge => judge v place) =
        .all ((table.map (Entry.clause judge path members)).map fun c => c.verdict v place) := by
    rw [List.map_map]
    exact rules_eq_clauses judge path members hr v place
  cases type with
  | string =>
    obtain ⟨rules, hr, rfl⟩ := Built.map_eq_ok.mp h
    rw [Schema.type, Schema.judges, judged hr]
    rfl
  | integer =>
    obtain ⟨rules, hr, rfl⟩ := Built.map_eq_ok.mp h
    rw [Schema.type, Schema.judges, judged hr]
    rfl
  | number =>
    obtain ⟨rules, hr, rfl⟩ := Built.map_eq_ok.mp h
    rw [Schema.type, Schema.judges, judged hr]
    rfl
  | boolean =>
    obtain rfl := Except.ok.inj h
    rfl
  | null =>
    obtain rfl := Except.ok.inj h
    rfl
  | array =>
    obtain ⟨rules, hr, rfl⟩ := Built.map_eq_ok.mp h
    rw [Schema.type, Schema.judges, judged hr]
    rfl
  | object =>
    obtain ⟨⟨properties, rules⟩, hb, rfl⟩ := Built.map_eq_ok.mp h
    obtain ⟨hp, hr⟩ := Built.both_eq_ok.mp hb
    rw [Schema.type, Schema.judges, List.map_cons, Verdict.all, judged hr, clauses, List.map_cons, Verdict.all, hp]
    rfl

/-- Without properties there is nothing to judge. -/
theorem judgeProperties_nil : judgeProperties [] = Judge.idle := by
  funext v place
  cases v <;> rfl

/-- The clause of a keyword that is not there lets everything pass. -/
theorem clause_idle {c : Clause} (h : c ∈ clauses limit levels type path members)
    (absent : Json.member? members c.keyword = none) : c = .idle c.keyword := by
  have entry {ρ : Type} {table : List (Entry ρ)} {judge : ρ → Judge}
      (h : c ∈ table.map (Entry.clause judge path members)) : c = .idle c.keyword := by
    obtain ⟨e, -, rfl⟩ := List.mem_map.mp h
    rw [Entry.clause_keyword] at absent ⊢
    simp [Entry.clause, Entry.build?, absent]
  cases type with
  | string => exact entry h
  | integer => exact entry h
  | number => exact entry h
  | boolean => cases h
  | null => cases h
  | array => exact entry h
  | object =>
    rcases List.mem_cons.mp h with rfl | h
    · simp only at absent
      simp [readProperties, absent, Except.map, judgeProperties_nil, Clause.idle]
    · exact entry h

end

/-! ## Keywords that are taken away -/

/-- A keyword builds its rule from its own value and from those that it looks at. -/
def Entry.Local {ρ : Type} (e : Entry ρ) : Prop :=
  ∀ path members members',
    (∀ k ∈ e.keyword :: companions e.keyword, Json.member? members k = Json.member? members' k) →
    e.build? path members = e.build? path members'

theorem Entry.local_one {ρ α : Type} (keyword : String) (read : String → Path → Json → Built α) (rule : α → ρ) :
    (Entry.one keyword read rule).Local := by
  intro path members members' same
  have own := same keyword List.mem_cons_self
  simp only [Entry.build?, Entry.one, own]

theorem local_countContained {sub : Path → Json → Built Schema} {keyword : String} {rule : Nat → Schema → ArrayRule}
    (h : companions keyword = ["contains"]) : (countContained sub keyword rule).Local := by
  intro path members members' same
  simp only [countContained, Entry.beside, h, List.forall_mem_cons] at same
  obtain ⟨own, other, -⟩ := same
  simp only [Entry.build?, countContained, Entry.beside, own, other]

section

variable {limit levels : Nat} {type : ValueType} {path : Path} {members : Members} {keywords : List String}
  (own : "type" ∉ keywords) (closed : ∀ k ∈ keywords, companions k ⊆ keywords)

include own closed

theorem table_restrict {ρ : Type} {table : List (Entry ρ)} {judge : ρ → Judge} (h : ∀ e ∈ table, e.Local)
    (named : ∀ e ∈ table, e.keyword ≠ "type") :
    table.map (Entry.clause judge path (restrict type members keywords)) =
      (table.map (Entry.clause judge path members)).map (Clause.keep keywords) := by
  rw [List.map_map]
  refine List.map_congr_left fun e he => ?_
  rw [Function.comp_apply]
  by_cases kept : e.keyword ∈ keywords
  · have same : e.build? path (restrict type members keywords) = e.build? path members := by
      refine h e he path _ _ fun k hk => ?_
      have there : k ∈ keywords := by
        rcases List.mem_cons.mp hk with rfl | hk
        · exact kept
        · exact closed _ kept hk
      exact member?_restrict_of_mem there fun e => own (e ▸ there)
    rw [Clause.keep_of_mem (by rw [Entry.clause_keyword]; exact kept), Entry.clause, same, Entry.clause]
  · have gone : e.build? path (restrict type members keywords) = none := by
      rw [Entry.build?, member?_restrict_of_not_mem kept (named e he)]
      rfl
    rw [Clause.keep_of_not_mem (by rw [Entry.clause_keyword]; exact kept), Entry.clause_keyword, Entry.clause, gone]

/-- The clauses of what is left of a schema are those of the keywords that it keeps. -/
theorem clauses_restrict : clauses limit levels type path (restrict type members keywords) =
    (clauses limit levels type path members).map (Clause.keep keywords) := by
  have one {ρ α : Type} (keyword : String) (read : String → Path → Json → Built α) (rule : α → ρ) :
      (Entry.one keyword read rule).Local := Entry.local_one keyword read rule
  cases type with
  | string =>
    refine table_restrict own closed ?_ (by decide)
    simp [stringTable, one]
  | integer =>
    refine table_restrict own closed ?_ (by decide)
    simp [integerTable_eq, one]
  | number =>
    refine table_restrict own closed ?_ (by decide)
    simp [numberTable_eq, one]
  | boolean => rfl
  | null => rfl
  | array =>
    refine table_restrict own closed ?_ (by simp [arrayTable, Entry.one, countContained, Entry.beside])
    simp [arrayTable, one, local_countContained, companions]
  | object =>
    have table : (objectTable (compileNode limit levels) (compileNames limit levels)).map
        (Entry.clause ObjectRule.judge path (restrict .object members keywords)) =
          ((objectTable (compileNode limit levels) (compileNames limit levels)).map
            (Entry.clause ObjectRule.judge path members)).map (Clause.keep keywords) :=
      table_restrict own closed (by simp [objectTable, one]) (by simp [objectTable, Entry.one])
    simp only [clauses, List.map_cons, table]
    congr 1
    by_cases kept : "properties" ∈ keywords
    · rw [Clause.keep_of_mem kept, readProperties, readProperties, member?_restrict_of_mem kept (by decide)]
    · rw [Clause.keep_of_not_mem kept, readProperties, member?_restrict_of_not_mem kept (by decide)]
      simp [Except.map, judgeProperties_nil, Clause.idle]

end

end JsonSchema
