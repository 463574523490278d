/-
  JsonSchema.Proofs.Described — a defect says where it is and what is there.

  The path of a defect leads through the document to a value that is there, or, where a schema has no
  type, to that schema and on to the type that it does not have. What the cause says is true of that
  value: a schema that is no object, a type or a format that nothing is called by, a value as it is
  written in the document, a keyword beside which another one is not there.

  A defect is found by one keyword of one schema, so it is enough that each keyword tells the truth about
  its own value (`Reading.Honest`), and that the places where schemas are looked for are in the document.

  Statements:
  - `descend?_of_position`: the place of a schema leads to it.
  - `honest_keywords`: the keywords of every type tell the truth.
  - `defect_described`: every defect of a document that does not compile.
-/

import JsonSchema.Proofs.Located
import JsonSchema.Proofs.Visits

namespace JsonSchema

open Json (Members)

/-- What a cause says of the value `v` at the end of a path. -/
def Defect.Cause.Says (limit : Nat) (document : Json) (path : Path) (v : Json) : Defect.Cause → Prop
  | .notAnObject got => v.isObject = false ∧ got = v.kindName
  | .missingType => False
  | .nonStringType got => (∃ above, path = Path.key above "type") ∧ v.isText = false ∧ got = v.kindName
  | .unknownType name => (∃ above, path = Path.key above "type") ∧ v = .string name ∧ ValueType.ofName? name = none
  | .conflictingType expected got => (∃ above, path = Path.key above "type") ∧ v = .string got ∧
      expected = ValueType.string.name ∧ got ≠ expected
  | .invalidKeyword keyword _ got => (∃ above, path = Path.key above keyword) ∧
      got = if keyword = "properties" then v.kindName else v.render
  | .missingSibling keyword requires => ∃ above members, path = Path.key above keyword ∧
      document.descend? above = some (.object members) ∧ Json.member? members requires = none
  | .unknownFormat name => (∃ above, path = Path.key above "format") ∧ v = .string name ∧ Format.ofName? name = none
  | .invalidPattern keyword pattern reason => (∃ e, Pattern.compile pattern = .error e ∧ reason = e.message) ∧
      ((keyword = "pattern" ∧ (∃ above, path = Path.key above "pattern") ∧ v = .string pattern) ∨
        (keyword = "patternProperties" ∧ ∃ above, path = (Path.key above "patternProperties").key pattern))
  | .zeroDivisor keyword => (∃ above, path = Path.key above keyword) ∧ ∃ n, v = .number n ∧ n.Is 0
  | .depthExceeded m => m = limit ∧ ∃ needed, Position document (limit + 1) needed path v

/-- The defect points to a value of the document, and what it says of that value is so. Where a type is
    missing, there is no value at the end of the path, but a schema one step before it. -/
def Defect.Described (limit : Nat) (document : Json) (d : Defect) : Prop :=
  (d.cause = .missingType ∧ ∃ above members, d.path = Path.key above "type" ∧
    document.descend? above = some (.object members) ∧ Json.member? members "type" = none) ∨
  ∃ v, document.descend? d.path = some v ∧ d.cause.Says limit document d.path v

/-! ## Places -/

section

variable {document v : Json} {path : Path}

theorem descend?_append (p q : Path) (t : Json) : t.descend? (p ++ q) = (t.descend? p).bind fun v => v.descend? q := by
  induction p generalizing t with
  | nil => rfl
  | cons step rest ih =>
    cases step with
    | key name =>
      cases t with
      | object members =>
        simp only [List.cons_append, Json.descend?]
        cases Json.member? members name with
        | none => rfl
        | some v => exact ih v
      | _ => rfl
    | index i =>
      cases t with
      | array items =>
        simp only [List.cons_append, Json.descend?]
        cases items[i]? with
        | none => rfl
        | some v => exact ih v
      | _ => rfl

theorem descend?_to_key {members : Members} (h : document.descend? path = some (.object members)) {key : String}
    (there : Json.member? members key = some v) : document.descend? (path.key key) = some v := by
  rw [Path.key, descend?_append, h]
  exact descend?_key there

theorem descend?_to_index {items : List Json} (h : document.descend? path = some (.array items)) {i : Nat}
    (there : items[i]? = some v) : document.descend? (path.index i) = some v := by
  rw [Path.index, descend?_append, h]
  exact descend?_index there

/-- The place of a schema leads to it. -/
theorem descend?_of_position {level : Nat} {needed : Option ValueType} {raw : Json} (h : document.WellFormed)
    (position : Position document level needed path raw) : document.descend? path = some raw ∧ raw.WellFormed := by
  induction position with
  | root => exact ⟨rfl, h⟩
  | down above clear below ih =>
    obtain ⟨here, wellFormed⟩ := ih
    have contained := mem_contents_schema.mpr ⟨_, _, rfl, clear, below⟩
    refine ⟨?_, wellFormed_of_mem_contents wellFormed contained⟩
    cases below with
    | property found mem _ =>
      exact descend?_to_key (descend?_to_key here found) (member?_of_mem (wellFormed.member (mem_of_member? found)) mem)
    | items found _ => exact descend?_to_key here found
    | item found mem => exact descend?_to_index (descend?_to_key here found) mem
    | contains found => exact descend?_to_key here found
    | names found => exact descend?_to_key here found
    | pattern found mem =>
      exact descend?_to_key (descend?_to_key here found) (member?_of_mem (wellFormed.member (mem_of_member? found)) mem)

end

/-! ## Keywords -/

def Reading.Honest (limit : Nat) (document : Json) (keyword : String) (reading : Reading) : Prop :=
  ∀ path members v, document.descend? path = some (.object members) → Json.member? members keyword = some v →
    v.WellFormed → ∀ d, .problem d ∈ reading keyword path members v → d.Described limit document

namespace Reading

variable {limit : Nat} {document : Json} {keyword : String}

/-- A defect at the keyword itself, where its value is. -/
theorem described_bad {path : Path} {members : Members} {v : Json} {cause : Defect.Cause} {d : Defect}
    (here : document.descend? path = some (.object members)) (there : Json.member? members keyword = some v)
    (mem : .problem d ∈ [bad keyword path cause]) (told : cause.Says limit document (path.key keyword) v) :
    d.Described limit document := by
  obtain rfl := Part.problem.inj (List.mem_singleton.mp mem)
  exact Or.inr ⟨v, descend?_to_key here there, told⟩

theorem honest_fitting (fits : Json → Bool) (expected : String) (other : keyword ≠ "properties") :
    (fitting fits expected).Honest limit document keyword := by
  intro path members v here there _ d mem
  unfold fitting at mem
  split at mem
  · cases mem
  · exact described_bad here there mem ⟨⟨path, rfl⟩, (if_neg other).symm⟩

theorem honest_divisor {reading : Reading} (h : reading.Honest limit document keyword) :
    (divisor reading).Honest limit document keyword := by
  intro path members v here there wellFormed d mem
  unfold divisor at mem
  split at mem
  · rename_i zero
    refine described_bad here there mem ⟨⟨path, rfl⟩, ?_⟩
    cases v with
    | number n =>
      have units : n.toDouble.units = 0 := beq_iff_eq.mp zero
      exact ⟨n, rfl, (Number.toInteger?_eq_some.mp (n.toInteger?_eq_zero.mpr units)).1⟩
    | _ => cases zero
  · exact h path members v here there wellFormed d mem

theorem honest_beside {sibling : String} {reading : Reading} (h : reading.Honest limit document keyword) :
    (beside sibling reading).Honest limit document keyword := by
  intro path members v here there wellFormed d mem
  unfold beside at mem
  split at mem
  · exact h path members v here there wellFormed d mem
  · rename_i absent
    exact described_bad here there mem ⟨path, members, rfl, here, by simpa using absent⟩

theorem honest_pattern : pattern.Honest limit document "pattern" := by
  intro path members v here there wellFormed d mem
  unfold pattern at mem
  split at mem
  · rename_i source
    unfold badPattern at mem
    split at mem
    · cases mem
    · rename_i e broken
      exact described_bad here there mem ⟨⟨e, broken, rfl⟩, Or.inl ⟨rfl, ⟨path, rfl⟩, rfl⟩⟩
  · exact honest_fitting _ _ (by decide) path members v here there wellFormed d mem

theorem honest_format : format.Honest limit document "format" := by
  intro path members v here there wellFormed d mem
  unfold format at mem
  split at mem
  · rename_i name
    split at mem
    · cases mem
    · rename_i unknown
      exact described_bad here there mem ⟨⟨path, rfl⟩, rfl, by simpa using unknown⟩
  · exact honest_fitting _ _ (by decide) path members v here there wellFormed d mem

theorem honest_schema (needed : Option ValueType) : (schema needed).Honest limit document keyword := by
  intro path members v here there wellFormed d mem
  cases List.mem_singleton.mp mem

theorem honest_items : items.Honest limit document "items" := by
  intro path members v here there wellFormed d mem
  unfold items at mem
  split at mem
  · cases List.mem_singleton.mp mem
  · obtain ⟨i, hi, e⟩ := List.mem_mapIdx.mp mem
    cases e
  · exact honest_fitting _ _ (by decide) path members v here there wellFormed d mem

theorem honest_dependents : dependents.Honest limit document "dependentRequired" := by
  intro path members v here there wellFormed d mem
  unfold dependents at mem
  split at mem
  · split at mem
    · cases mem
    · exact described_bad here there mem ⟨⟨path, rfl⟩, (if_neg (by decide)).symm⟩
  · exact honest_fitting _ _ (by decide) path members v here there wellFormed d mem

theorem honest_patterns : patterns.Honest limit document "patternProperties" := by
  intro path members v here there wellFormed d mem
  unfold patterns at mem
  split at mem
  · rename_i sources
    obtain ⟨⟨source, raw⟩, entry, mem⟩ := List.mem_flatMap.mp mem
    rcases List.mem_append.mp mem with mem | mem
    · have place := descend?_to_key (descend?_to_key here there) (member?_of_mem wellFormed entry)
      unfold badPattern at mem
      split at mem
      · cases mem
      · rename_i e broken
        obtain rfl := Part.problem.inj (List.mem_singleton.mp mem)
        exact Or.inr ⟨raw, place, ⟨e, broken, rfl⟩, Or.inr ⟨rfl, path, rfl⟩⟩
    · cases List.mem_singleton.mp mem
  · exact honest_fitting _ _ (by decide) path members v here there wellFormed d mem

/-- A value that is no object is named by its kind only. -/
theorem honest_properties : properties.Honest limit document "properties" := by
  intro path members v here there wellFormed d mem
  unfold properties at mem
  split at mem
  · obtain ⟨_, _, e⟩ := List.mem_map.mp mem
    cases e
  · exact described_bad here there mem ⟨⟨path, rfl⟩, (if_pos rfl).symm⟩

end Reading

theorem honest_keywords {limit : Nat} {document : Json} {type : ValueType} :
    ∀ k ∈ keywordReadings type, k.2.Honest limit document k.1 := by
  have fitting {fits : Json → Bool} {expected keyword : String} (other : keyword ≠ "properties") :
      (Reading.fitting fits expected).Honest limit document keyword := Reading.honest_fitting fits expected other
  cases type <;>
    simp [keywordReadings, Reading.count, Reading.integer, Reading.number, Reading.texts, Reading.flag, fitting,
      Reading.honest_divisor, Reading.honest_beside, Reading.honest_pattern, Reading.honest_format,
      Reading.honest_schema, Reading.honest_items, Reading.honest_dependents, Reading.honest_patterns,
      Reading.honest_properties]

/-! ## Schemas -/

theorem name_of_ofName? {name : String} {t : ValueType} (h : ValueType.ofName? name = some t) : t.name = name := by
  have := List.find?_some h
  simpa using this

theorem name_inj {s t : ValueType} (h : s.name = t.name) : s = t := by
  revert h
  cases s <;> cases t <;> decide

/-- A type that is given is wrong by itself, or is not the one that is needed. -/
theorem resolveType_error {needed : Option ValueType} {v : Json} {cause : Defect.Cause}
    (h : resolveType needed (some v) = .error cause) : ValueType.classify (some v) = .error cause ∨ ∃ n t,
      needed = some n ∧ ValueType.classify (some v) = .ok t ∧ n ≠ t ∧ cause = .conflictingType n.name t.name := by
  cases classified : ValueType.classify (some v) with
  | error e =>
    left
    cases needed <;> simpa [resolveType, classified] using h
  | ok t =>
    right
    cases needed with
    | none => simp [resolveType, classified] at h
    | some n =>
      by_cases same : n = t
      · simp [resolveType, classified, same] at h
      · simp only [resolveType, classified, if_neg same] at h
        exact ⟨n, t, rfl, rfl, same, (Except.error.inj h).symm⟩

theorem classify_eq_ok {v : Json} {t : ValueType} (h : ValueType.classify (some v) = .ok t) : v = .string t.name := by
  cases v with
  | string name =>
    simp only [ValueType.classify] at h
    split at h
    · rename_i found
      obtain rfl := Except.ok.inj h
      rw [name_of_ofName? found]
    · cases h
  | _ => cases h

/-- What is wrong with a type is said of the value that is given for it. -/
theorem described_type {limit : Nat} {document : Json} {needed : Option ValueType} {path : Path} {members : Members}
    {cause : Defect.Cause} (here : document.descend? path = some (.object members))
    (kind : needed = none ∨ needed = some .string)
    (unclear : resolveType needed (Json.member? members "type") = .error cause) :
    Defect.Described limit document ⟨path.key "type", cause⟩ := by
  cases declared : Json.member? members "type" with
  | none =>
    rw [declared] at unclear
    rcases kind with rfl | rfl
    · obtain rfl := Except.error.inj unclear
      exact Or.inl ⟨rfl, path, members, rfl, here, declared⟩
    · cases unclear
  | some v =>
    refine Or.inr ⟨v, descend?_to_key here declared, ?_⟩
    rw [declared] at unclear
    rcases resolveType_error unclear with unknown | ⟨n, t, rfl, classified, other, rfl⟩
    · cases v with
      | string name =>
        simp only [ValueType.classify] at unknown
        split at unknown
        · cases unknown
        · rename_i absent
          obtain rfl := Except.error.inj unknown
          exact ⟨⟨path, rfl⟩, rfl, absent⟩
      | _ =>
        obtain rfl := Except.error.inj unknown
        exact ⟨⟨path, rfl⟩, rfl, rfl⟩
    · obtain rfl : n = .string := by simpa using kind
      exact ⟨⟨path, rfl⟩, classify_eq_ok classified, rfl, fun e => other (name_inj e).symm⟩

theorem described_contents {limit : Nat} {document : Json} {needed : Option ValueType} {path : Path} {raw : Json}
    (here : document.descend? path = some raw) (wellFormed : raw.WellFormed)
    (kind : needed = none ∨ needed = some .string) {d : Defect} (mem : .problem d ∈ contents needed path raw) :
    d.Described limit document := by
  unfold contents at mem
  split at mem
  · split at mem
    · obtain ⟨⟨keyword, reading⟩, known, mem⟩ := List.mem_flatMap.mp mem
      obtain ⟨v, there, mem⟩ := mem_partsOf.mp mem
      exact honest_keywords _ known path _ v here there (wellFormed.member (mem_of_member? there)) d mem
    · rename_i unclear
      obtain rfl := Part.problem.inj (List.mem_singleton.mp mem)
      exact described_type here kind unclear
  · rename_i other
    obtain rfl := Part.problem.inj (List.mem_singleton.mp mem)
    refine Or.inr ⟨raw, here, ?_, rfl⟩
    cases raw with
    | object members => exact absurd rfl (other members)
    | _ => rfl

/-! ## Documents -/

/-- Whatever a schema is looked for as is no type at all, or text, for the names of members. -/
theorem Position.needed {level : Nat} {document raw : Json} {needed : Option ValueType} {path : Path}
    (position : Position document level needed path raw) : needed = none ∨ needed = some .string := by
  cases position with
  | root => exact Or.inl rfl
  | down above clear below => cases below <;> simp

/-- A defect that a limit leaves is what is wrong in a place, or stands for a schema beyond the limit. -/
theorem mem_report {limit : Nat} {document : Json} {d : Defect} (mem : d ∈ report limit 0 none [] document) :
    (∃ level needed path raw, Position document level needed path raw ∧ .problem d ∈ contents needed path raw) ∨
      ∃ needed path raw, Position document (limit + 1) needed path raw ∧ d = ⟨path, .depthExceeded limit⟩ := by
  rw [report_eq_cut (Nat.zero_le _)] at mem
  obtain ⟨⟨level, visit⟩, visited, kept⟩ := List.mem_filterMap.mp mem
  cases visit with
  | defect d' =>
    simp only [cut, Option.ite_none_right_eq_some, Option.some.injEq] at kept
    obtain ⟨-, rfl⟩ := kept
    obtain ⟨needed, path, raw, position, wrong⟩ := mem_visits_defect.mp visited
    exact Or.inl ⟨level, needed, path, raw, position, wrong⟩
  | schema path =>
    simp only [cut, Option.ite_none_right_eq_some, Option.some.injEq] at kept
    obtain ⟨rfl, rfl⟩ := kept
    obtain ⟨needed, raw, position⟩ := mem_visits_schema.mp visited
    exact Or.inr ⟨needed, path, raw, position, rfl⟩

/-- Every defect that keeps a document from compiling leads to something in it and tells the truth about it. -/
theorem defect_described (depth : Nat) (raw : Json) (h : raw.WellFormed) {ds : Defects}
    (failed : Schema.compileWithin depth raw = .error ds) : ∀ d ∈ ds.toList, d.Described depth raw := by
  intro d mem
  have defects := compileWithin_defects depth raw
  rw [failed] at defects
  have reported : d ∈ report depth 0 none [] raw := List.mem_eraseDups.mp (defects ▸ mem)
  rcases mem_report reported with ⟨level, needed, path, here, position, wrong⟩ | ⟨needed, path, here, position, rfl⟩
  · obtain ⟨there, wellFormed⟩ := descend?_of_position h position
    exact described_contents there wellFormed position.needed wrong
  · obtain ⟨there, -⟩ := descend?_of_position h position
    exact Or.inr ⟨here, there, rfl, needed, position⟩

/-- A bound that is text, beside a count of what is valid for a schema that is not there. -/
def muddled : Json :=
  .object [("items", .object [("maximum", .string "ten"), ("type", .string "integer")]),
    ("maxContains", .number (.integer 1 one_fits)), ("type", .string "array")]

/-- Both defects lead to what is wrong, and one shows it as it is written. -/
theorem defect_described_muddled :
    ∃ ds, Schema.compileWithin 4 muddled = .error ds ∧
      ds.toList = [⟨(Path.key [] "items").key "maximum", .invalidKeyword "maximum" "an integer" "\"ten\""⟩,
        ⟨Path.key [] "maxContains", .missingSibling "maxContains" "contains"⟩] ∧
      ∀ d ∈ ds.toList, d.Described 4 muddled := by
  have wellFormed : muddled.WellFormed := by
    simp only [muddled, Json.WellFormed, Json.WellFormedMembers, Json.Ordered, and_true]
    decide
  have failed : Schema.compileWithin 4 muddled =
      .error ⟨⟨(Path.key [] "items").key "maximum", .invalidKeyword "maximum" "an integer" "\"ten\""⟩,
        [⟨Path.key [] "maxContains", .missingSibling "maxContains" "contains"⟩]⟩ := by rfl
  exact ⟨_, failed, rfl, defect_described 4 muddled wellFormed failed⟩

end JsonSchema
