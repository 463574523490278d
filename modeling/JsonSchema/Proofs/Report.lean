/-
  JsonSchema.Proofs.Report — compiling reports everything that is wrong, once and in order.

  `report` goes through a document and looks at each schema once: first whether it lies too
  deep, then at its contents in their order, the schemas below it in their places. Compiling
  looks at the schema of `contains` once more for each of `minContains` and `maxContains`, and
  so at one that lies under many of them many times over; all of that repeats what the first
  look has found, and goes when each defect is kept once.

  Statements:
  - `compileDefects_agree`: the defects of compiling agree with the report, whatever the document.
  - `nodup_report`: where each key of an object stands once, no defect is reported twice.
  - `compileWithin_report`: a schema comes out just when the report is empty, and otherwise
    the defects are the report. What the report of any schema holds is among them.
-/

import JsonSchema.Proofs.Defects
import JsonSchema.Proofs.Numbers
import JsonSchema.Proofs.Parts

namespace JsonSchema

open Json (Members)

/-- Everything that is wrong with what stands in a place, at a level. -/
def report (limit level : Nat) (needed : Option ValueType) (path : Path) (raw : Json) : List Defect :=
  if limit < level then [⟨path, .depthExceeded limit⟩]
  else (contents needed path raw).attach.flatMap fun
    | ⟨.problem d, _⟩ => [d]
    | ⟨.schema needed place raw, _⟩ => report limit (level + 1) needed place raw
termination_by sizeOf raw
decreasing_by exact sizeOf_lt_of_mem_contents ‹_›

theorem report_beyond {limit level : Nat} (h : limit < level) (needed : Option ValueType) (path : Path)
    (raw : Json) : report limit level needed path raw = [⟨path, .depthExceeded limit⟩] := by
  rw [report, if_pos h]

theorem report_within {limit level : Nat} (h : level ≤ limit) (needed : Option ValueType) (path : Path)
    (raw : Json) : report limit level needed path raw =
      (contents needed path raw).flatMap (Part.defects (report limit (level + 1))) := by
  rw [report, if_neg (Nat.not_lt.mpr h),
    List.flatMap_subtype (g := Part.defects (report limit (level + 1))) (fun part _ => by cases part <;> rfl),
    List.unattach_attach]

/-! ## Defects of keywords -/

def Entry.defects {ρ : Type} (path : Path) (members : Members) (e : Entry ρ) : List Defect :=
  match Json.member? members e.keyword with
  | none => []
  | some v => (e.build path members v).defects

theorem Entry.defects_of_none {ρ : Type} {e : Entry ρ} {path : Path} {members : Members}
    (h : Json.member? members e.keyword = none) : e.defects path members = [] := by
  rw [Entry.defects, h]

theorem Entry.defects_of_some {ρ : Type} {e : Entry ρ} {path : Path} {members : Members} {v : Json}
    (h : Json.member? members e.keyword = some v) : e.defects path members = (e.build path members v).defects := by
  rw [Entry.defects, h]

theorem rules_defects {ρ : Type} (table : List (Entry ρ)) (path : Path) (members : Members) :
    (Entry.rules table path members).defects = table.flatMap (Entry.defects path members) := by
  unfold Entry.rules
  rw [Built.defects_all]
  induction table with
  | nil => rfl
  | cons e rest ih =>
    unfold Entry.build? at ih ⊢
    rw [List.flatMap_cons, ← ih]
    unfold Entry.defects
    cases h : Json.member? members e.keyword <;> simp [h]

section

variable (below : Option ValueType → Path → Json → List Defect) {keyword : String} (path : Path)
  (members : Members) (v : Json)

theorem readCount_defects : (readCount keyword path v).defects =
    (Reading.count keyword path members v).flatMap (Part.defects below) := by
  cases v with
  | number n => cases h : n.toCount? <;>
      simp [readCount, Reading.count, Reading.fitting, Json.isCount, h, badValue, Reading.bad, Part.defects]
  | _ => rfl

theorem readInteger_defects : (readInteger keyword path v).defects =
    (Reading.integer keyword path members v).flatMap (Part.defects below) := by
  cases v with
  | number n => cases h : n.toInteger? <;>
      simp [readInteger, Reading.integer, Reading.fitting, Json.isInteger, h, badValue, Reading.bad, Part.defects]
  | _ => rfl

theorem readIntegerDivisor_defects : (readIntegerDivisor keyword path v).defects =
    (Reading.divisor .integer keyword path members v).flatMap (Part.defects below) := by
  have plain : (readInteger keyword path v).defects =
      (Reading.integer keyword path members v).flatMap (Part.defects below) :=
    readInteger_defects below path members v
  cases v with
  | number n =>
    have zero := n.toInteger?_eq_zero
    simp only [Reading.divisor, Json.isZero, beq_iff_eq, ← zero]
    simp only [readIntegerDivisor, readInteger] at plain ⊢
    cases h : n.toInteger? with
    | none =>
      rw [h] at plain
      rw [if_neg (by simp)]
      exact plain
    | some d =>
      by_cases hd : d = 0
      · simp [hd, Reading.bad, Part.defects]
      · simpa [h, hd] using plain
  | _ => rfl

theorem readNumber_defects : (readNumber keyword path v).defects =
    (Reading.number keyword path members v).flatMap (Part.defects below) := by
  cases v <;> rfl

theorem readNumberDivisor_defects : (readNumberDivisor keyword path v).defects =
    (Reading.divisor .number keyword path members v).flatMap (Part.defects below) := by
  cases v with
  | number n =>
    simp only [readNumberDivisor, readNumber, Reading.divisor, Json.isZero, beq_iff_eq]
    by_cases h : n.toDouble.units = 0 <;>
      simp [h, Reading.bad, Part.defects, Reading.number, Reading.fitting, Json.isNumber]
  | _ => rfl

theorem readBool_defects : (readBool keyword path v).defects =
    (Reading.flag keyword path members v).flatMap (Part.defects below) := by
  cases v <;> rfl

theorem isSome_mapM {α β : Type} (f : α → Option β) (l : List α) :
    (l.mapM f).isSome = l.all fun x => (f x).isSome := by
  induction l with
  | nil => rfl
  | cons x rest ih =>
    rw [List.mapM_cons, List.all_cons, ← ih]
    cases f x <;> cases rest.mapM f <;> rfl

theorem isSome_strings? : (strings? v).isSome = v.isTexts := by
  cases v with
  | array items =>
    unfold strings? Json.isTexts
    rw [isSome_mapM]
    congr 1
    funext item
    cases item <;> rfl
  | _ => rfl

theorem readStrings_defects : (readStrings keyword path v).defects =
    (Reading.texts keyword path members v).flatMap (Part.defects below) := by
  have fits := isSome_strings? v
  unfold readStrings Reading.texts Reading.fitting
  rw [← fits]
  cases strings? v <;> rfl

theorem compilePattern_defects (place : Path) (source : String) : (compilePattern keyword place source).defects =
    (Reading.badPattern keyword place source).flatMap (Part.defects below) := by
  unfold compilePattern Reading.badPattern
  cases Pattern.compile source <;> rfl

theorem readPattern_defects : (readPattern keyword path v).defects =
    (Reading.pattern keyword path members v).flatMap (Part.defects below) := by
  cases v with
  | string source => exact compilePattern_defects below _ source
  | _ => rfl

theorem readFormat_defects : (readFormat keyword path v).defects =
    (Reading.format keyword path members v).flatMap (Part.defects below) := by
  cases v with
  | string name =>
    simp only [readFormat, readString, Reading.format]
    cases Format.ofName? name <;> rfl
  | _ => rfl

theorem readDependent_defects : (readDependent keyword path v).defects =
    (Reading.dependents keyword path members v).flatMap (Part.defects below) := by
  cases v with
  | object triggers =>
    have fits : (triggers.mapM fun x => (strings? x.2).map (x.1, ·)).isSome = triggers.all (·.2.isTexts) := by
      rw [isSome_mapM]
      simp [isSome_strings?]
    simp only [readDependent, readObject, Reading.dependents]
    rw [← fits]
    cases triggers.mapM fun x => (strings? x.2).map (x.1, ·) <;> rfl
  | _ => rfl

/-- A keyword that looks at its own value only has the defects of its parts. -/
theorem defects_one {ρ α : Type} {read : String → Path → Json → Built α} {reading : Reading} {rule : α → ρ}
    (h : ∀ v, (read keyword path v).defects = (reading keyword path members v).flatMap (Part.defects below)) :
    (Entry.one keyword read rule).defects path members =
      (partsOf path members (keyword, reading)).flatMap (Part.defects below) := by
  cases found : Json.member? members keyword with
  | none => rw [Entry.defects_of_none found, partsOf_none found, List.flatMap_nil]
  | some v =>
    rw [Entry.defects_of_some found, partsOf_some found, ← h]
    exact Built.defects_map _ _

end

/-! ## Defects of schemas -/

/-- The defects of compiling what stands in a place with `levels` levels left. -/
def compileDefects (limit levels : Nat) : Option ValueType → Path → Json → List Defect
  | none, path, raw => (compileNode limit levels path raw).defects
  | some _, path, raw => (compileNames limit levels path raw).defects

section

variable (limit levels : Nat) (path : Path) (members : Members)

theorem readItems_defects (keyword : String) (v : Json) :
    (readItems (compileNode limit levels) keyword path v).defects =
      (Reading.items keyword path members v).flatMap (Part.defects (compileDefects limit levels)) := by
  cases v with
  | object ms => simp [readItems, Reading.items, Reading.schema, Part.defects, compileDefects]
  | array schemas =>
    simp only [readItems, Reading.items, Built.defects_map, Built.defects_all]
    rw [List.mapIdx_eq_zipIdx_map, List.mapIdx_eq_zipIdx_map, List.flatMap_map, List.flatMap_map]
    rfl
  | _ => rfl

theorem readPatterns_defects (keyword : String) (v : Json) :
    (readPatterns (compileNode limit levels) keyword path v).defects =
      (Reading.patterns keyword path members v).flatMap (Part.defects (compileDefects limit levels)) := by
  cases v with
  | object sources =>
    simp only [readPatterns, readObject, Reading.patterns, Built.defects_all]
    rw [List.flatMap_map, List.flatMap_assoc]
    congr 1
    funext s
    rw [Built.defects_both, compilePattern_defects (compileDefects limit levels), List.flatMap_append]
    simp [Part.defects, compileDefects]
  | _ => rfl

theorem readProperties_defects :
    (readProperties (compileNode limit levels) path members).defects =
      (partsOf path members ("properties", .properties)).flatMap (Part.defects (compileDefects limit levels)) := by
  cases found : Json.member? members "properties" with
  | none =>
    rw [readProperties, partsOf, found]
    rfl
  | some v =>
    rw [partsOf_some found]
    cases v with
    | object declared =>
      rw [readProperties_object path found, Built.defects_all]
      simp [Reading.properties, List.flatMap_map, Part.defects, compileDefects]
    | _ =>
      rw [readProperties, found]
      rfl

/-- The schema of `contains` gives nothing that its own entry does not give. -/
theorem countContained_defects (keyword : String) (rule : Nat → Schema → ArrayRule) :
    ∃ again ⊆ (partsOf path members ("contains", .schema none)).flatMap
        (Part.defects (compileDefects limit levels)),
      (countContained (compileNode limit levels) keyword rule).defects path members =
        (partsOf path members (keyword, .beside "contains" .count)).flatMap
          (Part.defects (compileDefects limit levels)) ++ again := by
  cases found : Json.member? members keyword with
  | none =>
    refine ⟨[], List.nil_subset _, ?_⟩
    rw [Entry.defects_of_none found, partsOf_none found]
    rfl
  | some v =>
    rw [Entry.defects_of_some found, partsOf_some found]
    simp only [countContained, Entry.beside, Reading.beside]
    cases contains : Json.member? members "contains" with
    | none => exact ⟨[], List.nil_subset _, rfl⟩
    | some contained =>
      refine ⟨compileDefects limit levels none (path.key "contains") contained, ?_, ?_⟩
      · simp [partsOf_some contains, Reading.schema, Part.defects]
      · rw [Built.defects_map, Built.defects_both, readCount_defects (compileDefects limit levels) path members]
        rfl

theorem stringRules_defects (below : Option ValueType → Path → Json → List Defect) :
    (Entry.rules stringTable path members).defects =
      (parts .string path members).flatMap (Part.defects below) := by
  rw [rules_defects]
  simp only [stringTable, parts, keywordReadings, List.flatMap_cons, List.flatMap_nil, List.flatMap_append,
    defects_one below path members (readCount_defects below path members),
    defects_one below path members (readPattern_defects below path members),
    defects_one below path members (readFormat_defects below path members)]

theorem integerRules_defects (below : Option ValueType → Path → Json → List Defect) :
    (Entry.rules integerTable path members).defects =
      (parts .integer path members).flatMap (Part.defects below) := by
  rw [rules_defects, integerTable_eq]
  simp only [parts, keywordReadings, List.flatMap_cons, List.flatMap_nil, List.flatMap_append,
    defects_one below path members (readInteger_defects below path members),
    defects_one below path members (readIntegerDivisor_defects below path members)]

theorem numberRules_defects (below : Option ValueType → Path → Json → List Defect) :
    (Entry.rules numberTable path members).defects =
      (parts .number path members).flatMap (Part.defects below) := by
  rw [rules_defects, numberTable_eq]
  simp only [parts, keywordReadings, List.flatMap_cons, List.flatMap_nil, List.flatMap_append,
    defects_one below path members (readNumber_defects below path members),
    defects_one below path members (readNumberDivisor_defects below path members)]

theorem objectRules_defects :
    ((readProperties (compileNode limit levels) path members).both
      (Entry.rules (objectTable (compileNode limit levels) (compileNames limit levels)) path members)).defects =
      (parts .object path members).flatMap (Part.defects (compileDefects limit levels)) := by
  have names : (Entry.one "propertyNames" (fun keyword path v => compileNames limit levels (path.key keyword) v)
      ObjectRule.propertyNames).defects path members =
        (partsOf path members ("propertyNames", .schema (some .string))).flatMap
          (Part.defects (compileDefects limit levels)) :=
    defects_one _ path members fun v => by simp [Reading.schema, Part.defects, compileDefects]
  rw [Built.defects_both, rules_defects, readProperties_defects]
  simp only [objectTable, parts, keywordReadings, List.flatMap_cons, List.flatMap_nil, List.flatMap_append,
    defects_one (compileDefects limit levels) path members (readCount_defects _ path members),
    defects_one (compileDefects limit levels) path members (readStrings_defects _ path members),
    defects_one (compileDefects limit levels) path members (readDependent_defects _ path members),
    defects_one (compileDefects limit levels) path members
      (readPatterns_defects limit levels path members "patternProperties"), names]

/-- Up to what comes again, the defects of an array schema are those of its parts. -/
theorem arrayRules_agree :
    Agree (Entry.rules (arrayTable (compileNode limit levels)) path members).defects
      ((parts .array path members).flatMap (Part.defects (compileDefects limit levels))) := by
  have contains : (Entry.one "contains" (fun keyword path v => compileNode limit levels (path.key keyword) v)
      ArrayRule.contains).defects path members =
        (partsOf path members ("contains", .schema none)).flatMap (Part.defects (compileDefects limit levels)) :=
    defects_one _ path members fun v => by simp [Reading.schema, Part.defects, compileDefects]
  obtain ⟨again, sub, least⟩ := countContained_defects limit levels path members "minContains" .minContains
  obtain ⟨again', sub', most⟩ := countContained_defects limit levels path members "maxContains" .maxContains
  rw [rules_defects]
  simp only [arrayTable, parts, keywordReadings, List.flatMap_cons, List.flatMap_nil, List.flatMap_append,
    defects_one (compileDefects limit levels) path members (readCount_defects _ path members),
    defects_one (compileDefects limit levels) path members (readBool_defects _ path members),
    defects_one (compileDefects limit levels) path members (readItems_defects limit levels path members "items"),
    contains, least, most, List.append_nil]
  exact Agree.rfl.append (Agree.rfl.append (Agree.rfl.append (Agree.rfl.append (agree_skip sub sub'))))

end

/-- Whatever the document, compiling it finds what the report says, and nothing out of turn. -/
theorem compileDefects_agree (limit : Nat) :
    ∀ (levels level : Nat), levels + level = limit + 1 →
      ∀ (needed : Option ValueType), needed = none ∨ needed = some .string → ∀ (path : Path) (raw : Json),
        Agree (compileDefects limit levels needed path raw) (report limit level needed path raw) := by
  intro levels
  induction levels with
  | zero =>
    intro level hl needed hn path raw
    rw [report_beyond (by omega)]
    rcases hn with rfl | rfl <;> exact .rfl
  | succ levels ih =>
    intro level hl needed hn path raw
    rw [report_within (by omega)]
    have node : Agree (compileDefects limit (levels + 1) needed path raw)
        ((contents needed path raw).flatMap (Part.defects (compileDefects limit levels))) := by
      cases raw with
      | object members =>
        rcases hn with rfl | rfl
        · simp only [compileDefects, compileNode, openNode, contents]
          cases resolveType none (Json.member? members "type") with
          | error cause => exact .rfl
          | ok type =>
            cases type with
            | string => simp [stringRules_defects path members (compileDefects limit levels), Agree.rfl]
            | integer => simp [integerRules_defects path members (compileDefects limit levels), Agree.rfl]
            | number => simp [numberRules_defects path members (compileDefects limit levels), Agree.rfl]
            | object => simp only [Built.defects_map, objectRules_defects, Agree.rfl]
            | array => simpa only [Built.defects_map] using arrayRules_agree limit levels path members
            | boolean => exact .rfl
            | null => exact .rfl
        · simp only [compileDefects, compileNames, openNode, contents]
          cases h : resolveType (some .string) (Json.member? members "type") with
          | error cause => exact .rfl
          | ok type =>
            obtain rfl := resolveType_needed h
            simp [stringRules_defects path members (compileDefects limit levels), Agree.rfl]
      | _ => rcases hn with rfl | rfl <;> exact .rfl
    refine node.trans (Agree.flatMap fun part hpart => ?_)
    cases part with
    | problem d => exact .rfl
    | schema needed' place raw' =>
      obtain ⟨members, type, -, -, below⟩ := mem_contents_schema.mp hpart
      exact ih (level + 1) (by omega) needed' below.needed place raw'

/-! ## Nothing twice -/

def Part.place : Part → Path
  | .problem d => d.path
  | .schema _ path _ => path

/-- The parts of a keyword stand at the keyword or below it. -/
theorem key_prefix_place {type : ValueType} {k : String × Reading} (hk : k ∈ keywordReadings type) {path : Path}
    {members : Members} {v : Json} {part : Part} (h : part ∈ k.2 k.1 path members v) :
    path.key k.1 <+: part.place := by
  obtain ⟨keyword, reading⟩ := k
  have leaf_prefix {reading : Reading} (leaf : reading.Leaf) (h : part ∈ reading keyword path members v) :
      path.key keyword <+: part.place := by
    rcases leaf keyword path members v with e | ⟨cause, e⟩
    · rw [e] at h; cases h
    · rw [e] at h
      obtain rfl := List.mem_singleton.mp h
      exact List.prefix_rfl
  rcases leaf_or_nesting hk with leaf | nesting
  · exact leaf_prefix leaf h
  cases nesting with
  | properties =>
    simp only [Reading.properties] at h
    split at h
    · obtain ⟨⟨name, raw⟩, -, rfl⟩ := List.mem_map.mp h
      exact List.prefix_append _ _
    · obtain rfl := List.mem_singleton.mp h
      exact List.prefix_rfl
  | names =>
    obtain rfl := List.mem_singleton.mp h
    exact List.prefix_rfl
  | patterns =>
    simp only [Reading.patterns] at h
    split at h
    · obtain ⟨⟨source, raw⟩, -, h⟩ := List.mem_flatMap.mp h
      rcases List.mem_append.mp h with h | h
      · obtain ⟨reason, rfl⟩ := place_of_mem_badPattern h
        exact List.prefix_append _ _
      · obtain rfl := List.mem_singleton.mp h
        exact List.prefix_append _ _
    · exact leaf_prefix (Reading.leaf_fitting _ _) h
  | items =>
    simp only [Reading.items] at h
    split at h
    · obtain rfl := List.mem_singleton.mp h
      exact List.prefix_rfl
    · obtain ⟨i, hi, rfl⟩ := List.mem_mapIdx.mp h
      exact List.prefix_append _ _
    · exact leaf_prefix (Reading.leaf_fitting _ _) h
  | contains =>
    obtain rfl := List.mem_singleton.mp h
    exact List.prefix_rfl

/-- What is found in a place stands there, or under the type, or under a keyword. -/
theorem prefix_place {needed : Option ValueType} {path : Path} {raw : Json} {part : Part}
    (h : part ∈ contents needed path raw) : path <+: part.place := by
  unfold contents at h
  split at h
  · split at h
    · obtain ⟨k, hk, h⟩ := List.mem_flatMap.mp h
      obtain ⟨v, -, h⟩ := mem_partsOf.mp h
      exact (List.prefix_append _ _).trans (key_prefix_place hk h)
    · obtain rfl := List.mem_singleton.mp h
      exact List.prefix_append _ _
  · obtain rfl := List.mem_singleton.mp h
    exact List.prefix_rfl

/-- A defect of what stands in a place stands there or below. -/
theorem prefix_of_mem_report {limit level : Nat} {needed : Option ValueType} {path : Path} {raw : Json}
    {d : Defect} (h : d ∈ report limit level needed path raw) : path <+: d.path := by
  by_cases hl : limit < level
  · rw [report_beyond hl] at h
    obtain rfl := List.mem_singleton.mp h
    exact List.prefix_rfl
  · rw [report_within (by omega)] at h
    obtain ⟨part, hp, h⟩ := List.mem_flatMap.mp h
    refine (prefix_place hp).trans ?_
    cases part with
    | problem e =>
      obtain rfl := List.mem_singleton.mp h
      exact List.prefix_rfl
    | schema needed' place raw' =>
      have smaller := sizeOf_lt_of_mem_contents hp
      exact prefix_of_mem_report h
termination_by sizeOf raw

/-- At its own place, a schema has no defects but being no object or too deep. -/
theorem cause_of_mem_report {limit level : Nat} {needed : Option ValueType} {path : Path} {raw : Json}
    {cause : Defect.Cause} (h : ⟨path, cause⟩ ∈ report limit level needed path raw) :
    cause = .depthExceeded limit ∨ cause = .notAnObject raw.kindName := by
  have strict {s : Segment} (h : path ++ [s] <+: path) : False := by
    have := h.length_le
    rw [List.length_append, List.length_singleton] at this
    omega
  by_cases hl : limit < level
  · rw [report_beyond hl] at h
    simp at h
    exact Or.inl h
  · rw [report_within (by omega)] at h
    obtain ⟨part, hp, h⟩ := List.mem_flatMap.mp h
    have below : part.place <+: path := by
      cases part with
      | problem e =>
        obtain rfl := List.mem_singleton.mp h
        exact List.prefix_rfl
      | schema needed' place raw' => exact prefix_of_mem_report h
    unfold contents at hp
    split at hp
    · split at hp
      · obtain ⟨k, hk, hp⟩ := List.mem_flatMap.mp hp
        obtain ⟨v, -, hp⟩ := mem_partsOf.mp hp
        exact (strict ((key_prefix_place hk hp).trans below)).elim
      · obtain rfl := List.mem_singleton.mp hp
        exact (strict below).elim
    · obtain rfl := List.mem_singleton.mp hp
      obtain ⟨-, rfl⟩ := Defect.mk.inj (List.mem_singleton.mp h)
      exact Or.inr rfl

/-- The parts of a schema have no defect in common. -/
def Apart (limit level : Nat) (p q : Part) : Prop :=
  ∀ d, d ∈ p.defects (report limit level) → d ∉ q.defects (report limit level)

theorem prefix_of_mem_defects {limit level : Nat} {part : Part} {d : Defect}
    (h : d ∈ part.defects (report limit level)) : part.place <+: d.path := by
  cases part with
  | problem e =>
    obtain rfl := List.mem_singleton.mp h
    exact List.prefix_rfl
  | schema needed place raw => exact prefix_of_mem_report h

/-- Two ways down from one place part at once. -/
theorem segment_inj {path r : Path} {s t : Segment} (hs : path ++ [s] <+: r) (ht : path ++ [t] <+: r) : s = t := by
  have := List.prefix_of_prefix_length_le hs ht (by simp)
  simpa using this

theorem apart_of_ne {limit level : Nat} {p q : Part} {path : Path} {s t : Segment}
    (hp : path ++ [s] <+: p.place) (hq : path ++ [t] <+: q.place) (h : s ≠ t) : Apart limit level p q :=
  fun _ hd hd' => h (segment_inj (hp.trans (prefix_of_mem_defects hd)) (hq.trans (prefix_of_mem_defects hd')))

/-- The parts of one keyword are apart. -/
theorem pairwise_reading {limit level : Nat} {type : ValueType} {keyword : String} {reading : Reading}
    (hk : (keyword, reading) ∈ keywordReadings type) {path : Path} {members : Members} {v : Json}
    (h : v.WellFormed) : (reading keyword path members v).Pairwise (Apart limit level) := by
  have leaf_pairwise {reading : Reading} (leaf : reading.Leaf) :
      (reading keyword path members v).Pairwise (Apart limit level) := by
    rcases leaf keyword path members v with e | ⟨cause, e⟩
    · rw [e]; exact .nil
    · rw [e]; exact List.pairwise_singleton _ _
  rcases leaf_or_nesting hk with leaf | nesting
  · exact leaf_pairwise leaf
  cases nesting with
  | properties =>
    simp only [Reading.properties]
    split
    · refine List.pairwise_map.mpr ((h.pairwise.filter _).imp fun lt => ?_)
      exact apart_of_ne List.prefix_rfl List.prefix_rfl fun e => String.lt_irrefl _ (Segment.key.inj e ▸ lt)
    · exact List.pairwise_singleton _ _
  | names => exact List.pairwise_singleton _ _
  | patterns =>
    simp only [Reading.patterns]
    split
    · refine List.pairwise_flatMap.mpr ⟨fun m _ => ?_, h.pairwise.imp fun lt p hp q hq => ?_⟩
      · refine List.pairwise_append.mpr ⟨?_, List.pairwise_singleton _ _, fun p hp q hq => ?_⟩
        · unfold Reading.badPattern
          split
          · exact .nil
          · exact List.pairwise_singleton _ _
        · -- the pattern and its schema stand in one place and differ by what may be wrong there
          obtain ⟨reason, rfl⟩ := place_of_mem_badPattern hp
          obtain rfl := List.mem_singleton.mp hq
          intro d hd hd'
          obtain rfl := List.mem_singleton.mp hd
          rcases cause_of_mem_report hd' with e | e <;> cases e
      · have place {m : String × Json} {p : Part} (hp : p ∈ Reading.badPattern "patternProperties"
            ((path.key "patternProperties").key m.1) m.1 ++
              [.schema none ((path.key "patternProperties").key m.1) m.2]) :
            (path.key "patternProperties").key m.1 <+: p.place := by
          rcases List.mem_append.mp hp with hp | hp
          · obtain ⟨reason, rfl⟩ := place_of_mem_badPattern hp
            exact List.prefix_rfl
          · obtain rfl := List.mem_singleton.mp hp
            exact List.prefix_rfl
        exact apart_of_ne (place hp) (place hq) fun e => String.lt_irrefl _ (Segment.key.inj e ▸ lt)
    · exact leaf_pairwise (Reading.leaf_fitting _ _)
  | items =>
    simp only [Reading.items]
    split
    · exact List.pairwise_singleton _ _
    · rw [List.pairwise_iff_getElem]
      intro i j hi hj lt
      rw [List.getElem_mapIdx, List.getElem_mapIdx]
      exact apart_of_ne List.prefix_rfl List.prefix_rfl fun e => by
        have := Segment.index.inj e
        omega
    · exact leaf_pairwise (Reading.leaf_fitting _ _)
  | contains => exact List.pairwise_singleton _ _

theorem keyword_ne {type : ValueType} :
    (keywordReadings type).Pairwise fun k l => k.1 ≠ l.1 := by
  cases type <;> simp [keywordReadings]

/-- Different parts of one schema are apart, where no object has a key twice. -/
theorem pairwise_contents {limit level : Nat} {needed : Option ValueType} {path : Path} {raw : Json}
    (h : raw.WellFormed) : (contents needed path raw).Pairwise (Apart limit level) := by
  unfold contents
  split
  · rename_i members
    split
    · rename_i type _
      refine List.pairwise_flatMap.mpr ⟨fun k hk => ?_, ?_⟩
      · obtain ⟨keyword, reading⟩ := k
        cases found : Json.member? members keyword with
        | none =>
          rw [partsOf_none found]
          exact .nil
        | some v =>
          rw [partsOf_some found]
          exact pairwise_reading hk (h.member (mem_of_member? found))
      · refine keyword_ne.imp_of_mem ?_
        rintro ⟨k, r⟩ ⟨l, q⟩ hk hl ne p hp q hq
        obtain ⟨v, -, hp⟩ := mem_partsOf.mp hp
        obtain ⟨w, -, hq⟩ := mem_partsOf.mp hq
        exact apart_of_ne (key_prefix_place hk hp) (key_prefix_place hl hq) fun e => ne (Segment.key.inj e)
    · exact List.pairwise_singleton _ _
  · exact List.pairwise_singleton _ _

/-- Nothing is reported twice. -/
theorem nodup_report {limit level : Nat} {needed : Option ValueType} {path : Path} {raw : Json}
    (h : raw.WellFormed) : (report limit level needed path raw).Nodup := by
  by_cases hl : limit < level
  · rw [report_beyond hl]
    exact List.pairwise_singleton _ _
  · rw [report_within (by omega)]
    refine List.pairwise_flatMap.mpr ⟨fun part hp => ?_, ?_⟩
    · cases part with
      | problem d => exact List.pairwise_singleton _ _
      | schema needed' place raw' =>
        have smaller := sizeOf_lt_of_mem_contents hp
        exact nodup_report (wellFormed_of_mem_contents h hp)
    · exact (pairwise_contents h).imp fun apart d hd e he => fun same => apart d hd (same ▸ he)
termination_by sizeOf raw

/-! ## The outcome of compiling -/

/-- What is reported of any schema in a document is reported of the document. -/
theorem report_subset_of_position {limit level : Nat} {document raw : Json} {needed : Option ValueType}
    {path : Path} (h : Position document level needed path raw) (hl : level ≤ limit + 1) :
    report limit level needed path raw ⊆ report limit 0 none [] document := by
  induction h with
  | root => exact fun d hd => hd
  | @down level needed needed' path place members type raw above clear below ih =>
    intro d hd
    refine ih (by omega) ?_
    rw [report_within (by omega)]
    exact List.mem_flatMap.mpr ⟨_, mem_contents_schema.mpr ⟨members, type, rfl, clear, below⟩, hd⟩

theorem defects_dedup {α : Type} (b : Built α) : Built.defects (b.mapError Defects.dedup) = b.defects.eraseDups := by
  cases b with
  | ok a => rfl
  | error ds => exact ds.toList_dedup

/-- The defects of compiling are those of the report, each once. -/
theorem compileWithin_defects (depth : Nat) (raw : Json) :
    Built.defects (Schema.compileWithin depth raw) = (report depth 0 none [] raw).eraseDups := by
  have agree := compileDefects_agree depth (depth + 1) 0 rfl none (Or.inl rfl) [] raw
  exact (defects_dedup _).trans agree

/-- Compiling gives a schema just when there is nothing to report, and otherwise exactly the report,
    in its order, where nothing stands twice; no defect of one schema hides one of another. -/
theorem compileWithin_report (depth : Nat) (raw : Json) (h : raw.WellFormed) :
    ((∃ s, Schema.compileWithin depth raw = .ok s) ↔ report depth 0 none [] raw = []) ∧
      (∀ ds, Schema.compileWithin depth raw = .error ds → ds.toList = report depth 0 none [] raw) ∧
      (report depth 0 none [] raw).Nodup ∧
      ∀ level needed path raw', Position raw level needed path raw' → level ≤ depth + 1 →
        report depth level needed path raw' ⊆ report depth 0 none [] raw := by
  have once : (report depth 0 none [] raw).Nodup := nodup_report h
  have defects := compileWithin_defects depth raw
  rw [eraseDups_of_nodup once] at defects
  refine ⟨?_, fun ds hds => ?_, once, fun level needed path raw' position hl =>
    report_subset_of_position position hl⟩
  · rw [← defects]
    exact Built.defects_eq_nil.symm
  · rw [← defects, hds]
    rfl

/-- An unknown type below two `contains`, each beside the keywords that build it once more. -/
def counted : Json :=
  .object [("contains", .object [("contains", .object [("type", .string "none")]),
      ("maxContains", .number (.integer 1 (by decide))), ("minContains", .number (.integer (-1) (by decide))),
      ("type", .string "array")]),
    ("maxContains", .number (.integer 1 (by decide))), ("minContains", .number (.integer 1 (by decide))),
    ("type", .string "array")]

/-- Compiling finds the type nine times and the bad count three times; each is reported once. -/
theorem compileWithin_report_counted :
    (compileDefects 2 3 none [] counted).length = 12 ∧ (report 2 0 none [] counted).length = 2 ∧
      ∃ ds, Schema.compileWithin 2 counted = .error ds ∧ ds.toList = report 2 0 none [] counted := by
  have wellFormed : counted.WellFormed := by
    simp only [counted, Json.WellFormed, Json.WellFormedMembers, Json.Ordered, and_true]
    decide
  have two : (report 2 0 none [] counted).length = 2 := by decide +kernel
  obtain ⟨ok, error, -, -⟩ := compileWithin_report 2 counted wellFormed
  refine ⟨by decide +kernel, two, ?_⟩
  cases h : Schema.compileWithin 2 counted with
  | ok s => simp [ok.mp ⟨s, h⟩] at two
  | error ds => exact ⟨ds, rfl, error ds h⟩

end JsonSchema
