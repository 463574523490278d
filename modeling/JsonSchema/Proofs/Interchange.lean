/-
  JsonSchema.Proofs.Interchange — how numbers are written does not matter.

  Compiling a document with plain numbers reads from each keyword what compiling the document itself
  reads, but for the sign of a zero; so where both compile, the rules are alike one by one, with
  the schemas in them by induction on the levels that are left. What is wrong with both is the same
  but for the texts that are quoted. Two documents that are equal up to their numbers have one
  plain form, and meet there.

  Statements:
  - `compileNode_alike`: a schema is alike the one that the document with plain numbers compiles to.
  - `compile_numEqual`: documents and values of equal numbers are interchangeable.
-/

import JsonSchema.Proofs.Accepts
import JsonSchema.Proofs.Alike
import JsonSchema.Proofs.Sketch

namespace JsonSchema

open Json (Members plainItems plainMembers plainItems_eq_map plainMembers_eq_map member?_plain)

/-! ## What is built on both sides -/

/-- Where both sides build something, what they build is related. -/
def Meets {α β : Type} (R : α → β → Prop) (b : Built α) (b' : Built β) : Prop :=
  ∀ a a', b = .ok a → b' = .ok a' → R a a'

namespace Meets

variable {α β γ δ : Type} {R : α → β → Prop} {S : γ → δ → Prop}

theorem defect {path : Path} {cause : Defect.Cause} {b' : Built β} : Meets R (Built.defect path cause) b' :=
  fun _ _ h => absurd h (Built.defect_ne_ok _ _ _)

theorem map {f : α → γ} {g : β → δ} {b : Built α} {b' : Built β} (h : Meets R b b')
    (related : ∀ a a', R a a' → S (f a) (g a')) : Meets S (b.map f) (b'.map g) := by
  intro c c' hc hc'
  obtain ⟨a, ha, rfl⟩ := Built.map_eq_ok.mp hc
  obtain ⟨a', ha', rfl⟩ := Built.map_eq_ok.mp hc'
  exact related a a' (h a a' ha ha')

theorem both {a : Built α} {a' : Built β} {b : Built γ} {b' : Built δ} (h : Meets R a a') (h' : Meets S b b') :
    Meets (fun p p' => R p.1 p'.1 ∧ S p.2 p'.2) (a.both b) (a'.both b') := by
  intro c c' hc hc'
  obtain ⟨ha, hb⟩ := Built.both_eq_ok.mp hc
  obtain ⟨ha', hb'⟩ := Built.both_eq_ok.mp hc'
  exact ⟨h _ _ ha ha', h' _ _ hb hb'⟩

theorem all {parts : List (Built α)} {parts' : List (Built β)} (h : List.Forall₂ (Meets R) parts parts') :
    Meets (List.Forall₂ R) (Built.all parts) (Built.all parts') := by
  induction h with
  | nil =>
    intro l l' hl hl'
    obtain rfl := Except.ok.inj hl
    obtain rfl := Except.ok.inj hl'
    exact .nil
  | cons first _ ih =>
    rw [Built.all, Built.all]
    refine (first.both ih).map fun p p' related => ?_
    exact .cons related.1 related.2

/-- What is read from the value with plain numbers as well is the same. -/
theorem of_keeps {b b' : Built α} (h : ∀ a, b = .ok a → b' = .ok a) : Meets Eq b b' := by
  intro a a' ha ha'
  exact Except.ok.inj ((h a ha).symm.trans ha')

end Meets

/-- An entry builds related rules in a schema and in the one with plain numbers. -/
def Entry.Meets {ρ : Type} (R : ρ → ρ → Prop) (path : Path) (members : Members) (e : Entry ρ) : Prop :=
  ∀ v, Json.member? members e.keyword = some v →
    JsonSchema.Meets R (e.build path members v) (e.build path (plainMembers members) v.plain)

section

variable {ρ : Type} {R : ρ → ρ → Prop} {path : Path} {members : Members}

theorem Entry.meets_one {α : Type} {S : α → α → Prop} {keyword : String} {read : String → Path → Json → Built α}
    {rule : α → ρ} (h : ∀ v, JsonSchema.Meets S (read keyword path v) (read keyword path v.plain))
    (related : ∀ a a', S a a' → R (rule a) (rule a')) : (Entry.one keyword read rule).Meets R path members :=
  fun v _ => (h v).map related

/-- A keyword from which the same is read builds a rule that is alike itself. -/
theorem Entry.meets_same {α : Type} {keyword : String} {read : String → Path → Json → Built α} {rule : α → ρ}
    (h : ∀ v a, read keyword path v = .ok a → read keyword path v.plain = .ok a) (self : ∀ a, R (rule a) (rule a)) :
    (Entry.one keyword read rule).Meets R path members :=
  Entry.meets_one (fun v => .of_keeps (h v)) fun a _ same => same ▸ self a

theorem rules_meet {table : List (Entry ρ)} (h : ∀ e ∈ table, e.Meets R path members) :
    Meets (List.Forall₂ R) (Entry.rules table path members) (Entry.rules table path (plainMembers members)) := by
  refine Meets.all ?_
  induction table with
  | nil => exact .nil
  | cons e rest ih =>
    obtain ⟨first, others⟩ := List.forall_mem_cons.mp h
    simp only [List.filterMap_cons, Entry.build?, member?_plain]
    cases there : Json.member? members e.keyword with
    | none => exact ih others
    | some v => exact .cons (first v there) (ih others)

end

/-! ## Keywords -/

section

variable {keyword : String} {path : Path} {v : Json}

theorem readCount_plain {c : Nat} (h : readCount keyword path v = .ok c) : readCount keyword path v.plain = .ok c := by
  rw [readCount_eq_ok] at h ⊢
  obtain ⟨n, rfl, h⟩ := h
  refine ⟨n.plain, rfl, Number.toCount?_eq_some.mp ?_⟩
  rw [Number.toCount?_plain, Number.toCount?_eq_some.mpr h]

theorem isInteger_plain {i : Int} (h : v.IsInteger i) : v.plain.IsInteger i := by
  obtain ⟨n, rfl, h⟩ := h
  refine ⟨n.plain, rfl, Number.toInteger?_eq_some.mp ?_⟩
  rw [Number.toInteger?_plain, Number.toInteger?_eq_some.mpr h]

theorem readInteger_plain {i : Int} (h : readInteger keyword path v = .ok i) :
    readInteger keyword path v.plain = .ok i :=
  readInteger_eq_ok.mpr (isInteger_plain (readInteger_eq_ok.mp h))

theorem readIntegerDivisor_plain {d : Int} (h : readIntegerDivisor keyword path v = .ok d) :
    readIntegerDivisor keyword path v.plain = .ok d := by
  obtain ⟨is, nonzero⟩ := readIntegerDivisor_eq_ok.mp h
  exact readIntegerDivisor_eq_ok.mpr ⟨isInteger_plain is, nonzero⟩

theorem readBool_plain {b : Bool} (h : readBool keyword path v = .ok b) : readBool keyword path v.plain = .ok b := by
  obtain rfl := readBool_eq_ok.mp h
  rfl

theorem readPattern_plain {p : Pattern} (h : readPattern keyword path v = .ok p) :
    readPattern keyword path v.plain = .ok p := by
  obtain ⟨source, rfl, -⟩ := readPattern_eq_ok.mp h
  exact h

theorem readFormat_plain {f : Format} (h : readFormat keyword path v = .ok f) :
    readFormat keyword path v.plain = .ok f := by
  obtain ⟨name, rfl, -⟩ := readFormat_eq_ok.mp h
  exact h

theorem isDouble_plain {d : Double} (h : v.IsDouble d) : v.plain.IsDouble d.unsignedZero := by
  obtain ⟨n, rfl, rfl⟩ := h
  exact ⟨n.plain, rfl, n.toDouble_plain⟩

/-- A double is read without its signed zero. -/
theorem readNumber_meets : Meets (fun d d' => d' = d.unsignedZero) (readNumber keyword path v)
    (readNumber keyword path v.plain) := by
  intro d d' h h'
  rw [readNumber_eq_ok.mpr (isDouble_plain (readNumber_eq_ok.mp h))] at h'
  exact (Except.ok.inj h').symm

theorem readNumberDivisor_meets : Meets (fun d d' => d' = d.unsignedZero) (readNumberDivisor keyword path v)
    (readNumberDivisor keyword path v.plain) := by
  intro d d' h h'
  obtain ⟨is, nonzero⟩ := readNumberDivisor_eq_ok.mp h
  have same : readNumberDivisor keyword path v.plain = .ok d.unsignedZero :=
    readNumberDivisor_eq_ok.mpr ⟨isDouble_plain is, by rw [Double.units_unsignedZero]; exact nonzero⟩
  exact (Except.ok.inj (same.symm.trans h')).symm

theorem strings?_plain (v : Json) : strings? v.plain = strings? v := by
  cases v with
  | array items =>
    simp only [Json.plain, strings?, plainItems_eq_map]
    induction items with
    | nil => rfl
    | cons item rest ih =>
      rw [List.map_cons, List.mapM_cons, List.mapM_cons, ih]
      cases item <;> rfl
  | _ => rfl

theorem readStrings_plain {texts : List String} (h : readStrings keyword path v = .ok texts) :
    readStrings keyword path v.plain = .ok texts := by
  unfold readStrings at h ⊢
  rw [strings?_plain]
  cases found : strings? v with
  | some texts => rwa [found] at h
  | none =>
    rw [found] at h
    exact absurd h (Built.defect_ne_ok _ _ _)

theorem triggers_plain (lists : Members) :
    (plainMembers lists).mapM (fun (trigger, names) => (strings? names).map (trigger, ·)) =
      lists.mapM fun (trigger, names) => (strings? names).map (trigger, ·) := by
  induction lists with
  | nil => rfl
  | cons m rest ih =>
    rw [plainMembers, List.mapM_cons, List.mapM_cons, ih]
    simp only [strings?_plain]

theorem readDependent_plain {triggers : List (String × List String)} (h : readDependent keyword path v = .ok triggers) :
    readDependent keyword path v.plain = .ok triggers := by
  cases v with
  | object lists =>
    simp only [Json.plain, readDependent, readObject, triggers_plain] at h ⊢
    cases found : lists.mapM fun (trigger, names) => (strings? names).map (trigger, ·) with
    | some triggers => rwa [found] at h
    | none =>
      rw [found] at h
      exact absurd h (Built.defect_ne_ok _ _ _)
  | _ => exact absurd h (Built.defect_ne_ok _ _ _)

end

theorem stringRules_meet (path : Path) (members : Members) :
    Meets Eq (Entry.rules stringTable path members) (Entry.rules stringTable path (plainMembers members)) := by
  have each : ∀ e ∈ stringTable, e.Meets Eq path members := by
    simp only [stringTable, List.forall_mem_cons, List.not_mem_nil, false_imp_iff, implies_true, and_true]
    exact ⟨Entry.meets_same (fun _ _ => readCount_plain) fun _ => rfl,
      Entry.meets_same (fun _ _ => readCount_plain) fun _ => rfl,
      Entry.meets_same (fun _ _ => readPattern_plain) fun _ => rfl,
      Entry.meets_same (fun _ _ => readFormat_plain) fun _ => rfl⟩
  have rules := rules_meet each
  rwa [List.forall₂_eq_eq_eq] at rules

theorem integerRules_meet (path : Path) (members : Members) :
    Meets Eq (Entry.rules integerTable path members) (Entry.rules integerTable path (plainMembers members)) := by
  have each : ∀ e ∈ integerTable, e.Meets Eq path members := by
    simp only [integerTable_eq, List.forall_mem_cons, List.not_mem_nil, false_imp_iff, implies_true, and_true]
    have bound (b : Bound) (keyword : String) :
        (Entry.one keyword readInteger (IntegerRule.bound b)).Meets Eq path members :=
      Entry.meets_same (fun _ _ => readInteger_plain) fun _ => rfl
    exact ⟨bound _ _, bound _ _, bound _ _, bound _ _,
      Entry.meets_same (fun _ _ => readIntegerDivisor_plain) fun _ => rfl⟩
  have rules := rules_meet each
  rwa [List.forall₂_eq_eq_eq] at rules

theorem numberRules_meet (path : Path) (members : Members) : Meets (List.Forall₂ NumberRule.Alike)
    (Entry.rules numberTable path members) (Entry.rules numberTable path (plainMembers members)) := by
  refine rules_meet ?_
  simp only [numberTable_eq, List.forall_mem_cons, List.not_mem_nil, false_imp_iff, implies_true, and_true]
  have bound (b : Bound) (keyword : String) :
      (Entry.one keyword readNumber (NumberRule.bound b)).Meets NumberRule.Alike path members :=
    Entry.meets_one (fun _ => readNumber_meets) fun d _ same => same ▸ NumberRule.alike_bound b d
  exact ⟨bound _ _, bound _ _, bound _ _, bound _ _,
    Entry.meets_one (fun _ => readNumberDivisor_meets) fun d _ same => same ▸ NumberRule.alike_multipleOf d⟩

/-! ### Keywords with schemas -/

section

variable {sub : Path → Json → Built Schema}
  (below : ∀ path raw, Meets Schema.Alike (sub path raw) (sub path raw.plain)) (path : Path) (members : Members)

include below

theorem readItems_meet (keyword : String) (v : Json) :
    Meets ArrayRule.Alike (readItems sub keyword path v) (readItems sub keyword path v.plain) := by
  cases v with
  | object ms => exact (below _ _).map fun _ _ alike => ArrayRule.alike_items alike
  | array schemas =>
    simp only [Json.plain, readItems, plainItems_eq_map, List.mapIdx_eq_zipIdx_map, List.zipIdx_map, List.map_map]
    refine (Meets.all ?_).map fun _ _ alike => ArrayRule.alike_itemList alike
    refine List.forall₂_map_left_iff.mpr (List.forall₂_map_right_iff.mpr (List.forall₂_same.mpr fun p _ => ?_))
    exact below _ _
  | _ => exact .defect

theorem countContained_meets (keyword : String) {rule : Nat → Schema → ArrayRule}
    (alike : ∀ n s s', s.Alike s' → ArrayRule.Alike (rule n s) (rule n s')) :
    (countContained sub keyword rule).Meets ArrayRule.Alike path members := by
  intro v _
  simp only [countContained, Entry.beside, member?_plain]
  cases Json.member? members "contains" with
  | none => exact .defect
  | some contained =>
    refine (Meets.both (.of_keeps fun _ => readCount_plain) (below (path.key "contains") contained)).map ?_
    rintro ⟨n, s⟩ ⟨_, s'⟩ ⟨rfl, same⟩
    exact alike n s s' same

theorem arrayRules_meet : Meets (List.Forall₂ ArrayRule.Alike) (Entry.rules (arrayTable sub) path members)
    (Entry.rules (arrayTable sub) path (plainMembers members)) := by
  refine rules_meet ?_
  simp only [arrayTable, List.forall_mem_cons, List.not_mem_nil, false_imp_iff, implies_true, and_true]
  exact ⟨Entry.meets_same (fun _ _ => readCount_plain) ArrayRule.alike_minItems,
    Entry.meets_same (fun _ _ => readCount_plain) ArrayRule.alike_maxItems,
    Entry.meets_same (fun _ _ => readBool_plain) ArrayRule.alike_uniqueItems,
    Entry.meets_one (fun v => readItems_meet below path "items" v) fun _ _ alike => alike,
    Entry.meets_one (fun v => below _ v) fun _ _ alike => ArrayRule.alike_contains alike,
    countContained_meets below path members _ fun n _ _ alike => ArrayRule.alike_minContains alike n,
    countContained_meets below path members _ fun n _ _ alike => ArrayRule.alike_maxContains alike n⟩

theorem readPatterns_meet (keyword : String) (v : Json) :
    Meets (List.Forall₂ fun p p' => p'.1 = p.1 ∧ p.2.Alike p'.2) (readPatterns sub keyword path v)
      (readPatterns sub keyword path v.plain) := by
  cases v with
  | object sources =>
    simp only [Json.plain, readPatterns, readObject, plainMembers_eq_map, List.map_map]
    refine Meets.all ?_
    refine List.forall₂_map_left_iff.mpr (List.forall₂_map_right_iff.mpr (List.forall₂_same.mpr fun m _ => ?_))
    have pattern : Meets (fun p p' : Pattern => p' = p) (compilePattern keyword ((path.key keyword).key m.1) m.1)
        (compilePattern keyword ((path.key keyword).key m.1) m.1) :=
      fun p p' h h' => Except.ok.inj (h'.symm.trans h)
    exact pattern.both (below _ m.2)
  | _ => exact .defect

theorem readProperties_meet : Meets (List.Forall₂ fun p p' => p'.1 = p.1 ∧ p.2.Alike p'.2)
    (readProperties sub path members) (readProperties sub path (plainMembers members)) := by
  unfold readProperties
  rw [member?_plain]
  cases Json.member? members "properties" with
  | none =>
    intro l l' h h'
    obtain rfl := Except.ok.inj h
    obtain rfl := Except.ok.inj h'
    exact .nil
  | some v =>
    cases v with
    | object declared =>
      simp only [Option.map_some, Json.plain, plainMembers_eq_map]
      refine Meets.all ?_
      induction declared with
      | nil => exact .nil
      | cons m rest ih =>
        obtain ⟨name, raw⟩ := m
        cases raw with
        | object ms =>
          refine .cons ((below ((path.key "properties").key name) (.object ms)).map fun _ _ alike => ?_) ih
          exact ⟨rfl, alike⟩
        | _ => exact ih
    | _ => exact .defect

theorem objectRules_meet {names : Path → Json → Built (List StringRule)}
    (texts : ∀ path raw, Meets Eq (names path raw) (names path raw.plain)) :
    Meets (List.Forall₂ ObjectRule.Alike) (Entry.rules (objectTable sub names) path members)
      (Entry.rules (objectTable sub names) path (plainMembers members)) := by
  refine rules_meet ?_
  simp only [objectTable, List.forall_mem_cons, List.not_mem_nil, false_imp_iff, implies_true, and_true]
  exact ⟨Entry.meets_same (fun _ _ => readStrings_plain) ObjectRule.alike_required,
    Entry.meets_same (fun _ _ => readDependent_plain) ObjectRule.alike_dependentRequired,
    Entry.meets_same (fun _ _ => readCount_plain) ObjectRule.alike_minProperties,
    Entry.meets_same (fun _ _ => readCount_plain) ObjectRule.alike_maxProperties,
    Entry.meets_one (fun v => texts _ v) fun rules _ same => same ▸ ObjectRule.alike_propertyNames rules,
    Entry.meets_one (fun v => readPatterns_meet below path "patternProperties" v)
      fun _ _ alike => ObjectRule.alike_patternProperties alike⟩

end

/-! ## Schemas -/

theorem compileNames_meet (limit levels : Nat) (path : Path) (raw : Json) :
    Meets Eq (compileNames limit levels path raw) (compileNames limit levels path raw.plain) := by
  cases levels with
  | zero => exact .defect
  | succ levels =>
    cases raw with
    | object members =>
      simp only [Json.plain, compileNames, openNode, member?_plain, resolveType_plain]
      cases resolveType (some .string) (Json.member? members "type") with
      | error cause => exact .defect
      | ok type => exact stringRules_meet path members
    | _ => exact .defect

/-- What a document and the one with plain numbers compile to is alike. -/
theorem compileNode_alike (limit levels : Nat) (path : Path) (raw : Json) :
    Meets Schema.Alike (compileNode limit levels path raw) (compileNode limit levels path raw.plain) := by
  induction levels generalizing path raw with
  | zero => exact .defect
  | succ levels ih =>
    cases raw with
    | object members =>
      simp only [Json.plain, compileNode, openNode, member?_plain, resolveType_plain]
      cases resolveType none (Json.member? members "type") with
      | error cause => exact .defect
      | ok type =>
        cases type with
        | string => exact (stringRules_meet path members).map fun rules _ same => same ▸ Schema.alike_string rules
        | integer => exact (integerRules_meet path members).map fun rules _ same => same ▸ Schema.alike_integer rules
        | number => exact (numberRules_meet path members).map fun _ _ alike => Schema.alike_number alike
        | boolean =>
          intro s s' h h'
          obtain rfl := Except.ok.inj h
          obtain rfl := Except.ok.inj h'
          exact Schema.alike_boolean
        | null =>
          intro s s' h h'
          obtain rfl := Except.ok.inj h
          obtain rfl := Except.ok.inj h'
          exact Schema.alike_null
        | array => exact (arrayRules_meet ih path members).map fun _ _ alike => Schema.alike_array alike
        | object =>
          have properties := readProperties_meet ih path members
          have rules := objectRules_meet ih path members (compileNames_meet limit levels)
          exact (properties.both rules).map fun _ _ alike => Schema.alike_object alike.1 alike.2
    | _ => exact .defect

/-- A document compiles just when it does with plain numbers. -/
theorem compile_plain_iff {depth : Nat} {raw : Json} (wellFormed : raw.WellFormed) :
    (∃ s, Schema.compileWithin depth raw.plain = .ok s) ↔ ∃ s, Schema.compileWithin depth raw = .ok s := by
  have reports := report_plain depth 0 none [] raw
  have once : (report depth 0 none [] raw).Nodup := nodup_report wellFormed
  have once' : (report depth 0 none [] raw.plain).Nodup := nodup_report ((Json.wellFormed_plain raw).mpr wellFormed)
  rw [← Built.defects_eq_nil, ← Built.defects_eq_nil, compileWithin_defects, compileWithin_defects,
    eraseDups_of_nodup once, eraseDups_of_nodup once', ← List.map_eq_nil_iff (f := Defect.sketch), reports,
    List.map_eq_nil_iff]

/-- What is wrong with a document, sketched. -/
theorem sketches_eq {depth : Nat} {raw : Json} (wellFormed : raw.WellFormed) {ds : Defects}
    (h : Schema.compileWithin depth raw = .error ds) :
    ds.toList.map Defect.sketch = (report depth 0 none [] raw.plain).map Defect.sketch := by
  have defects := compileWithin_defects depth raw
  rw [h, Built.defects_error, eraseDups_of_nodup (nodup_report wellFormed)] at defects
  rw [defects, report_plain]

section

variable {depth : Nat} {raw raw' : Json} (wellFormed : raw.WellFormed) (same : raw.NumEqual raw')

include wellFormed same

theorem wellFormed_of_numEqual : raw'.WellFormed := by
  rw [← Json.wellFormed_plain, ← Json.plain_of_numEqual same, Json.wellFormed_plain]
  exact wellFormed

/-- Schemas of documents that are equal up to their numbers look alike and judge alike. -/
theorem alike_of_numEqual {s s' : Schema} (h : Schema.compileWithin depth raw = .ok s)
    (h' : Schema.compileWithin depth raw' = .ok s') : s.tree = s'.tree ∧
      ∀ t t' base, t.NumEqual t' → (s.check t base).trace = (s'.check t' base).trace := by
  obtain ⟨middle, hm⟩ := (compile_plain_iff wellFormed).mpr ⟨s, h⟩
  have alike := compileNode_alike depth (depth + 1) [] raw s middle (compileWithin_eq_ok.mp h)
    (compileWithin_eq_ok.mp hm)
  rw [Json.plain_of_numEqual same] at hm
  have alike' := compileNode_alike depth (depth + 1) [] raw' s' middle (compileWithin_eq_ok.mp h')
    (compileWithin_eq_ok.mp hm)
  refine ⟨alike.tree.symm.trans alike'.tree, fun t t' base equal => ?_⟩
  calc (s.check t base).trace = (middle.check t.plain base).trace := (alike.check t base).symm
    _ = (middle.check t'.plain base).trace := by rw [Json.plain_of_numEqual equal]
    _ = (s'.check t' base).trace := alike'.check t' base

end

/-- Equal traces say as much of whether a verdict passes, and where and by which keyword it fails. -/
theorem Verdict.of_trace {v v' : Verdict} (h : v.trace = v'.trace) : (v = .ok () ↔ v' = .ok ()) ∧
    ∀ e e', v = .error e → v' = .error e' → e.path = e'.path ∧ e.keyword = e'.keyword := by
  cases v with
  | ok _ =>
    cases v' with
    | ok _ => exact ⟨Iff.rfl, fun e _ failed => nomatch failed⟩
    | error _ => cases h
  | error e =>
    cases v' with
    | ok _ => cases h
    | error e' =>
      refine ⟨iff_of_false (fun failed => nomatch failed) (fun failed => nomatch failed), ?_⟩
      intro d d' hd hd'
      obtain rfl := Except.error.inj hd
      obtain rfl := Except.error.inj hd'
      exact Prod.mk.inj (Except.error.inj h)

/-- Numbers of equal value are interchangeable in documents and in values. Both documents compile or
    neither does. If both do, the schemas have the same types, keywords and properties, they accept the
    same values and refuse the others at the same place by the same keyword; if neither does, the
    same is wrong with both in the same order, but for the texts that are quoted. -/
theorem compile_numEqual (depth : Nat) {raw raw' : Json} (wellFormed : raw.WellFormed) (same : raw.NumEqual raw') :
    ((∃ s, Schema.compileWithin depth raw = .ok s) ↔ ∃ s', Schema.compileWithin depth raw' = .ok s') ∧
    (∀ ds ds', Schema.compileWithin depth raw = .error ds → Schema.compileWithin depth raw' = .error ds' →
      ds.toList.map Defect.sketch = ds'.toList.map Defect.sketch) ∧
    ∀ s s', Schema.compileWithin depth raw = .ok s → Schema.compileWithin depth raw' = .ok s' →
      s.tree = s'.tree ∧ ∀ t t' base, t.NumEqual t' →
        (s.validateAt t base = .ok () ↔ s'.validateAt t' base = .ok ()) ∧
        ∀ e e', s.validateAt t base = .error e → s'.validateAt t' base = .error e' →
          e.path = e'.path ∧ e.keyword = e'.keyword := by
  have wellFormed' : raw'.WellFormed := wellFormed_of_numEqual wellFormed same
  have plain : raw.plain = raw'.plain := Json.plain_of_numEqual same
  refine ⟨?_, fun ds ds' h h' => ?_, fun s s' h h' => ?_⟩
  · rw [← compile_plain_iff wellFormed, ← compile_plain_iff wellFormed', plain]
  · rw [sketches_eq wellFormed h, sketches_eq wellFormed' h', plain]
  · obtain ⟨tree, traces⟩ := alike_of_numEqual wellFormed same h h'
    exact ⟨tree, fun t t' base equal => Verdict.of_trace (traces t t' base equal)⟩

def evens (divisor : Number) : Json := .object [("multipleOf", .number divisor), ("type", .string "integer")]

/-- A divisor with a point and one without accept the same numbers, with a point or without. -/
theorem compile_numEqual_evens :
    let two : Number := .integer 2 (by decide)
    (evens two).WellFormed ∧ (evens two).NumEqual (evens (.float two.toDouble)) ∧
      ∃ s s', Schema.compileWithin 0 (evens two) = .ok s ∧
        Schema.compileWithin 0 (evens (.float two.toDouble)) = .ok s' ∧
          ∀ t t', t.NumEqual t' → (s.validate t = .ok () ↔ s'.validate t' = .ok ()) := by
  intro two
  have wellFormed : (evens two).WellFormed := by
    simp only [evens, Json.WellFormed, Json.WellFormedMembers, Json.Ordered, and_true]
    decide
  have value : two.value = (Number.float two.toDouble).value := by decide +kernel
  have same : (evens two).NumEqual (evens (.float two.toDouble)) :=
    ⟨rfl, value, rfl, rfl, trivial⟩
  have compiles : (Schema.compileWithin 0 (evens two)).isOk = true := by decide +kernel
  obtain ⟨both, -, alike⟩ := compile_numEqual 0 wellFormed same
  cases h : Schema.compileWithin 0 (evens two) with
  | error ds =>
    rw [h] at compiles
    cases compiles
  | ok s =>
    obtain ⟨s', h'⟩ := both.mp ⟨s, h⟩
    refine ⟨wellFormed, same, s, s', rfl, h', fun t t' equal => ?_⟩
    exact ((alike s s' h h').2 t t' [] equal).1

end JsonSchema
