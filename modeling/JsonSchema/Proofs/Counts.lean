/-
  JsonSchema.Proofs.Counts — bounds on how many there are.

  Eight keywords bound a count: two each for the characters of a text, the items of an array, those of its
  items that are valid for `contains`, and the properties of an object. They are one keyword with two
  parameters, the side of the bound and what is counted (`CountBound`).

  The bound is read by way of the nearest double, so it is what the document says as long as that is a
  double, and the whole number nearest to it among the doubles where it is not. Nothing is said of numbers
  whose nearest double is 2^64 itself.

  A keyword is looked at by its clause, in any schema and at any depth: a schema compiles just when its
  clauses are built and checks a value by asking them (`compileNode_iff_clauses`, `check_clauses`).

  Statements:
  - `count_clause`: the clause of a keyword that bounds a count.
  - `count_enforced`: which values are bounds, and that the count is held against what they say.
  - `count_rounded`: a bound that is no double is enforced as its neighbour.
-/

import JsonSchema.Proofs.Keywords
import JsonSchema.Proofs.Rounding

namespace JsonSchema

open Json (Members)

/-! ## Bounds on counts -/

inductive Side where
  | least
  | most
  deriving DecidableEq

namespace Side

def holds (side : Side) (count bound : Nat) : Bool :=
  match side with
  | least => decide (bound ≤ count)
  | most => decide (count ≤ bound)

def phrase : Side → String
  | least => "at least "
  | most => "at most "

/-! The rules with a bound on this side. -/

def lengthRule : Side → Nat → StringRule
  | least => .minLength
  | most => .maxLength

def itemsRule : Side → Nat → ArrayRule
  | least => .minItems
  | most => .maxItems

def containsRule : Side → Nat → Schema → ArrayRule
  | least => .minContains
  | most => .maxContains

def propertiesRule : Side → Nat → ObjectRule
  | least => .minProperties
  | most => .maxProperties

end Side

inductive Counted where
  | characters
  | items
  /-- The items that are valid for `contains`. -/
  | matching
  | properties
  deriving DecidableEq

namespace Counted

def type : Counted → ValueType
  | characters => .string
  | items => .array
  | matching => .array
  | properties => .object

def noun : Counted → String
  | characters => " characters"
  | items => " items"
  | matching => " matching items"
  | properties => " properties"

open Classical in
/-- How many there are in a value, the members being those of the schema. -/
inductive Count (members : Members) : Counted → Json → Nat → Prop
  | characters (text : String) : Count members .characters (.string text) text.length
  | items (list : List Json) : Count members .items (.array list) list.length
  | matching {raw : Json} (there : Json.member? members "contains" = some raw) (list : List Json) :
      Count members .matching (.array list) (list.countP fun v => decide (Valid raw v))
  | properties (target : Members) : Count members .properties (.object target) target.length

end Counted

structure CountBound where
  side : Side
  counted : Counted

namespace CountBound

def keyword : CountBound → String
  | ⟨.least, .characters⟩ => "minLength"
  | ⟨.most, .characters⟩ => "maxLength"
  | ⟨.least, .items⟩ => "minItems"
  | ⟨.most, .items⟩ => "maxItems"
  | ⟨.least, .matching⟩ => "minContains"
  | ⟨.most, .matching⟩ => "maxContains"
  | ⟨.least, .properties⟩ => "minProperties"
  | ⟨.most, .properties⟩ => "maxProperties"

def verdict (k : CountBound) (count bound : Nat) (base : Path) : Verdict :=
  if k.side.holds count bound then .pass
  else .error ⟨base, some k.keyword, k.side.phrase ++ toString bound ++ k.counted.noun,
    toString count ++ k.counted.noun⟩

end CountBound

/-- A number whose nearest double is this whole number. -/
def Json.IsNear (v : Json) (w : Nat) : Prop := ∃ n, v = .number n ∧ n.toDouble.Is w

theorem Json.IsNear.unique {v : Json} {w w' : Nat} (near : v.IsNear w) (near' : v.IsNear w') : w = w' := by
  obtain ⟨n, rfl, is⟩ := near
  obtain ⟨m, same, is'⟩ := near'
  obtain rfl := Json.number.inj same
  rw [← Double.toInt?_eq_some] at is is'
  exact Int.ofNat.inj (Option.some.inj (is.symm.trans is'))

/-! ## Clauses -/

theorem require_labelled {holds : Bool} {base : Path} {expected got keyword : String} :
    (Verdict.require holds base expected got).labelled keyword =
      if holds then .pass else .error ⟨base, some keyword, expected, got⟩ := by
  cases holds <;> rfl

section

variable {limit levels : Nat} {path : Path} {members : Members} {v : Json}

theorem readCount_of_isNear {keyword : String} {w : Nat} (near : v.IsNear w) (fits : w < UInt64.size) :
    readCount keyword path v = .ok w := by
  obtain ⟨n, rfl, is⟩ := near
  exact readCount_eq_ok.mpr ⟨n, rfl, w, is, by omega, by omega⟩

theorem isNear_of_readCount {keyword : String} {c : Nat} (h : readCount keyword path v = .ok c) :
    ∃ w, v.IsNear w ∧ w ≤ UInt64.size := by
  obtain ⟨n, rfl, w, is, le, -⟩ := readCount_eq_ok.mp h
  exact ⟨w, ⟨n, rfl, is⟩, le⟩

/-- The clause of an entry whose keyword is there. -/
theorem Entry.clause_of_member {ρ : Type} {judge : ρ → Judge} {e : Entry ρ}
    (there : Json.member? members e.keyword = some v) :
    e.clause judge path members = ⟨e.keyword, (e.build path members v).map judge⟩ := by
  rw [Entry.clause, Entry.build?, there]
  rfl

theorem clause_one {ρ : Type} {table : List (Entry ρ)} {judge : ρ → Judge} {keyword : String} {rule : Nat → ρ}
    (listed : Entry.one keyword readCount rule ∈ table) (there : Json.member? members keyword = some v) :
    ⟨keyword, (readCount keyword path v).map fun w => judge (rule w)⟩ ∈
      table.map (Entry.clause judge path members) := by
  refine List.mem_map.mpr ⟨_, listed, ?_⟩
  rw [Entry.clause_of_member there]
  simp only [Entry.one]
  cases readCount keyword path v <;> rfl

theorem clause_contained {sub : Path → Json → Built Schema} {keyword : String} {rule : Nat → Schema → ArrayRule}
    (listed : countContained sub keyword rule ∈ arrayTable sub) (there : Json.member? members keyword = some v)
    {raw : Json} (other : Json.member? members "contains" = some raw) {inner : Schema}
    (compiled : sub (path.key "contains") raw = .ok inner) :
    ⟨keyword, (readCount keyword path v).map fun w => (rule w inner).judge⟩ ∈
      (arrayTable sub).map (Entry.clause ArrayRule.judge path members) := by
  refine List.mem_map.mpr ⟨_, listed, ?_⟩
  rw [Entry.clause_of_member there]
  simp only [countContained, Entry.beside, other, compiled]
  cases readCount keyword path v <;> rfl

/-- Where there is a bound on the items that match, the schema that they are valid for has to be there too. -/
def CountBound.Ready (k : CountBound) (limit levels : Nat) (path : Path) (members : Members) : Prop :=
  k.counted = .matching → ∃ raw inner, Json.member? members "contains" = some raw ∧
    compileNode limit levels (path.key "contains") raw = .ok inner

/-- Every value of the type has a count. -/
theorem CountBound.Ready.exists_count {k : CountBound} (ready : k.Ready limit levels path members) {t : Json}
    (fits : k.counted.type.fits t) : ∃ count, Counted.Count members k.counted t count := by
  obtain ⟨side, counted⟩ := k
  cases counted with
  | characters =>
    cases t with
    | string text => exact ⟨_, .characters text⟩
    | _ => cases fits
  | items =>
    cases t with
    | array list => exact ⟨_, .items list⟩
    | _ => cases fits
  | matching =>
    obtain ⟨raw, inner, there, -⟩ := ready rfl
    cases t with
    | array list => exact ⟨_, .matching there list⟩
    | _ => cases fits
  | properties =>
    cases t with
    | object target => exact ⟨_, .properties target⟩
    | _ => cases fits

open Classical in
/-- Counting the items that pass is counting those that are valid, wherever they stand. -/
theorem valid_count {raw : Json} {inner : Schema} (compiled : compileNode limit levels path raw = .ok inner)
    (list : List Json) (base : Path) :
    countValid (fun v => inner.check v base) list = list.countP fun v => decide (Valid raw v) := by
  have below (path : Path) (raw : Json) (s : Schema) (h : compileNode limit levels path raw = .ok s) (v : Json)
      (place : Path) : s.check v place = .pass ↔ Valid raw v := check_iff_valid h v place
  exact countValid_eq below compiled list

/-- The clause of a keyword that bounds a count: its value is read as a count, and the count of a value
    is held against it. -/
theorem count_clause {k : CountBound} (there : Json.member? members k.keyword = some v)
    (ready : k.Ready limit levels path members) : ∃ judge : Nat → Judge,
      ⟨k.keyword, (readCount k.keyword path v).map judge⟩ ∈ clauses limit levels k.counted.type path members ∧
        ∀ bound t count base, Counted.Count members k.counted t count →
          judge bound t base = k.verdict count bound base := by
  obtain ⟨side, counted⟩ := k
  cases counted with
  | characters =>
    have listed : Entry.one (CountBound.mk side .characters).keyword readCount side.lengthRule ∈ stringTable := by
      cases side <;> simp [stringTable, CountBound.keyword, Side.lengthRule]
    refine ⟨fun bound => (side.lengthRule bound).judge, clause_one listed there, ?_⟩
    intro bound t count base counted
    cases counted with
    | characters text => cases side <;> exact require_labelled
  | items =>
    have listed : Entry.one (CountBound.mk side .items).keyword readCount side.itemsRule ∈
        arrayTable (compileNode limit levels) := by
      cases side <;> simp [arrayTable, CountBound.keyword, Side.itemsRule]
    refine ⟨fun bound => (side.itemsRule bound).judge, clause_one listed there, ?_⟩
    intro bound t count base counted
    cases counted with
    | items list => cases side <;> exact require_labelled
  | matching =>
    obtain ⟨raw, inner, other, compiled⟩ := ready rfl
    have listed : countContained (compileNode limit levels) (CountBound.mk side .matching).keyword side.containsRule ∈
        arrayTable (compileNode limit levels) := by
      cases side <;> simp [arrayTable, CountBound.keyword, Side.containsRule]
    refine ⟨fun bound => (side.containsRule bound inner).judge, clause_contained listed there other compiled, ?_⟩
    intro bound t count base counted
    cases counted with
    | matching there list =>
      obtain rfl := Option.some.inj (other.symm.trans there)
      have found := valid_count compiled list base
      rw [← found]
      cases side <;> exact require_labelled
  | properties =>
    have listed : Entry.one (CountBound.mk side .properties).keyword readCount side.propertiesRule ∈
        objectTable (compileNode limit levels) (compileNames limit levels) := by
      cases side <;> simp [objectTable, CountBound.keyword, Side.propertiesRule]
    refine ⟨fun bound => (side.propertiesRule bound).judge, List.mem_cons_of_mem _ (clause_one listed there), ?_⟩
    intro bound t count base counted
    cases counted with
    | properties target => cases side <;> exact require_labelled

end

/-- A bound on a count is enforced as the nearest double has it. As long as that is not 2^64, the value of
    the keyword is a bound just when its nearest double is a whole number below; the count of a value of
    the type, which there always is, is held against it, and the answer names both. The nearest double of a
    whole number that is a double is that number, and whole numbers of up to 53 bits are. -/
theorem count_enforced :
    (∀ (k : CountBound) (limit levels : Nat) (path : Path) (members : Members) (v : Json),
      Json.member? members k.keyword = some v → k.Ready limit levels path members →
      ∃ c ∈ clauses limit levels k.counted.type path members, c.keyword = k.keyword ∧
        (¬v.IsNear UInt64.size →
          ((∃ judge, c.judge = .ok judge) ↔ ∃ bound, v.IsNear bound ∧ bound < UInt64.size)) ∧
        ∀ bound, v.IsNear bound → bound < UInt64.size → ∀ t base, k.counted.type.fits t →
          ∃ count, Counted.Count members k.counted t count ∧ c.verdict t base =
            if k.side.holds count bound then .pass
            else .error ⟨base, some k.keyword, k.side.phrase ++ toString bound ++ k.counted.noun,
              toString count ++ k.counted.noun⟩) ∧
    (∀ (n : Number) (i : Int) (d : Double), n.Is i → d.Is i → n.toDouble.Is i) ∧
    ∀ (n : Number) (i : Int), n.Is i → i.natAbs ≤ 9007199254740992 → n.toDouble.Is i := by
  refine ⟨fun k limit levels path members v there ready => ?_, fun n i d is => Number.toDouble_is_of_double is,
    fun n i => Number.toDouble_is⟩
  obtain ⟨judge, clause, answers⟩ := count_clause there ready
  refine ⟨_, clause, rfl, fun apart => ⟨?_, ?_⟩, fun bound near fits t base typed => ?_⟩
  · rintro ⟨_, built⟩
    obtain ⟨c, read, -⟩ := Built.map_eq_ok.mp built
    obtain ⟨w, near, le⟩ := isNear_of_readCount read
    have other : w ≠ UInt64.size := by
      rintro rfl
      exact apart near
    exact ⟨w, near, by omega⟩
  · rintro ⟨bound, near, fits⟩
    exact ⟨judge bound, Built.map_eq_ok.mpr ⟨bound, readCount_of_isNear near fits, rfl⟩⟩
  · obtain ⟨count, counted⟩ := ready.exists_count typed
    refine ⟨count, counted, ?_⟩
    have verdict := answers bound t count base counted
    simp only [Clause.verdict, readCount_of_isNear near fits]
    exact verdict

/-- Among three integers there are more than one, where one is the bound. -/
theorem count_enforced_oneInteger : Json.member? oneInteger "maxContains" = some (Json.ofNat 1) ∧
    (CountBound.mk .most .matching).Ready 1 1 [] oneInteger ∧
    (∃ c ∈ clauses 1 1 .array [] oneInteger, c.keyword = "maxContains" ∧ (∃ judge, c.judge = .ok judge) ∧
      c.verdict (.array [Json.ofNat 3, Json.ofNat 4, Json.ofNat 5]) [.index 7] =
        .error ⟨[.index 7], some "maxContains", "at most 1 matching items", "3 matching items"⟩) ∧
    (Number.integer 1152921504606846976 (by decide)).toDouble.Is 1152921504606846976 ∧
    (Number.integer 9007199254740991 (by decide)).toDouble.Is 9007199254740991 := by
  obtain ⟨bounds, doubles, small⟩ := count_enforced
  have there : Json.member? oneInteger "maxContains" = some (Json.ofNat 1) := by rfl
  have other : Json.member? oneInteger "contains" = some (.object [("type", .string "integer")]) := by rfl
  have compiled : compileNode 1 1 (Path.key [] "contains") (.object [("type", .string "integer")]) =
      .ok (.integer []) := by rfl
  have ready : (CountBound.mk .most .matching).Ready 1 1 [] oneInteger := fun _ => ⟨_, _, other, compiled⟩
  have near : (Json.ofNat 1).IsNear 1 := by
    refine ⟨_, rfl, ?_⟩
    unfold Double.Is
    decide +kernel
  obtain ⟨c, clause, keyword, built, answers⟩ := bounds ⟨.most, .matching⟩ 1 1 [] oneInteger _ there ready
  have apart : ¬(Json.ofNat 1).IsNear UInt64.size := fun far => absurd (near.unique far) (by decide)
  refine ⟨there, ready, ⟨c, clause, keyword, (built apart).mpr ⟨1, near, by decide⟩, ?_⟩, ?_, ?_⟩
  · obtain ⟨count, counted, verdict⟩ := answers 1 near (by decide)
      (.array [Json.ofNat 3, Json.ofNat 4, Json.ofNat 5]) [.index 7] rfl
    have three : count = 3 := by
      cases counted with
      | matching there list =>
        obtain rfl := Option.some.inj (other.symm.trans there)
        rw [← valid_count compiled _ []]
        decide +kernel
    rw [verdict, three]
    rfl
  · refine doubles _ _ (Double.ofInt 1152921504606846976 (by decide)) rfl ?_
    unfold Double.Is
    decide +kernel
  · exact small _ _ rfl (by decide)

/-! ## A bound that is no double -/

/-- At least one more character than the doubles count one by one. -/
def overPrecise : Members :=
  [("minLength", .number (.integer 9007199254740993 (by decide))), ("type", .string "string")]

/-- The bound that is compiled is one less than what the document says: it is the one that the answer
    names, and a text with one character too few is accepted. -/
theorem count_rounded : (Number.integer 9007199254740993 (by decide)).Is 9007199254740993 ∧
    ∃ s, Schema.compile (.object overPrecise) = .ok s ∧
      s.validate (.string "") =
        .error ⟨[], some "minLength", "at least 9007199254740992 characters", "0 characters"⟩ ∧
      s.validate (.string "") ≠ (CountBound.mk .least .characters).verdict 0 9007199254740993 [] ∧
      ∀ text : String, text.length = 9007199254740992 → s.validate (.string text) = .ok () ∧
        (CountBound.mk .least .characters).verdict text.length 9007199254740993 [] ≠ .ok () := by
  have outcome : (match Schema.compile (.object overPrecise) with
      | .ok s => decide (s.validate (.string "") =
          .error ⟨[], some "minLength", "at least 9007199254740992 characters", "0 characters"⟩)
      | .error _ => false) = true := by decide +kernel
  cases compiled : Schema.compile (.object overPrecise) with
  | error ds => simp [compiled] at outcome
  | ok s =>
    simp only [compiled, decide_eq_true_iff] at outcome
    refine ⟨rfl, s, rfl, outcome, ?_, fun text long => ⟨?_, ?_⟩⟩
    · rw [outcome]
      decide +kernel
    · -- the text is valid by the bound as it is read
      refine (check_iff_valid (compileWithin_eq_ok.mp compiled) _ []).mpr ((valid_iff _ _).mpr ?_)
      have bound : Json.IsCount (.number (.integer 9007199254740993 (by decide))) 9007199254740992 := by
        refine ⟨_, rfl, 9007199254740992, ?_, by decide, by decide⟩
        unfold Double.Is
        decide +kernel
      have holds : StringHolds overPrecise text :=
        { minLength := (given_iff_of_member rfl).mpr ⟨_, bound, by omega⟩
          maxLength := .of_absent (by decide)
          pattern := .of_absent (by decide)
          format := .of_absent (by decide) }
      have declared : declaredType overPrecise = some .string := by decide
      simp only [Holds, declared]
      exact holds
    · have short : Side.least.holds text.length 9007199254740993 = false := decide_eq_false (by omega)
      rw [CountBound.verdict, short]
      intro passed
      cases passed

end JsonSchema
