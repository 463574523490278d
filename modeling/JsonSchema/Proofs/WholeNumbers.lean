/-
  JsonSchema.Proofs.WholeNumbers — types `integer` and `number` agree on small whole numbers.

  Whole numbers of magnitude up to 2^53 are doubles, so that both types read the same bounds from a schema
  and the same value from a target. Integers are then compared as they are and doubles by their values,
  which comes to the same; divisors are tried by the remainder and by the rounded quotient, and
  there it takes `divides_iff_dvd`. So the rules of both types agree one by one.

  Statements:
  - `agrees_bound`, `agrees_multipleOf`: the rules of both types agree.
  - `integer_agrees_number`: the schemas of both types, with the same small whole numbers in them, do.
-/

import JsonSchema.Proofs.Integers
import JsonSchema.Proofs.Interchange

namespace JsonSchema

open Json (Members)

/-! ## Small whole numbers -/

/-- A whole number of magnitude up to 2^53, however it is written. -/
def Number.IsSmall (n : Number) (i : Int) : Prop := n.Is i ∧ i.natAbs ≤ 9007199254740992

structure SmallConfigured (members : Members) : Prop where
  bounds : ∀ b : Bound, Given members b.keyword fun v => ∃ n i, v = .number n ∧ n.IsSmall i
  multipleOf : Given members "multipleOf" fun v => ∃ n i, v = .number n ∧ n.IsSmall i ∧ i ≠ 0

section

variable {keyword : String} {path : Path} {n : Number} {i : Int} (small : n.IsSmall i)

include small

theorem Number.IsSmall.toInteger? : n.toInteger? = some i := by
  obtain ⟨is, small⟩ := small
  exact Number.toInteger?_eq_some.mpr ⟨is, by omega, by omega⟩

theorem Number.IsSmall.toDouble : n.toDouble.Is i := Number.toDouble_is small.1 small.2

theorem readInteger_of_small : readInteger keyword path (.number n) = .ok i :=
  readInteger_eq_ok.mpr ⟨n, rfl, Number.toInteger?_eq_some.mp small.toInteger?⟩

theorem readIntegerDivisor_of_small (nonzero : i ≠ 0) : readIntegerDivisor keyword path (.number n) = .ok i :=
  readIntegerDivisor_eq_ok.mpr ⟨⟨n, rfl, Number.toInteger?_eq_some.mp small.toInteger?⟩, nonzero⟩

theorem readNumberDivisor_of_small (nonzero : i ≠ 0) :
    readNumberDivisor keyword path (.number n) = .ok n.toDouble := by
  refine readNumberDivisor_eq_ok.mpr ⟨⟨n, rfl, rfl⟩, fun zero => nonzero ?_⟩
  have same := Double.toInt?_eq_some.mpr (Double.is_zero_iff.mpr zero)
  rw [Double.toInt?_eq_some.mpr small.toDouble] at same
  exact Option.some.inj same

end

/-! ## Rules -/

/-- A rule of type `number` answers for small whole numbers as one of type `integer` does. -/
structure RulesAgree (r : IntegerRule) (r' : NumberRule) : Prop where
  keyword : r'.keyword = r.keyword
  check : ∀ n i path, Number.IsSmall n i → (r'.check n.toDouble path).trace = (r.check i path).trace

theorem agrees_bound (b : Bound) {n : Number} {limit : Int} (small : n.IsSmall limit) :
    RulesAgree (.bound b limit) (.bound b n.toDouble) where
  keyword := rfl
  check m i path target := by
    have same : b.holds m.toDouble.value n.toDouble.value = b.holds i limit := by
      cases b
      · exact decide_eq_decide.mpr (Double.value_le_iff small.toDouble target.toDouble)
      · exact decide_eq_decide.mpr (Double.value_lt_iff small.toDouble target.toDouble)
      · exact decide_eq_decide.mpr (Double.value_le_iff target.toDouble small.toDouble)
      · exact decide_eq_decide.mpr (Double.value_lt_iff target.toDouble small.toDouble)
    rw [NumberRule.check, same, IntegerRule.check]
    exact Verdict.trace_require _ _ _ _ _ _

theorem agrees_multipleOf {n : Number} {d : Int} (small : n.IsSmall d) (nonzero : d ≠ 0) :
    RulesAgree (.multipleOf d) (.multipleOf n.toDouble) where
  keyword := rfl
  check m i path target := by
    have same : NumberRule.divides n.toDouble m.toDouble = decide (i % d = 0) := by
      rw [Bool.eq_iff_iff, decide_eq_true_iff, ← Int.dvd_iff_emod_eq_zero]
      exact Double.divides_iff_dvd target.toDouble small.toDouble target.2 small.2 nonzero
    rw [NumberRule.check, same, IntegerRule.check]
    exact Verdict.trace_require _ _ _ _ _ _

theorem checkAll_agrees {rules : List IntegerRule} {rules' : List NumberRule} (h : List.Forall₂ RulesAgree rules rules')
    {n : Number} {i : Int} (small : n.IsSmall i) (path : Path) :
    (NumberRule.checkAll n.toDouble path rules').trace = (IntegerRule.checkAll i path rules).trace := by
  refine Verdict.trace_all (h.imp fun r r' agree => ?_)
  rw [agree.keyword]
  exact Verdict.trace_labelled (agree.check n i path small) _

/-! ## Schemas -/

section

variable {ρ σ : Type} {R : ρ → σ → Prop} {path : Path} {members members' : Members}

/-- Two entries for one keyword build related rules in two schemas that set it alike. -/
structure Paired (R : ρ → σ → Prop) (path : Path) (members members' : Members) (e : Entry ρ) (e' : Entry σ) :
    Prop where
  same : Json.member? members' e'.keyword = Json.member? members e.keyword
  builds : ∀ v, Json.member? members e.keyword = some v →
    ∃ r r', e.build path members v = .ok r ∧ e'.build path members' v = .ok r' ∧ R r r'

/-- Tables of such entries build rules that are related one by one. -/
theorem rules_paired {table : List (Entry ρ)} {table' : List (Entry σ)}
    (h : List.Forall₂ (Paired R path members members') table table') :
    ∃ rules rules', Entry.rules table path members = .ok rules ∧ Entry.rules table' path members' = .ok rules' ∧
      List.Forall₂ R rules rules' := by
  unfold Entry.rules
  -- both tables entry by entry: a keyword is there on both sides or on neither
  induction h with
  | nil => exact ⟨[], [], rfl, rfl, .nil⟩
  | @cons e e' table table' first _ ih =>
    obtain ⟨rules, rules', built, built', related⟩ := ih
    cases there : Json.member? members e.keyword with
    | none =>
      have absent : e.build? path members = none := by rw [Entry.build?, there]; rfl
      have absent' : e'.build? path members' = none := by rw [Entry.build?, first.same, there]; rfl
      rw [List.filterMap_cons_none absent, List.filterMap_cons_none absent']
      exact ⟨rules, rules', built, built', related⟩
    | some v =>
      obtain ⟨r, r', hr, hr', agree⟩ := first.builds v there
      have present : e.build? path members = some (.ok r) := by
        rw [Entry.build?, there, Option.map_some, hr]
      have present' : e'.build? path members' = some (.ok r') := by
        rw [Entry.build?, first.same, there, Option.map_some, hr']
      rw [List.filterMap_cons_some present, List.filterMap_cons_some present', Built.all, Built.all, built, built']
      exact ⟨r :: rules, r' :: rules', rfl, rfl, .cons agree related⟩

end

section

variable {path : Path} {members members' : Members} (configured : SmallConfigured members)
  (same : ∀ k ∈ ValueType.integer.keywords, Json.member? members' k = Json.member? members k)

include configured same

theorem paired_bound (b : Bound) : Paired RulesAgree path members members'
    (.one b.keyword readInteger (.bound b)) (.one b.keyword readNumber (.bound b)) where
  same := same _ (by cases b <;> decide)
  builds v there := by
    obtain ⟨n, limit, rfl, small⟩ := configured.bounds b v there
    refine ⟨.bound b limit, .bound b n.toDouble, ?_, rfl, agrees_bound b small⟩
    exact Built.map_eq_ok.mpr ⟨limit, readInteger_of_small small, rfl⟩

theorem paired_multipleOf : Paired RulesAgree path members members'
    (.one "multipleOf" readIntegerDivisor .multipleOf) (.one "multipleOf" readNumberDivisor .multipleOf) where
  same := same _ (by decide)
  builds v there := by
    obtain ⟨n, d, rfl, small, nonzero⟩ := configured.multipleOf v there
    refine ⟨.multipleOf d, .multipleOf n.toDouble, ?_, ?_, agrees_multipleOf small nonzero⟩
    · exact Built.map_eq_ok.mpr ⟨d, readIntegerDivisor_of_small small nonzero, rfl⟩
    · exact Built.map_eq_ok.mpr ⟨n.toDouble, readNumberDivisor_of_small small nonzero, rfl⟩

theorem rules_agree : ∃ rules rules', Entry.rules integerTable path members = .ok rules ∧
    Entry.rules numberTable path members' = .ok rules' ∧ List.Forall₂ RulesAgree rules rules' := by
  rw [integerTable_eq, numberTable_eq]
  have bound (b : Bound) : Paired RulesAgree path members members' _ _ := paired_bound configured same b
  exact rules_paired (.cons (bound .minimum) (.cons (bound .exclusiveMinimum) (.cons (bound .maximum)
    (.cons (bound .exclusiveMaximum) (.cons (paired_multipleOf configured same) .nil)))))

end

def typed (type : ValueType) (members : Members) : Members := Json.insert "type" (.string type.name) members

theorem declaredType_typed (type : ValueType) (members : Members) : declaredType (typed type members) = some type := by
  rw [declaredType, typed, Json.member?_insert, if_pos rfl]
  cases type <;> rfl

theorem member?_typed {type : ValueType} {members : Members} {k : String} (other : k ≠ "type") :
    Json.member? (typed type members) k = Json.member? members k := by
  rw [typed, Json.member?_insert, if_neg other]

theorem compile_number_eq_ok {depth : Nat} {members : Members} (declared : declaredType members = some .number)
    {s : Schema} : Schema.compileWithin depth (.object members) = .ok s ↔
      ∃ rules, Entry.rules numberTable [] members = .ok rules ∧ .number rules = s := by
  simp only [compileWithin_eq_ok, compileNode, openNode, clear_of_declaredType declared, Built.map_eq_ok]

/-- The keywords are those of the schema, whichever type it is given. -/
theorem SmallConfigured.typed {members : Members} (configured : SmallConfigured members) (type : ValueType) :
    SmallConfigured (typed type members) where
  bounds b := by
    have there := configured.bounds b
    rw [Given, member?_typed (by cases b <;> decide)]
    exact there
  multipleOf := by
    have there := configured.multipleOf
    rw [Given, member?_typed (by decide)]
    exact there

/-- On whole numbers of magnitude up to 2^53 types `integer` and `number` agree. With the same bounds and the
    same divisor among these, schemas of both types compile; they accept the same of these numbers,
    however they are written, and refuse the others at the same place by the same keyword. In
    particular the rounded quotient of two of them is whole just when the divisor divides. -/
theorem integer_agrees_number :
    (∀ (depth : Nat) (members : Members), SmallConfigured members →
      ∃ s s', Schema.compileWithin depth (.object (typed .integer members)) = .ok s ∧
        Schema.compileWithin depth (.object (typed .number members)) = .ok s' ∧
        ∀ (n : Number) (i : Int) (base : Path), n.IsSmall i →
          (s.validateAt (.number n) base = .ok () ↔ s'.validateAt (.number n) base = .ok ()) ∧
          ∀ e e', s.validateAt (.number n) base = .error e → s'.validateAt (.number n) base = .error e' →
            e.path = e'.path ∧ e.keyword = e'.keyword) ∧
    ∀ (n d : Number) (i j : Int), n.IsSmall i → d.IsSmall j → j ≠ 0 →
      ((∃ q, n.toDouble.quotient? d.toDouble = some q ∧ q.isWhole) ↔ j ∣ i) := by
  constructor
  · intro depth members configured
    have same : ∀ k ∈ ValueType.integer.keywords,
        Json.member? (typed .number members) k = Json.member? (typed .integer members) k := by
      intro k hk
      have other : k ≠ "type" := fun same => type_not_mem_keywords .integer (same ▸ hk)
      rw [member?_typed other, member?_typed other]
    obtain ⟨rules, rules', built, built', agree⟩ := rules_agree (configured.typed .integer) same
    refine ⟨.integer rules, .number rules', (compile_integer_eq_ok (declaredType_typed _ _)).mpr ⟨rules, built, rfl⟩,
      (compile_number_eq_ok (declaredType_typed _ _)).mpr ⟨rules', built', rfl⟩, fun n i base small => ?_⟩
    have integer : (Schema.integer rules).validateAt (.number n) base = IntegerRule.checkAll i base rules := by
      simp only [Schema.validateAt, Schema.check, small.toInteger?]
    have number : (Schema.number rules').validateAt (.number n) base = NumberRule.checkAll n.toDouble base rules' := by
      simp only [Schema.validateAt, Schema.check]
    rw [integer, number]
    exact Verdict.of_trace (checkAll_agrees agree small base).symm
  · intro n d i j target divisor nonzero
    rw [← Double.divides_iff_dvd target.toDouble divisor.toDouble target.2 divisor.2 nonzero, NumberRule.divides,
      Option.any_eq_true]

def triples : Members :=
  [("minimum", .number (.float (Double.ofInt (-9) (by decide)))), ("multipleOf", .number (.integer 3 (by decide)))]

/-- Type `number` tells 2^53 - 1 from the multiple of 3 before it because type `integer` does. -/
theorem integer_agrees_number_triples : SmallConfigured triples ∧
    (∃ s, Schema.compileWithin 1 (.object (typed .number triples)) = .ok s ∧
      s.validateAt (.number (.integer 9007199254740990 (by decide))) [] = .ok () ∧
      s.validateAt (.number (.integer 9007199254740991 (by decide))) [] ≠ .ok ()) ∧
    ¬∃ q, (Number.integer 9007199254740991 (by decide)).toDouble.quotient?
      (Number.integer 3 (by decide)).toDouble = some q ∧ q.isWhole := by
  obtain ⟨schemas, quotients⟩ := integer_agrees_number
  have divisor : Json.member? triples "multipleOf" = some (.number (.integer 3 (by decide))) := by rfl
  have configured : SmallConfigured triples := by
    refine ⟨fun b => ?_, (given_iff_of_member divisor).mpr ⟨_, 3, rfl, ⟨rfl, by decide⟩, by decide⟩⟩
    cases b with
    | minimum =>
      have least : (Number.float (Double.ofInt (-9) (by decide))).Is (-9) := by
        unfold Number.Is Double.Is
        decide +kernel
      exact (given_iff_of_member rfl).mpr ⟨_, -9, rfl, least, by decide⟩
    | _ => exact .of_absent (by decide)
  have integers : (match Schema.compileWithin 1 (.object (typed .integer triples)) with
      | .ok s => decide (s.validateAt (.number (.integer 9007199254740990 (by decide))) [] = .ok ()) &&
          decide (s.validateAt (.number (.integer 9007199254740991 (by decide))) [] ≠ .ok ())
      | .error _ => false) = true := by decide +kernel
  obtain ⟨s, s', compiled, compiled', agree⟩ := schemas 1 triples configured
  simp only [compiled, Bool.and_eq_true, decide_eq_true_iff] at integers
  obtain ⟨multiple, other⟩ := integers
  have multiple' := (agree (.integer 9007199254740990 (by decide)) 9007199254740990 [] ⟨rfl, by decide⟩).1.mp multiple
  have other' := (agree (.integer 9007199254740991 (by decide)) 9007199254740991 [] ⟨rfl, by decide⟩).1
  refine ⟨configured, ⟨s', compiled', multiple', fun passed => other (other'.mpr passed)⟩, ?_⟩
  have whole := quotients (.integer 9007199254740991 (by decide)) (.integer 3 (by decide)) 9007199254740991 3
    ⟨rfl, by decide⟩ ⟨rfl, by decide⟩ (by decide)
  rw [whole]
  decide

end JsonSchema
