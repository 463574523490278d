/-
  JsonSchema.Proofs.SmallQuotients — what divides a number that is smaller than it.

  A quotient of doubles whose dividend is the smaller one lies below one, by one unit of the dividend
  at least. That is more than half a step below one, so that it is not rounded up to one. It may be
  rounded down to zero, where it is no more than half of the least double, and zero is whole. So
  a smaller number passes as a multiple in this one case.

  Statements:
  - `round_quotient_lt_one`: the rounded quotient stays below one.
  - `divides_below_iff`: a divisor divides a smaller number just when the quotient underflows.
  - `multiple_below_divisor`: what a schema of type `number` with a divisor alone says of smaller
    numbers.
-/

import JsonSchema.Proofs.PropertyTree
import JsonSchema.Proofs.WholeNumbers

namespace JsonSchema.Double

/-! ## Steps of greater numbers -/

theorem ulp_eq_two_pow (n : Nat) : ulp n = 2 ^ excessBits n := Nat.one_shiftLeft _

theorem log2_mono {m n : Nat} (le : m ≤ n) : m.log2 ≤ n.log2 := by
  rcases Nat.eq_zero_or_pos m with rfl | pos
  · exact Nat.zero_le _
  · exact (Nat.le_log2 (by omega)).mpr (Nat.le_trans (Nat.log2_self_le (by omega)) le)

theorem ulp_dvd_ulp {m n : Nat} (le : m ≤ n) : ulp m ∣ ulp n := by
  have bits := log2_mono le
  rw [ulp_eq_two_pow, ulp_eq_two_pow]
  unfold excessBits
  exact Nat.pow_dvd_pow 2 (by omega)

/-- Up to the double of a number the step at most doubles. -/
theorem ulp_le_two_mul {m n : Nat} (le : n ≤ 2 * m) : ulp n ≤ 2 * ulp m := by
  rcases Nat.eq_zero_or_pos m with rfl | pos
  · obtain rfl : n = 0 := by omega
    decide
  · have bits : n.log2 ≤ m.log2 + 1 := by
      rw [← Nat.log2_two_mul (by omega)]
      exact log2_mono le
    rw [ulp_eq_two_pow, ulp_eq_two_pow, ← Nat.pow_add_one']
    unfold excessBits
    exact Nat.pow_le_pow_right (by decide) (by omega)

/-- A number of at most 53 + k bits has a step of at most 2^k. -/
theorem ulp_le_of_lt {n k : Nat} (lt : n < 1 <<< (53 + k)) : ulp n ≤ 1 <<< k := by
  rcases Nat.eq_zero_or_pos n with rfl | pos
  · exact Nat.shiftLeft_pos_iff.mpr Nat.one_pos
  · rw [Nat.one_shiftLeft] at lt
    have bits : n.log2 < 53 + k := (Nat.log2_lt (by omega)).mpr lt
    rw [ulp_eq_two_pow, Nat.one_shiftLeft]
    unfold excessBits
    exact Nat.pow_le_pow_right (by decide) (by omega)

/-! ## Between zero and one -/

/-- Two doubles that differ do so by one part in 2^54 at least. -/
theorem lt_of_granular {a b : Nat} (granular : ulp a ∣ a) (granular' : ulp b ∣ b) (lt : a < b) :
    b < 1 <<< 54 * (b - a) := by
  by_cases near : b ≤ 2 * a
  · have apart : ulp a ≤ b - a :=
      Nat.le_of_dvd (by omega) (Nat.dvd_sub (Nat.dvd_trans (ulp_dvd_ulp (Nat.le_of_lt lt)) granular') granular)
    have digits : b < 1 <<< 53 * ulp b := (Nat.div_lt_iff_lt_mul (ulp_pos b)).mp (div_ulp_lt b)
    have steps : 1 <<< 53 * ulp b ≤ 1 <<< 53 * (2 * ulp a) := Nat.mul_le_mul_left _ (ulp_le_two_mul near)
    have parts : 1 <<< 54 * ulp a ≤ 1 <<< 54 * (b - a) := Nat.mul_le_mul_left _ apart
    omega
  · omega

/-- The quotient of a double by a greater one is not rounded up to one. -/
theorem round_quotient_lt_one {a b : Nat} (granular : ulp a ∣ a) (granular' : ulp b ∣ b) (lt : a < b) :
    round (a * one) b < one := by
  have below : a * one / b < one := by
    rw [Nat.div_lt_iff_lt_mul (by omega), Nat.mul_comm]
    exact Nat.mul_lt_mul_of_pos_left lt one_pos
  refine Nat.lt_of_le_of_ne (round_le_two_pow below) fun whole => ?_
  -- half a step is one part in 2^54 here, and the quotient is further away from one than that
  have error : b * (2 * one) ≤ a * (2 * one) + b * ulp (a * one / b) := by
    have half := round_mul_le (a * one) b
    rwa [whole, Nat.mul_comm one, Nat.mul_left_comm, Nat.mul_left_comm 2 a] at half
  have step : b * ulp (a * one / b) ≤ b * 1 <<< 1021 := Nat.mul_le_mul_left b (ulp_le_of_lt below)
  have scale : 2 * one = 1 <<< 54 * 1 <<< 1021 := by decide
  have positive : 0 < 1 <<< 1021 := Nat.shiftLeft_pos_iff.mpr Nat.one_pos
  rw [scale] at error
  generalize 1 <<< 1021 = u at error step positive
  have far : b * u < 1 <<< 54 * (b - a) * u :=
    Nat.mul_lt_mul_of_pos_right (lt_of_granular granular granular' lt) positive
  have apart : 1 <<< 54 * (b - a) * u + a * (1 <<< 54 * u) = b * (1 <<< 54 * u) := by
    rw [Nat.mul_comm _ (b - a), Nat.mul_assoc, ← Nat.add_mul, Nat.sub_add_cancel (Nat.le_of_lt lt)]
  omega

/-! ## Smaller numbers -/

structure Below (n d : Double) : Prop where
  nonzero : 0 < n.units
  smaller : n.units < d.units

/-- The quotient has a magnitude of at most 2^-1075, half of the least double. -/
def Underflows (n d : Double) : Prop := 2 * (n.units * one) ≤ d.units

instance (n d : Double) : Decidable (Underflows n d) := inferInstanceAs (Decidable (_ ≤ _))

/-- The rounded quotient of a smaller number is whole just when it is zero. -/
theorem divides_below_iff {n d : Double} (below : n.Below d) : NumberRule.divides d n ↔ n.Underflows d := by
  have pos : 0 < d.units := Nat.lt_trans below.nonzero below.smaller
  have less : round (n.units * one) d.units < one := round_quotient_lt_one n.granular d.granular below.smaller
  have fits : round (n.units * one) d.units < 1 <<< limitBits := Nat.lt_trans less (by decide)
  unfold NumberRule.divides quotient? nearest? Underflows
  rw [if_neg (Nat.ne_of_gt pos), dif_pos fits, Option.any_some, isWhole, beq_iff_eq, Nat.mod_eq_of_lt less,
    round_eq_zero_iff_half pos]

end JsonSchema.Double

namespace JsonSchema

open Json (Members)

/-! ## Schemas with a divisor alone -/

theorem validateAt_divisor (d : Double) (n : Number) (path : Path) :
    (Schema.number [.multipleOf d]).validateAt (.number n) path =
      if NumberRule.divides d n.toDouble then .ok ()
      else .error ⟨path, some "multipleOf", "a multiple of " ++ FloatText.message.render d,
        FloatText.message.render n.toDouble⟩ := by
  simp only [Schema.validateAt, Schema.check, NumberRule.checkAll, List.map_cons, List.map_nil, NumberRule.check]
  cases NumberRule.divides d n.toDouble <;> rfl

section

variable {depth : Nat} {members : Members} {s : Schema} {d : Number}
  (compiled : Schema.compileWithin depth (.object members) = .ok s) (declared : declaredType members = some .number)
  (only : presentKeywords .number members = ["multipleOf"])
  (divisor : Json.member? members "multipleOf" = some (.number d))

include compiled declared only divisor

/-- Its only rule is the divisor. -/
theorem compile_divisor : s = .number [.multipleOf d.toDouble] := by
  obtain ⟨rules, built, rfl⟩ := (compile_number_eq_ok declared).mp compiled
  have named : ∀ e ∈ numberTable, ∀ v r, e.build [] members v = .ok r → r.keyword = e.keyword := by
    simp only [numberTable_eq, List.forall_mem_cons, List.not_mem_nil, false_imp_iff, implies_true, and_true]
    refine ⟨?_, ?_, ?_, ?_, ?_⟩ <;>
    · intro v r built
      obtain ⟨_, -, rfl⟩ := Built.map_eq_ok.mp built
      rfl
  have keywords : rules.map (·.keyword) = ["multipleOf"] := (rules_keywords named built).trans only
  obtain ⟨r, rfl, -⟩ := List.map_eq_singleton_iff.mp keywords
  have entry : Entry.one "multipleOf" readNumberDivisor NumberRule.multipleOf ∈ numberTable := by
    simp [numberTable_eq]
  obtain ⟨r', hr⟩ := rules_built built entry divisor
  obtain rfl := List.mem_singleton.mp ((mem_rules built).mpr ⟨_, entry, _, divisor, hr⟩)
  obtain ⟨d', read, rfl⟩ := Built.map_eq_ok.mp hr
  obtain ⟨⟨_, number, rfl⟩, -⟩ := readNumberDivisor_eq_ok.mp read
  obtain rfl := Json.number.inj number
  rfl

/-- A schema of type `number` with a divisor and nothing else refuses every number but zero that is smaller
    than the divisor, as long as their quotient does not underflow. Where it does, it is zero, and
    the number passes. -/
theorem multiple_below_divisor (n : Number) (path : Path) (below : n.toDouble.Below d.toDouble) :
    (¬n.toDouble.Underflows d.toDouble → s.validateAt (.number n) path =
      .error ⟨path, some "multipleOf", "a multiple of " ++ FloatText.message.render d.toDouble,
        FloatText.message.render n.toDouble⟩) ∧
    (n.toDouble.Underflows d.toDouble → s.validateAt (.number n) path = .ok ()) := by
  obtain rfl := compile_divisor compiled declared only divisor
  rw [validateAt_divisor]
  constructor
  · intro regular
    exact if_neg fun divides => regular ((Double.divides_below_iff below).mp divides)
  · intro underflows
    exact if_pos ((Double.divides_below_iff below).mpr underflows)

end

def two : Number := .integer 2 (by decide)

def byTwo : Members := [("multipleOf", .number two), ("type", .string "number")]

/-- The least positive double, 2^-1074. -/
def leastDouble : Double := ⟨false, 1, by decide +kernel, Nat.one_dvd 1⟩

theorem leastDouble_below_two : leastDouble.Below two.toDouble := ⟨by decide, by decide +kernel⟩

theorem compile_byTwo : ∃ s, Schema.compileWithin 1 (.object byTwo) = .ok s := by
  have built : (Schema.compileWithin 1 (.object byTwo)).isOk = true := by decide +kernel
  cases compiled : Schema.compileWithin 1 (.object byTwo) with
  | ok s => exact ⟨s, rfl⟩
  | error ds =>
    rw [compiled] at built
    cases built

/-- One is refused for 2, and the least double passes. -/
theorem multiple_below_divisor_two : ∃ s, Schema.compileWithin 1 (.object byTwo) = .ok s ∧
    s.validateAt (.number (.integer 1 (by decide))) [.index 3] =
      .error ⟨[.index 3], some "multipleOf", "a multiple of 2", "1"⟩ ∧
    s.validateAt (.number (.float leastDouble)) [.index 3] = .ok () := by
  obtain ⟨s, compiled⟩ := compile_byTwo
  have only : presentKeywords .number byTwo = ["multipleOf"] := by decide
  have below : (Number.integer 1 (by decide)).toDouble.Below two.toDouble := ⟨by decide +kernel, by decide +kernel⟩
  refine ⟨s, compiled, ?_, ?_⟩
  · have refused := (multiple_below_divisor compiled rfl only rfl (.integer 1 (by decide)) [.index 3] below).1
      (by decide +kernel)
    have expected : FloatText.message.render two.toDouble = "2" := by decide +kernel
    have got : FloatText.message.render (Number.integer 1 (by decide)).toDouble = "1" := by decide +kernel
    rw [expected, got] at refused
    exact refused
  · exact (multiple_below_divisor compiled rfl only rfl (.float leastDouble) [.index 3] leastDouble_below_two).2
      (by decide +kernel)

/-- The least double is no multiple of 2 but passes as one, so that not every number that is smaller than the
    divisor is refused. -/
theorem least_double_passes : ¬∀ (depth : Nat) (members : Members) (s : Schema) (d n : Number) (path : Path),
    Schema.compileWithin depth (.object members) = .ok s → declaredType members = some .number →
    presentKeywords .number members = ["multipleOf"] → Json.member? members "multipleOf" = some (.number d) →
    n.toDouble.Below d.toDouble → ∃ e, s.validateAt (.number n) path = .error e ∧ e.keyword = some "multipleOf" := by
  intro always
  obtain ⟨s, compiled⟩ := compile_byTwo
  have only : presentKeywords .number byTwo = ["multipleOf"] := by decide
  obtain ⟨e, refused, -⟩ := always 1 byTwo s two (.float leastDouble) [] compiled rfl only rfl leastDouble_below_two
  have divides : NumberRule.divides two.toDouble (Number.float leastDouble).toDouble :=
    (Double.divides_below_iff leastDouble_below_two).mpr (by decide +kernel)
  rw [compile_divisor compiled rfl only rfl, validateAt_divisor, if_pos divides] at refused
  cases refused

end JsonSchema
