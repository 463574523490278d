/-
  JsonSchema.Proofs.Numbers — numbers that are whole.

  A number is a whole one when its exact value is, however it is written. The readers of integers
  and of counts say which, where the number lies in their range.

  Statements:
  - `toInt?_eq_some`: the whole number that a double is.
  - `toInteger?_eq_some`: an integer is any whole number that a signed 64-bit integer holds.
  - `toCount?_eq_some`: a count is what the nearest double says, up to the greatest count.
  - `round_eq_zero_iff_half`: what is rounded to zero.
  - `toInteger?_eq_zero`: the integer zero is the number without magnitude.
-/

import JsonSchema.Number.Basic

namespace JsonSchema

namespace Double

def Is (d : Double) (i : Int) : Prop := d.value = i * (one : Int)

theorem one_pos : 0 < one := Nat.shiftLeft_pos_iff.mpr Nat.one_pos

theorem isWhole_iff (d : Double) : d.isWhole ↔ (one : Int) ∣ d.value := by
  have units : d.isWhole ↔ (one : Int) ∣ (d.units : Int) := by
    unfold isWhole
    rw [beq_iff_eq, Int.natCast_dvd_natCast, Nat.dvd_iff_mod_eq_zero]
  rw [units]
  unfold value
  split
  · exact (Int.dvd_neg).symm
  · exact Iff.rfl

theorem toInt?_eq_some {d : Double} {i : Int} : d.toInt? = some i ↔ d.Is i := by
  have pos : (one : Int) ≠ 0 := by
    have := one_pos
    omega
  unfold toInt? Is
  constructor
  · intro h
    split at h
    · rename_i whole
      rw [← Option.some.inj h]
      exact (Int.ediv_mul_cancel (d.isWhole_iff.mp whole)).symm
    · cases h
  · intro h
    have whole : d.isWhole := d.isWhole_iff.mpr ⟨i, by rw [h, Int.mul_comm]⟩
    rw [if_pos whole, h, Int.mul_ediv_cancel _ pos]

theorem isWhole_iff_exists {d : Double} : d.isWhole ↔ ∃ i, d.Is i := by
  rw [isWhole_iff]
  unfold Is
  simp only [Int.mul_comm _ (one : Int)]
  rfl

/-- The double zero has no magnitude. -/
theorem is_zero_iff {d : Double} : d.Is 0 ↔ d.units = 0 := by
  unfold Is value
  rw [Int.zero_mul]
  split <;> omega

/-- Whole numbers are in the order of their values. -/
theorem value_le_iff {d e : Double} {i j : Int} (hd : d.Is i) (he : e.Is j) : d.value ≤ e.value ↔ i ≤ j := by
  rw [hd, he]
  exact Int.mul_le_mul_right (Int.natCast_pos.mpr one_pos)

theorem value_lt_iff {d e : Double} {i j : Int} (hd : d.Is i) (he : e.Is j) : d.value < e.value ↔ i < j := by
  rw [hd, he]
  exact Int.mul_lt_mul_right (Int.natCast_pos.mpr one_pos)

/-! ## Rounding to zero -/

theorem ulp_le {n : Nat} (positive : n ≠ 0) : ulp n ≤ n := by
  unfold ulp excessBits
  rw [Nat.one_shiftLeft]
  exact Nat.le_trans (Nat.pow_le_pow_right (by decide) (Nat.sub_le _ _)) (Nat.log2_self_le positive)

/-- What is rounded to zero is at most half a unit. -/
theorem round_eq_zero_iff_half {num den : Nat} (pos : 0 < den) : round num den = 0 ↔ 2 * num ≤ den := by
  by_cases lt : num < den
  · have fine : ulp 0 = 1 := rfl
    have quotient : num / den = 0 := Nat.div_eq_of_lt lt
    unfold round
    simp only [quotient, fine, Nat.mul_one, Nat.mod_eq_of_lt lt]
    split <;> omega
  · -- the quotient has a step of its own, of which it holds one at least
    have quotient : num / den ≠ 0 := Nat.ne_of_gt (Nat.div_pos (by omega) pos)
    have step : 0 < ulp (num / den) := ulp_pos _
    have low : 0 < num / (den * ulp (num / den)) := by
      rw [← Nat.div_div_eq_div_mul]
      exact Nat.div_pos (ulp_le quotient) step
    have kept : round num den ≠ 0 := by
      unfold round
      simp only
      split
      · exact Nat.mul_ne_zero (Nat.succ_ne_zero _) (Nat.ne_of_gt step)
      · exact Nat.mul_ne_zero (Nat.ne_of_gt low) (Nat.ne_of_gt step)
    omega

end Double

namespace Number

def Is : Number → Int → Prop
  | .integer n _, i => n = i
  | .float d, i => d.Is i

theorem inSignedRange_iff {i : Int} :
    inSignedRange i ↔ -9223372036854775808 ≤ i ∧ i < 9223372036854775808 := by
  unfold inSignedRange
  exact decide_eq_true_iff

theorem toInteger?_eq_some {n : Number} {i : Int} :
    n.toInteger? = some i ↔ n.Is i ∧ -9223372036854775808 ≤ i ∧ i < 9223372036854775808 := by
  rw [← inSignedRange_iff]
  cases n with
  | integer m fits =>
    simp only [toInteger?, Is]
    by_cases h : inSignedRange m
    · rw [if_pos h, Option.some.injEq]
      constructor
      · rintro rfl
        exact ⟨rfl, h⟩
      · exact fun e => e.1
    · rw [if_neg h]
      constructor
      · intro e
        cases e
      · rintro ⟨rfl, e⟩
        exact absurd e h
  | float d =>
    unfold toInteger? Is
    rw [Option.filter_eq_some_iff, Double.toInt?_eq_some]

theorem toCount?_eq_some {n : Number} {c : Nat} :
    n.toCount? = some c ↔ ∃ w : Nat, n.toDouble.Is w ∧ w ≤ UInt64.size ∧ c = min w (UInt64.size - 1) := by
  unfold toCount? maxCount
  cases h : n.toDouble.toInt? with
  | none =>
    constructor
    · intro e
      cases e
    · rintro ⟨w, is, -, -⟩
      rw [← Double.toInt?_eq_some, h] at is
      cases is
  | some k =>
    have only {i : Int} : n.toDouble.Is i ↔ i = k := by
      rw [← Double.toInt?_eq_some, h, Option.some.injEq, eq_comm]
    simp only [only]
    constructor
    · intro e
      split at e
      · rename_i range
        exact ⟨k.toNat, by omega, by omega, (Option.some.inj e).symm⟩
      · cases e
    · rintro ⟨w, rfl, le, rfl⟩
      rw [if_pos (by omega)]
      rfl

/-- The integer zero is the number without magnitude. -/
theorem toInteger?_eq_zero (n : Number) : n.toInteger? = some 0 ↔ n.toDouble.units = 0 := by
  have range : (-9223372036854775808 : Int) ≤ 0 ∧ (0 : Int) < 9223372036854775808 := by decide
  rw [toInteger?_eq_some, and_iff_left range]
  cases n with
  | integer m fits =>
    have pos := Double.one_pos
    simp only [Is, toDouble, Double.ofInt]
    have zero : 2 * (m.natAbs * Double.one) ≤ 1 ↔ m.natAbs * Double.one = 0 := by omega
    rw [Double.round_eq_zero_iff_half Nat.one_pos, zero, Nat.mul_eq_zero]
    omega
  | float d => exact Double.is_zero_iff

end Number

end JsonSchema
