/-
  JsonSchema.Proofs.Rounding — how far rounding moves a number.

  Rounding goes to a multiple of the step between neighbouring doubles and errs by half a step at
  most (`round_mul_le`, `le_round_mul`). It never takes a whole number below a power of two that is not
  above the number, and it leaves what is a double alone; whole numbers of up to 53 bits are, so that they
  are read exactly, however they are written.

  The quotient of two such numbers is the delicate case. The numbers `a / b` that are not whole
  keep a distance of `1 / b` from every whole number, and half a step around `a / b` is less than that,
  except where it is just as much and then `a / b` needs no rounding. So a rounded quotient is
  whole only where the quotient is.

  Statements:
  - `toDouble_is_of_double`, `toDouble_is`: whole numbers that are doubles are read exactly, and those of up
    to 53 bits are.
  - `le_round`: rounding does not cross a power of two downwards.
  - `divides_iff_dvd`: one whole number of up to 53 bits divides another just when the rounded
    quotient is whole.
-/

import JsonSchema.Proofs.Numbers
import JsonSchema.Schema.Check
import Mathlib.Tactic.Ring

namespace JsonSchema.Double

/-! ## Half a step -/

section

variable (num den : Nat)

theorem round_cases : round num den = num / (den * ulp (num / den)) * ulp (num / den) ∧
      2 * (num % (den * ulp (num / den))) ≤ den * ulp (num / den) ∨
    round num den = (num / (den * ulp (num / den)) + 1) * ulp (num / den) ∧
      den * ulp (num / den) ≤ 2 * (num % (den * ulp (num / den))) := by
  unfold round
  simp only
  split
  · exact .inr ⟨rfl, by omega⟩
  · exact .inl ⟨rfl, by omega⟩

/-- The number, from the multiple of the step below it. -/
theorem num_eq : num / (den * ulp (num / den)) * ulp (num / den) * den + num % (den * ulp (num / den)) = num := by
  have split := Nat.div_add_mod num (den * ulp (num / den))
  rwa [Nat.mul_comm (den * ulp (num / den)), ← Nat.mul_assoc, Nat.mul_right_comm] at split

theorem round_mul_le : 2 * (round num den * den) ≤ 2 * num + den * ulp (num / den) := by
  have split := num_eq num den
  rcases round_cases num den with ⟨down, -⟩ | ⟨up, far⟩
  · rw [down]
    omega
  · rw [up, Nat.add_mul, Nat.one_mul, Nat.add_mul, Nat.mul_comm (ulp (num / den)) den]
    omega

theorem le_round_mul (pos : 0 < den) : 2 * num ≤ 2 * (round num den * den) + den * ulp (num / den) := by
  have split := num_eq num den
  have rest := Nat.mod_lt num (Nat.mul_pos pos (ulp_pos (num / den)))
  rcases round_cases num den with ⟨down, near⟩ | ⟨up, -⟩
  · rw [down]
    omega
  · rw [up, Nat.add_mul, Nat.one_mul, Nat.add_mul, Nat.mul_comm (ulp (num / den)) den]
    omega

/-- A quotient that is granular is not rounded. -/
theorem round_mul {q : Nat} (pos : 0 < den) (h : ulp q ∣ q) : round (q * den) den = q := by
  obtain ⟨k, hk⟩ := h
  have step : ulp (q * den / den) = ulp q := by rw [Nat.mul_div_cancel _ pos]
  have size : 0 < den * ulp q := Nat.mul_pos pos (ulp_pos q)
  have multiple : q * den = k * (den * ulp q) := by
    rw [Nat.mul_left_comm, Nat.mul_comm k, ← hk, Nat.mul_comm]
  have rest : q * den % (den * ulp (q * den / den)) = 0 := by rw [step, multiple, Nat.mul_mod_left]
  have low : q * den / (den * ulp (q * den / den)) = k := by rw [step, multiple, Nat.mul_div_cancel _ size]
  rcases round_cases (q * den) den with ⟨down, -⟩ | ⟨-, far⟩
  · rw [down, low, step, Nat.mul_comm, ← hk]
  · rw [rest, step] at far
    omega

end

/-- Only the quotient is rounded. -/
theorem round_scale (num den : Nat) {k : Nat} (pos : 0 < k) : round (num * k) (den * k) = round num den := by
  have quotient : num * k / (den * k) = num / den := Nat.mul_div_mul_right _ _ pos
  unfold round
  simp only [quotient, Nat.mul_right_comm den k]
  generalize den * ulp (num / den) = size
  have rest : 2 * (num % size * k) = 2 * (num % size) * k := (Nat.mul_assoc _ _ _).symm
  rw [Nat.mul_div_mul_right _ _ pos, Nat.mul_mod_mul_right, rest]
  simp only [Nat.mul_lt_mul_right pos, Nat.mul_left_inj (Nat.ne_of_gt pos)]

/-! ## Powers of two -/

/-- Above 53 bits the step is less than the number by 52 bits. -/
theorem ulp_mul_le {n : Nat} (h : ulp n ≠ 1) : ulp n * (1 <<< 52) ≤ n := by
  have wide : 52 < n.log2 := by
    apply Nat.lt_of_not_le
    intro narrow
    have none : excessBits n = 0 := by unfold excessBits; omega
    exact h (by rw [ulp, none]; rfl)
  have positive : n ≠ 0 := by
    rintro rfl
    cases wide
  unfold ulp excessBits
  rw [Nat.one_shiftLeft, Nat.one_shiftLeft, ← Nat.pow_add, show n.log2 - 52 + 52 = n.log2 by omega]
  exact Nat.log2_self_le positive

/-- Rounding does not cross a power of two downwards. -/
theorem le_round {n k : Nat} (h : 1 <<< k ≤ n) : 1 <<< k ≤ round n 1 := by
  have positive : n ≠ 0 := by
    have pos : 0 < 1 <<< k := Nat.shiftLeft_pos_iff.mpr Nat.one_pos
    omega
  have bits : k ≤ n.log2 := by
    rw [Nat.le_log2 positive, ← Nat.one_shiftLeft]
    exact h
  rw [Nat.one_shiftLeft]
  have below : 2 ^ k ≤ n / ulp n * ulp n := by
    have step : ulp n ∣ 2 ^ n.log2 := by
      rw [ulp, Nat.one_shiftLeft]
      exact Nat.pow_dvd_pow 2 (Nat.sub_le _ _)
    calc 2 ^ k ≤ 2 ^ n.log2 := Nat.pow_le_pow_right (by decide) bits
      _ = 2 ^ n.log2 / ulp n * ulp n := (Nat.div_mul_cancel step).symm
      _ ≤ n / ulp n * ulp n := Nat.mul_le_mul_right _ (Nat.div_le_div_right (Nat.log2_self_le positive))
  rcases round_cases n 1 with ⟨down, -⟩ | ⟨up, -⟩
  · rw [down]
    simpa only [Nat.div_one, Nat.one_mul] using below
  · rw [up, Nat.add_mul]
    simp only [Nat.div_one, Nat.one_mul]
    omega

/-! ## Whole numbers that are doubles -/

theorem ulp_dvd_mul_one {k : Nat} (small : k ≤ 1 <<< 53) : ulp (k * one) ∣ k * one := by
  have granular := ulp_dvd_shiftLeft (s := unitBits) small
  rwa [Nat.shiftLeft_eq, ← Nat.one_shiftLeft] at granular

theorem units_of_is {d : Double} {i : Int} (is : d.Is i) : d.units = i.natAbs * one := by
  have abs := congrArg Int.natAbs is
  rw [Int.natAbs_mul, Int.natAbs_natCast] at abs
  rw [← abs, value]
  split <;> omega

theorem ofInt_is_of_granular {i : Int} {fits : i.natAbs < 1 <<< 65} (granular : ulp (i.natAbs * one) ∣ i.natAbs * one) :
    (ofInt i fits).Is i := by
  have units : round (i.natAbs * one) 1 = i.natAbs * one := round_of_dvd granular
  unfold Is value ofInt
  simp only [units, decide_eq_true_eq]
  split
  · rw [Int.natCast_mul, ← Int.neg_mul, Int.ofNat_natAbs_of_nonpos (by omega), Int.neg_neg]
  · rw [Int.natCast_mul, Int.natAbs_of_nonneg (by omega)]

/-! ## Quotients -/

theorem nearest?_congr {num den num' den' : Nat} (negative : Bool) (h : round num den = round num' den') :
    nearest? negative num den = nearest? negative num' den' := by
  simp only [nearest?, h]

theorem quotient?_eq {x y : Double} {a b : Nat} (hx : x.units = a * one) (hy : y.units = b * one) (pos : 0 < b) :
    x.quotient? y = nearest? (x.negative != y.negative) (a * one) b := by
  have nonzero : ¬y.units = 0 := by
    rw [hy]
    exact Nat.ne_of_gt (Nat.mul_pos pos one_pos)
  unfold quotient?
  rw [if_neg nonzero, hx, hy]
  exact nearest?_congr _ (round_scale _ _ one_pos)

theorem round_quotient_lt {a : Nat} (b : Nat) (small : a ≤ 1 <<< 53) : round (a * one) b < 1 <<< limitBits := by
  have below : a * one / b < 1 <<< (54 + unitBits) := by
    have bound : a * one < 1 <<< 54 * one := Nat.mul_lt_mul_of_pos_right (Nat.lt_of_le_of_lt small (by decide)) one_pos
    rw [Nat.shiftLeft_add, Nat.shiftLeft_eq (1 <<< 54), ← Nat.one_shiftLeft]
    exact Nat.lt_of_le_of_lt (Nat.div_le_self _ _) bound
  refine Nat.lt_of_le_of_lt (round_le_two_pow below) ?_
  rw [Nat.one_shiftLeft, Nat.one_shiftLeft]
  exact Nat.pow_lt_pow_right (by decide) (by decide)

/-- A whole number lies within half a step of the quotient that is rounded to it. If it is not the
    quotient, it is away from it by one part in `b` at least. -/
theorem le_ulp_of_round_quotient {a b j : Nat} (pos : 0 < b) (whole : round (a * one) b = j * one)
    (inexact : j * b ≠ a) : 2 * one ≤ b * ulp (a * one / b) := by
  have below := round_mul_le (a * one) b
  have above := le_round_mul (a * one) b pos
  rw [whole, Nat.mul_right_comm] at below above
  rcases Nat.lt_or_gt_of_ne inexact with lt | gt
  · have next : (j * b + 1) * one ≤ a * one := Nat.mul_le_mul_right _ lt
    rw [Nat.add_mul] at next
    omega
  · have next : (a + 1) * one ≤ j * b * one := Nat.mul_le_mul_right _ gt
    rw [Nat.add_mul] at next
    omega

/-- One part in `b` is half a step only at the power of two that `a` then is, where the quotient is a
    multiple of the step. -/
theorem granular_of_le_ulp {a b : Nat} (ha : a ≤ 1 <<< 53) (hb : b ≤ 1 <<< 53) (pos : 0 < b)
    (away : 2 * one ≤ b * ulp (a * one / b)) : b * (a * one / b) = a * one ∧ ulp (a * one / b) ∣ a * one / b := by
  have under : b * (a * one / b) ≤ a * one := Nat.mul_div_le _ _
  generalize a * one / b = q at away under ⊢
  have wide : ulp q ≠ 1 := by
    intro fine
    have large : 1 <<< 53 < 2 * one := by decide
    rw [fine] at away
    omega
  have granular : b * (ulp q * (1 <<< 52)) ≤ b * q := Nat.mul_le_mul_left _ (ulp_mul_le wide)
  have climb : 2 * one * (1 <<< 52) ≤ b * (ulp q * (1 <<< 52)) := by
    rw [← Nat.mul_assoc]
    exact Nat.mul_le_mul_right _ away
  have top : a * one ≤ 2 * one * (1 <<< 52) := by
    calc a * one ≤ 1 <<< 53 * one := Nat.mul_le_mul_right _ ha
      _ = 2 * one * (1 <<< 52) := by rw [Nat.mul_comm 2, Nat.mul_assoc, Nat.mul_comm]; rfl
  exact ⟨by omega, 1 <<< 52, Nat.eq_of_mul_eq_mul_left pos (by omega)⟩

theorem dvd_of_round_quotient {a b j : Nat} (ha : a ≤ 1 <<< 53) (hb : b ≤ 1 <<< 53) (pos : 0 < b)
    (whole : round (a * one) b = j * one) : b ∣ a := by
  by_cases exact : j * b = a
  · exact ⟨j, by rw [← exact, Nat.mul_comm]⟩
  · -- then nothing was rounded, and `j` is the quotient after all
    obtain ⟨quotient, granular⟩ := granular_of_le_ulp ha hb pos (le_ulp_of_round_quotient pos whole exact)
    have unrounded : round (a * one) b = a * one / b := by
      have multiple := round_mul b pos granular
      rwa [Nat.mul_comm (a * one / b) b, quotient] at multiple
    refine ⟨j, Nat.eq_of_mul_eq_mul_right one_pos ?_⟩
    rw [← quotient, ← unrounded, whole, Nat.mul_assoc]

theorem round_quotient_whole_iff {a b : Nat} (ha : a ≤ 1 <<< 53) (hb : b ≤ 1 <<< 53) (pos : 0 < b) :
    round (a * one) b % one = 0 ↔ b ∣ a := by
  constructor
  · intro whole
    exact dvd_of_round_quotient ha hb pos (Nat.div_mul_cancel (Nat.dvd_of_mod_eq_zero whole)).symm
  · rintro ⟨k, rfl⟩
    have small : k ≤ 1 <<< 53 := Nat.le_trans (Nat.le_mul_of_pos_left k pos) ha
    have exact : round (b * k * one) b = k * one := by
      rw [show b * k * one = k * one * b by ring]
      exact round_mul b pos (ulp_dvd_mul_one small)
    rw [exact, Nat.mul_mod_left]

/-- The rounded quotient of whole numbers of up to 53 bits is whole just when the quotient is. -/
theorem divides_iff_dvd {x d : Double} {i j : Int} (hx : x.Is i) (hd : d.Is j) (hi : i.natAbs ≤ 1 <<< 53)
    (hj : j.natAbs ≤ 1 <<< 53) (nonzero : j ≠ 0) : NumberRule.divides d x ↔ j ∣ i := by
  have pos : 0 < j.natAbs := Int.natAbs_pos.mpr nonzero
  unfold NumberRule.divides
  rw [quotient?_eq (units_of_is hx) (units_of_is hd) pos]
  unfold nearest?
  rw [dif_pos (round_quotient_lt _ hi), Option.any_some, isWhole, beq_iff_eq, round_quotient_whole_iff hi hj pos,
    Int.natAbs_dvd_natAbs]

end JsonSchema.Double

namespace JsonSchema.Number

variable {n : Number} {i : Int} (is : n.Is i)

include is

/-- A whole number that is a double is read exactly. -/
theorem toDouble_is_of_double {d : Double} (hd : d.Is i) : n.toDouble.Is i := by
  cases n with
  | integer m fits =>
    obtain rfl : m = i := is
    rw [toDouble]
    refine Double.ofInt_is_of_granular ?_
    rw [← Double.units_of_is hd]
    exact d.granular
  | float e => exact is

/-- So is one of up to 53 bits. -/
theorem toDouble_is (small : i.natAbs ≤ 1 <<< 53) : n.toDouble.Is i := by
  cases n with
  | integer m fits =>
    obtain rfl : m = i := is
    rw [toDouble]
    exact Double.ofInt_is_of_granular (Double.ulp_dvd_mul_one small)
  | float e => exact is

end JsonSchema.Number
