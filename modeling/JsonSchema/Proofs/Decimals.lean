/-
  JsonSchema.Proofs.Decimals — literals that are read as the double nearest to them.

  A literal is read in two steps, each of which rounds: its digits to a double, and the product or quotient
  of that by a power of ten. Where the digits and the power are doubles themselves, only the second step
  rounds, and what it rounds is the number that the literal stands for. That is so up to 2^53 and 10^22; beyond,
  the result may be a neighbour of the nearest double.

  Statements:
  - `exists_power?`: the powers of ten that are doubles.
  - `toDouble?_eq_nearest?`: few digits with a small exponent.
  - `number?_eq_nearest?`: a literal of few digits, with its point and its exponent.
-/

import JsonSchema.Json.Token
import JsonSchema.Proofs.Rounding

namespace JsonSchema.Double

/-! ## Exact operands -/

/-- A whole number that is a double is its own nearest one. -/
theorem exists_nearest? (negative : Bool) {k : Nat} (small : k ≤ 1 <<< 74) (granular : ulp (k * one) ∣ k * one) :
    ∃ d, nearest? negative (k * one) 1 = some d ∧ d.negative = negative ∧ d.units = k * one := by
  have room : 1 <<< 74 * one < 1 <<< limitBits := by decide
  have fits : k * one < 1 <<< limitBits := Nat.lt_of_le_of_lt (Nat.mul_le_mul_right _ small) room
  have same : round (k * one) 1 = k * one := round_of_dvd granular
  refine ⟨⟨negative, k * one, fits, granular⟩, ?_, rfl, rfl⟩
  simp only [nearest?, same, fits, ↓reduceDIte]

theorem product?_eq {x y : Double} {a b : Nat} (hx : x.units = a * one) (hy : y.units = b * one) :
    x.product? y = nearest? (x.negative != y.negative) (a * b * one) 1 := by
  have product : a * one * (b * one) = a * b * one * one := by ring
  unfold product?
  rw [hx, hy, product]
  refine nearest?_congr _ ?_
  rw [← round_scale (a * b * one) 1 one_pos, Nat.one_mul]

end JsonSchema.Double

namespace JsonSchema.Decimal

open Double (ulp_dvd_shiftLeft nearest? exists_nearest? product?_eq quotient?_eq ulp_dvd_mul_one)

/-- Powers of ten that are doubles. -/
theorem exists_power? {n : Nat} (small : n ≤ 22) :
    ∃ d, power? n = some d ∧ d.negative = false ∧ d.units = Nat.pow 10 n * Double.one := by
  have odd : Nat.pow 10 n = Nat.pow 5 n <<< n := by
    rw [Nat.shiftLeft_eq]
    exact Nat.mul_pow 5 2 n
  have digits : Nat.pow 5 n ≤ 1 <<< 53 := Nat.le_trans (Nat.pow_le_pow_right (by decide) small) (by decide)
  have granular := ulp_dvd_shiftLeft (s := n + unitBits) digits
  rw [Nat.shiftLeft_add, ← odd, Nat.shiftLeft_eq, ← Nat.one_shiftLeft] at granular
  have bound : Nat.pow 10 n ≤ 1 <<< 74 := Nat.le_trans (Nat.pow_le_pow_right (by decide) small) (by decide)
  exact exists_nearest? false bound granular

/-- A decimal of few digits with a small exponent is read as the double nearest to it. -/
theorem toDouble?_eq_nearest? (negative : Bool) {d : Decimal} (digits : d.digits ≤ 1 <<< 53)
    (power : d.exponent.natAbs ≤ 22) :
    d.toDouble? negative =
      if d.exponent < 0 then nearest? negative (d.digits * Double.one) (Nat.pow 10 d.exponent.natAbs)
      else nearest? negative (d.digits * Nat.pow 10 d.exponent.natAbs * Double.one) 1 := by
  obtain ⟨x, read, hx, units⟩ :=
    exists_nearest? negative (Nat.le_trans digits (by decide)) (ulp_dvd_mul_one digits)
  obtain ⟨p, scale, hp, tens⟩ := exists_power? power
  unfold toDouble?
  simp only [read, Option.bind_eq_bind, Option.bind_some]
  split
  · have steps : (d.exponent.natAbs - 1) / maxPower = 0 := Nat.div_eq_of_lt (by unfold maxPower; omega)
    have positive : 0 < Nat.pow 10 d.exponent.natAbs := Nat.pow_pos (by decide)
    simp only [steps, lower?, Option.bind_some, Nat.zero_mul, Nat.sub_zero, scale]
    rw [quotient?_eq units tens positive, hx, hp, Bool.bne_false]
  · have room : d.exponent ≤ (maxPower : Int) := by unfold maxPower; omega
    simp only [if_pos room, scale, Option.bind_some]
    rw [product?_eq units tens, hx, hp, Bool.bne_false]

/-- With one digit more the digits are rounded before the division, and the quotient is not the nearest double. -/
example : (toDouble? false ⟨90071992547409930, -1⟩).map (·.units / Double.one) = some 9007199254740994 ∧
    (nearest? false (90071992547409930 * Double.one) 10).map (·.units / Double.one) = some 9007199254740992 := by
  decide +kernel

end JsonSchema.Decimal

namespace JsonSchema.Json.Token

/-! ## Literals -/

/-- The value of digits behind others. -/
def digitsBehind (word : Nat) (digits : Bytes) : Nat := digits.foldl (fun n b => n * 10 + (b.toNat - 0x30)) word

theorem digitsValue_append (a b : Bytes) : digitsValue (a ++ b) = digitsBehind (digitsValue a) b := List.foldl_append

theorem le_digitsBehind (word : Nat) (digits : Bytes) : word ≤ digitsBehind word digits := by
  induction digits generalizing word with
  | nil => exact Nat.le_refl _
  | cons b rest ih =>
    have longer : word ≤ word * 10 + (b.toNat - 0x30) := by omega
    exact Nat.le_trans longer (ih _)

/-- All digits are read, where a word holds them. -/
theorem wordDigits_eq {word : Nat} {digits : Bytes} (fits : digitsBehind word digits < 1 <<< 64) :
    wordDigits word digits = (digitsBehind word digits, 0) := by
  induction digits generalizing word with
  | nil => rfl
  | cons b rest ih =>
    have next : word * 10 + (b.toNat - 0x30) < 1 <<< 64 := Nat.lt_of_le_of_lt (le_digitsBehind _ rest) fits
    simp only [wordDigits, if_pos next]
    exact ih fits

theorem decimal_eq {whole fraction : Bytes} (power : Int) (fits : digitsValue (whole ++ fraction) < 1 <<< 64) :
    decimal whole fraction power = ⟨digitsValue (whole ++ fraction), power - fraction.length⟩ := by
  rw [digitsValue_append] at fits ⊢
  have front : wordDigits 0 whole = (digitsValue whole, 0) :=
    wordDigits_eq (Nat.lt_of_le_of_lt (le_digitsBehind _ _) fits)
  unfold decimal
  simp only [front, wordDigits_eq fits, Nat.sub_zero, Int.natCast_zero, Int.add_zero]

/-- A literal with a point or an exponent is read as the double nearest to it, if it has few digits and its last one
    is not far from the point. -/
theorem number?_eq_nearest? (negative : Bool) {whole : Bytes} {fraction : Option Bytes} {power : Option Int}
    (marked : fraction ≠ none ∨ power ≠ none) (digits : digitsValue (whole ++ fraction.getD []) ≤ 1 <<< 53)
    (near : (power.getD 0 - (fraction.getD []).length).natAbs ≤ 22) :
    number? negative whole fraction power =
      (if power.getD 0 < (fraction.getD []).length then
        Double.nearest? negative (digitsValue (whole ++ fraction.getD []) * Double.one)
          (Nat.pow 10 (power.getD 0 - (fraction.getD []).length).natAbs)
      else Double.nearest? negative (digitsValue (whole ++ fraction.getD []) *
        Nat.pow 10 (power.getD 0 - (fraction.getD []).length).natAbs * Double.one) 1).map .float := by
  have float : ¬(fraction = none ∧ power = none ∧ ¬(negative ∧ digitsValue whole = 0)) := by
    rintro ⟨noFraction, noPower, -⟩
    exact marked.elim (· noFraction) (· noPower)
  have below : power.getD 0 - ((fraction.getD []).length : Int) < 0 ↔ power.getD 0 < (fraction.getD []).length := by
    omega
  unfold number?
  simp only [if_neg float]
  rw [decimal_eq _ (Nat.lt_of_le_of_lt digits (by decide)), Decimal.toDouble?_eq_nearest? negative digits near]
  simp only [below]

end JsonSchema.Json.Token
