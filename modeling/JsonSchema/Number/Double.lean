/-
  JsonSchema.Number.Double — finite binary64 values, exactly.

  Every finite double is a whole number of units of the least positive one, 2^-1074. A
  `Double` is therefore a sign and a count of units, of which at most 53 bits are
  significant (`granular`) and which stays below 2^2098, the count of 2^1024 (`fits`).
  Comparison, the test for a whole number and division are then arithmetic on `Nat` and
  `Int`; only a result that is no double is rounded, to the nearest one, ties to the even
  neighbour (`round`).

  Statements: rounding yields a count of units that a double can have (`ulp_dvd_round`),
  and it changes nothing that is one already (`round_of_dvd`).
-/

namespace JsonSchema

/-- The number of bits of `n` that lie above its 53 leading ones. -/
def excessBits (n : Nat) : Nat := n.log2 - 52

/-- The distance between neighbouring doubles around `n` units, in units. -/
def ulp (n : Nat) : Nat := 1 <<< excessBits n

def unitBits : Nat := 1074

def limitBits : Nat := 1024 + unitBits

/-- The binary64 value `± units · 2^-1074`. -/
structure Double where
  negative : Bool
  units : Nat
  fits : units < 1 <<< limitBits
  granular : ulp units ∣ units
  deriving DecidableEq

namespace Double

/-! ## Rounding -/

/-- The count of units of the double nearest to `num / den` units; a tie goes to the even
    neighbour. The result may be too large for a double, never too fine. -/
def round (num den : Nat) : Nat :=
  let step := ulp (num / den)
  let low := num / (den * step)
  let rest := num % (den * step)
  if den * step < 2 * rest ∨ (2 * rest = den * step ∧ low % 2 = 1) then (low + 1) * step
  else low * step

theorem ulp_pos (n : Nat) : 0 < ulp n := Nat.shiftLeft_pos_iff.mpr Nat.one_pos

theorem log2_shiftLeft {k : Nat} (s : Nat) (h : k ≠ 0) : (k <<< s).log2 = k.log2 + s := by
  rw [Nat.shiftLeft_eq]
  have hp : k * 2 ^ s ≠ 0 := Nat.mul_ne_zero h (Nat.pos_iff_ne_zero.mp (Nat.two_pow_pos s))
  refine (Nat.log2_eq_iff hp).mpr ⟨?_, ?_⟩
  · rw [Nat.pow_add]
    exact Nat.mul_le_mul_right _ (Nat.log2_self_le h)
  · rw [show k.log2 + s + 1 = (k.log2 + 1) + s by omega, Nat.pow_add]
    exact Nat.mul_lt_mul_of_pos_right Nat.lt_log2_self (Nat.two_pow_pos s)

/-- A multiple of `2^s` with at most 53 bits above, or just one more, is granular. -/
theorem ulp_dvd_shiftLeft {k s : Nat} (h : k ≤ 1 <<< 53) : ulp (k <<< s) ∣ k <<< s := by
  rcases Nat.eq_zero_or_pos k with rfl | hk
  · simp
  unfold ulp excessBits
  rw [log2_shiftLeft s (by omega), Nat.shiftLeft_eq k, Nat.one_shiftLeft]
  rcases Nat.lt_or_eq_of_le h with h | rfl
  · have : k.log2 < 53 := (Nat.log2_lt (by omega)).mpr h
    exact Nat.dvd_trans (Nat.pow_dvd_pow 2 (by omega)) (Nat.dvd_mul_left _ _)
  · rw [Nat.one_shiftLeft, Nat.log2_two_pow, ← Nat.pow_add]
    exact Nat.pow_dvd_pow 2 (by omega)

theorem div_ulp_lt (q : Nat) : q / ulp q < 1 <<< 53 := by
  unfold ulp excessBits
  rw [Nat.one_shiftLeft, Nat.one_shiftLeft, Nat.div_lt_iff_lt_mul (Nat.two_pow_pos _), ← Nat.pow_add]
  exact Nat.lt_of_lt_of_le Nat.lt_log2_self (Nat.pow_le_pow_right (by decide) (by omega))

/-- Rounding yields a count with at most 53 significant bits. -/
theorem ulp_dvd_round (num den : Nat) : ulp (round num den) ∣ round num den := by
  have h : num / (den * ulp (num / den)) < 1 <<< 53 := by
    rw [← Nat.div_div_eq_div_mul]
    exact div_ulp_lt _
  have granular {k : Nat} (hk : k ≤ 1 <<< 53) :
      ulp (k * ulp (num / den)) ∣ k * ulp (num / den) := by
    have shifted := ulp_dvd_shiftLeft (s := excessBits (num / den)) hk
    rwa [Nat.shiftLeft_eq, ← Nat.one_shiftLeft] at shifted
  unfold round
  simp only
  split
  · exact granular h
  · exact granular (Nat.le_of_lt h)

/-- What is granular already is its own rounding. -/
theorem round_of_dvd {n : Nat} (h : ulp n ∣ n) : round n 1 = n := by
  obtain ⟨k, hk⟩ := h
  have hp : 0 < ulp n := ulp_pos n
  have hr : n % ulp n = 0 := Nat.mod_eq_zero_of_dvd ⟨k, hk⟩
  have hd : n / ulp n * ulp n = n := Nat.div_mul_cancel ⟨k, hk⟩
  unfold round
  simp only [Nat.div_one, Nat.one_mul, hr]
  rw [if_neg (by omega)]
  exact hd

/-- Rounding never passes a power of two. -/
theorem round_le_two_pow {num den k : Nat} (h : num / den < 1 <<< k) : round num den ≤ 1 <<< k := by
  rw [Nat.one_shiftLeft] at h ⊢
  have key : (num / den / ulp (num / den) + 1) * ulp (num / den) ≤ 2 ^ k := by
    generalize num / den = q at h
    have hs : excessBits q ≤ k := by
      rcases Nat.eq_zero_or_pos q with rfl | hq
      · simp [excessBits]
      · have := (Nat.log2_lt (by omega)).mpr h
        unfold excessBits
        omega
    unfold ulp
    rw [Nat.one_shiftLeft]
    have : q / 2 ^ excessBits q < 2 ^ (k - excessBits q) := by
      rw [Nat.div_lt_iff_lt_mul (Nat.two_pow_pos _), ← Nat.pow_add]
      rwa [show k - excessBits q + excessBits q = k by omega]
    calc (q / 2 ^ excessBits q + 1) * 2 ^ excessBits q
        ≤ 2 ^ (k - excessBits q) * 2 ^ excessBits q := Nat.mul_le_mul_right _ this
      _ = 2 ^ k := by rw [← Nat.pow_add, show k - excessBits q + excessBits q = k by omega]
  rw [Nat.div_div_eq_div_mul] at key
  unfold round
  simp only
  split
  · exact key
  · exact Nat.le_trans (Nat.mul_le_mul_right _ (Nat.le_succ _)) key

def nearest? (negative : Bool) (num den : Nat) : Option Double :=
  if h : round num den < 1 <<< limitBits then some ⟨negative, round num den, h, ulp_dvd_round num den⟩
  else none

/-! ## Values -/

def one : Nat := 1 <<< unitBits

/-- The exact value, as a number of units. Both zeros have the value 0. -/
def value (d : Double) : Int := if d.negative then -(d.units : Int) else d.units

def zero : Double := ⟨false, 0, Nat.shiftLeft_pos_iff.mpr Nat.one_pos, Nat.dvd_zero _⟩

/-- A whole number of at most 65 bits has a nearest double. -/
theorem round_lt_limit {n : Nat} (h : n < 1 <<< 65) : round (n * one) 1 < 1 <<< limitBits := by
  have scaled : n * one / 1 < 1 <<< (65 + unitBits) := by
    rw [Nat.div_one, Nat.shiftLeft_add, Nat.shiftLeft_eq (1 <<< 65), ← Nat.one_shiftLeft]
    have pos : 0 < 1 <<< unitBits := Nat.shiftLeft_pos_iff.mpr Nat.one_pos
    unfold one
    generalize 1 <<< unitBits = u at pos ⊢
    exact Nat.mul_lt_mul_of_pos_right h pos
  have room : 65 + unitBits < limitBits := by decide
  generalize n * one = m at scaled ⊢
  generalize unitBits = u at scaled room
  refine Nat.lt_of_le_of_lt (round_le_two_pow scaled) ?_
  rw [Nat.one_shiftLeft, Nat.one_shiftLeft]
  exact Nat.pow_lt_pow_right (by decide) room

def ofInt (n : Int) (h : n.natAbs < 1 <<< 65) : Double :=
  ⟨decide (n < 0), round (n.natAbs * one) 1, round_lt_limit h, ulp_dvd_round _ _⟩

def unsignedZero (d : Double) : Double := if d.units = 0 then zero else d

def le (a b : Double) : Bool := decide (a.value ≤ b.value)

def lt (a b : Double) : Bool := decide (a.value < b.value)

def isWhole (d : Double) : Bool := d.units % one == 0

def toInt? (d : Double) : Option Int := if d.isWhole then some (d.value / (one : Int)) else none

def product? (a b : Double) : Option Double := nearest? (a.negative != b.negative) (a.units * b.units) one

/-- The rounded quotient; none where it overflows or the divisor is zero. -/
def quotient? (n d : Double) : Option Double :=
  if d.units = 0 then none else nearest? (n.negative != d.negative) (n.units * one) d.units

end Double

end JsonSchema
