/-
  JsonSchema.Proofs.Plain — numbers of equal value, however they are written.

  A number has an exact value, which an integer and a double may share, and so may both zeros.
  `plain` writes a number as an integer wherever 64 bits hold its value; what stays a double is then
  the only way to write its value. Two values are equal up to their numbers (`NumEqual`) when they
  are the same once their numbers are plain.

  Everything that is read off a number (the nearest double but for the sign of a zero, the integer,
  the count, the mark of an array element) is read off its plain form as well.

  Statements:
  - `plain_of_value_eq`, `plain_of_numEqual`: what is equal in value has one plain form.
  - `toInteger?_plain`, `toDouble_plain`, `toCount?_plain`, `canonical_plain`: the readings of a number.
  - `marks_plain`, `firstRepeat?_plain`: repeated elements do not hang on how numbers are written.
-/

import JsonSchema.Proofs.Equality
import JsonSchema.Proofs.Numbers
import JsonSchema.Schema.Check

namespace JsonSchema

/-! ## Doubles without a signed zero -/

namespace Double

@[simp] theorem units_unsignedZero (d : Double) : d.unsignedZero.units = d.units := by
  unfold unsignedZero
  by_cases h : d.units = 0
  · rw [if_pos h, h]
    rfl
  · rw [if_neg h]

@[simp] theorem value_unsignedZero (d : Double) : d.unsignedZero.value = d.value := by
  unfold unsignedZero
  by_cases h : d.units = 0
  · rw [if_pos h]
    simp [value, zero, h]
  · rw [if_neg h]

theorem unsignedZero_of_ne {d : Double} (h : d.units ≠ 0) : d.unsignedZero = d := if_neg h

@[simp] theorem unsignedZero_unsignedZero (d : Double) : d.unsignedZero.unsignedZero = d.unsignedZero := by
  by_cases h : d.units = 0
  · show (if d.unsignedZero.units = 0 then zero else d.unsignedZero) = d.unsignedZero
    rw [units_unsignedZero, if_pos h, unsignedZero, if_pos h]
  · rw [unsignedZero_of_ne (by rw [units_unsignedZero]; exact h)]

theorem isWhole_unsignedZero (d : Double) : d.unsignedZero.isWhole = d.isWhole := by
  simp only [isWhole, units_unsignedZero]

@[simp] theorem toInt?_unsignedZero (d : Double) : d.unsignedZero.toInt? = d.toInt? := by
  simp only [toInt?, isWhole_unsignedZero, value_unsignedZero]

/-- A value that is not zero is that of one double. -/
theorem eq_of_value_eq {d e : Double} (h : d.value = e.value) (nonzero : d.units ≠ 0) : d = e := by
  obtain ⟨negative, units, _, _⟩ := d
  obtain ⟨negative', units', _, _⟩ := e
  simp only [value] at h nonzero
  have same : negative = negative' ∧ units = units' := by
    cases negative <;> cases negative' <;>
      simp only [Bool.false_eq_true, if_true, if_false, true_and, false_and, reduceCtorEq] at h ⊢ <;> omega
  obtain ⟨rfl, rfl⟩ := same
  rfl

/-- Whether a quotient is whole does not hang on its sign. -/
theorem isWhole_nearest? (negative negative' : Bool) (num den : Nat) :
    (nearest? negative num den).any isWhole = (nearest? negative' num den).any isWhole := by
  unfold nearest?
  split <;> rfl

end Double

theorem NumberRule.divides_unsignedZero (divisor n : Double) :
    divides divisor.unsignedZero n.unsignedZero = divides divisor n := by
  unfold divides Double.quotient?
  rw [Double.units_unsignedZero, Double.units_unsignedZero]
  by_cases h : divisor.units = 0
  · rw [if_pos h, if_pos h]
  · rw [if_neg h, if_neg h]
    exact Double.isWhole_nearest? _ _ _ _

/-! ## Plain numbers -/

namespace Number

def value : Number → Int
  | .integer n _ => n * (Double.one : Int)
  | .float d => d.value

/-- The number as an integer, where 64 bits hold its value. -/
def plain : Number → Number
  | .integer n fits => .integer n fits
  | .float d => (d.toInt?.bind ofInt?).getD (.float d)

/-- A double becomes the integer that it is, or it is not zero and stays. -/
theorem plain_float (d : Double) :
    (∃ i fits, d.Is i ∧ plain (.float d) = .integer i fits) ∨ d.units ≠ 0 ∧ plain (.float d) = .float d := by
  have nonzero (h : ∀ i fits, d.toInt? = some i → ofInt? i ≠ some (.integer i fits)) : d.units ≠ 0 := by
    intro zero
    exact h 0 (by decide) (Double.toInt?_eq_some.mpr (Double.is_zero_iff.mpr zero)) rfl
  simp only [plain]
  cases whole : d.toInt? with
  | none =>
    right
    refine ⟨nonzero fun i fits h => ?_, rfl⟩
    rw [whole] at h
    cases h
  | some i =>
    by_cases fits : -9223372036854775808 ≤ i ∧ i < 18446744073709551616
    · left
      exact ⟨i, fits, Double.toInt?_eq_some.mp whole, by simp [ofInt?, fits]⟩
    · right
      refine ⟨nonzero fun j fits' h => ?_, by simp [ofInt?, fits]⟩
      rw [whole] at h
      obtain rfl := Option.some.inj h
      exact absurd fits' fits

/-- Numbers of equal value have one plain form. -/
theorem plain_of_value_eq {n m : Number} (h : n.value = m.value) : n.plain = m.plain := by
  have pos : (Double.one : Int) ≠ 0 := by
    have := Double.one_pos
    omega
  have mixed {i : Int} (fits : -9223372036854775808 ≤ i ∧ i < 18446744073709551616) {d : Double}
      (h : d.value = i * (Double.one : Int)) : plain (.float d) = .integer i fits := by
    have whole : d.toInt? = some i := Double.toInt?_eq_some.mpr h
    simp [plain, whole, ofInt?, fits]
  cases n with
  | integer i fits =>
    cases m with
    | integer j fits' =>
      obtain rfl := Int.eq_of_mul_eq_mul_right pos h
      rfl
    | float d => exact (mixed fits h.symm).symm
  | float d =>
    cases m with
    | integer j fits' => exact mixed fits' h
    | float e =>
      by_cases zero : d.units = 0
      · have is : d.Is 0 := Double.is_zero_iff.mpr zero
        have is' : e.Is 0 := by
          have same : d.value = e.value := h
          rw [Double.Is, ← same]
          exact is
        rw [mixed (by decide) is, mixed (by decide) is']
      · rw [Double.eq_of_value_eq h zero]

/-! ### What is read off a number -/

theorem toInteger?_plain (n : Number) : n.plain.toInteger? = n.toInteger? := by
  cases n with
  | integer i fits => rfl
  | float d =>
    rcases plain_float d with ⟨i, fits, is, plain⟩ | ⟨-, plain⟩
    · have whole : d.toInt? = some i := Double.toInt?_eq_some.mpr is
      rw [plain]
      simp only [toInteger?, whole, Option.filter_some]
    · rw [plain]

/-- An integer that is the value of a double rounds to it. -/
theorem toDouble_of_is {i : Int} {fits : -9223372036854775808 ≤ i ∧ i < 18446744073709551616} {d : Double}
    (is : d.Is i) : (Number.integer i fits).toDouble = d.unsignedZero := by
  have size : i.natAbs * Double.one = d.units := by
    have abs := congrArg Int.natAbs is
    rw [Int.natAbs_mul, Int.natAbs_natCast] at abs
    rw [← abs, Double.value]
    split <;> omega
  have units : Double.round (i.natAbs * Double.one) 1 = d.units := by
    rw [size]
    exact Double.round_of_dvd d.granular
  by_cases zero : d.units = 0
  · have none : i = 0 := by
      have pos := Double.one_pos
      rw [zero, Nat.mul_eq_zero] at size
      omega
    subst none
    rw [Double.unsignedZero, if_pos zero]
    simp only [toDouble, Double.ofInt, Double.zero, Double.mk.injEq]
    exact ⟨rfl, by rw [units, zero]⟩
  · rw [Double.unsignedZero_of_ne zero]
    refine (Double.eq_of_value_eq ?_ zero).symm
    have pos := Double.one_pos
    rw [is]
    simp only [toDouble, Double.ofInt, Double.value, units, ← size]
    by_cases negative : i < 0
    · rw [if_pos (by simpa using negative), Int.natCast_mul, ← Int.neg_mul, Int.ofNat_natAbs_of_nonpos (by omega),
        Int.neg_neg]
    · rw [if_neg (by simpa using negative), Int.natCast_mul, Int.natAbs_of_nonneg (by omega)]

/-- An integer is no negative zero. -/
theorem toDouble_integer (i : Int) (fits : -9223372036854775808 ≤ i ∧ i < 18446744073709551616) :
    (Number.integer i fits).toDouble.unsignedZero = (Number.integer i fits).toDouble := by
  by_cases zero : (Number.integer i fits).toDouble.units = 0
  · have is : (Number.integer i fits).toDouble.Is 0 := Double.is_zero_iff.mpr zero
    have whole := (toInteger?_eq_zero (Number.integer i fits)).mpr zero
    obtain rfl : i = 0 := (toInteger?_eq_some.mp whole).1
    exact (toDouble_of_is is).symm
  · exact Double.unsignedZero_of_ne zero

/-- The nearest double of the plain form has no signed zero, and is the same otherwise. -/
theorem toDouble_plain (n : Number) : n.plain.toDouble = n.toDouble.unsignedZero := by
  cases n with
  | integer i fits => exact (toDouble_integer i fits).symm
  | float d =>
    rcases plain_float d with ⟨i, fits, is, plain⟩ | ⟨nonzero, plain⟩
    · rw [plain, toDouble_of_is is]
      rfl
    · rw [plain]
      exact (Double.unsignedZero_of_ne nonzero).symm

theorem toCount?_plain (n : Number) : n.plain.toCount? = n.toCount? := by
  unfold toCount?
  rw [toDouble_plain, Double.toInt?_unsignedZero]

theorem canonical_plain (n : Number) : n.plain.canonical = n.canonical := by
  unfold canonical
  rw [toDouble_plain, Double.unsignedZero_unsignedZero]

end Number

/-! ## Plain values -/

namespace Json

mutual

/-- The value with its numbers plain. -/
def plain : Json → Json
  | .number n => .number n.plain
  | .array items => .array (plainItems items)
  | .object members => .object (plainMembers members)
  | v => v

def plainItems : List Json → List Json
  | [] => []
  | v :: rest => plain v :: plainItems rest

def plainMembers : Members → Members
  | [] => []
  | (k, v) :: rest => (k, plain v) :: plainMembers rest

end

mutual

/-- The same value, but for how its numbers are written. -/
def NumEqual : Json → Json → Prop
  | .null, .null => True
  | .bool a, .bool b => a = b
  | .number a, .number b => a.value = b.value
  | .string a, .string b => a = b
  | .array a, .array b => NumEqualItems a b
  | .object a, .object b => NumEqualMembers a b
  | _, _ => False

def NumEqualItems : List Json → List Json → Prop
  | [], [] => True
  | a :: as, b :: bs => NumEqual a b ∧ NumEqualItems as bs
  | _, _ => False

def NumEqualMembers : Members → Members → Prop
  | [], [] => True
  | (j, a) :: as, (k, b) :: bs => j = k ∧ NumEqual a b ∧ NumEqualMembers as bs
  | _, _ => False

end

mutual

/-- What is the same but for its numbers has one plain form. -/
theorem plain_of_numEqual {a b : Json} (h : NumEqual a b) : a.plain = b.plain := by
  cases a <;> cases b <;> simp only [NumEqual] at h
  case null.null => rfl
  case bool.bool => rw [h]
  case number.number => rw [plain, plain, Number.plain_of_value_eq h]
  case string.string => rw [h]
  case array.array => rw [plain, plain, plainItems_of_numEqual h]
  case object.object => rw [plain, plain, plainMembers_of_numEqual h]

theorem plainItems_of_numEqual {a b : List Json} (h : NumEqualItems a b) : plainItems a = plainItems b := by
  match a, b with
  | [], [] => rfl
  | [], _ :: _ => exact h.elim
  | _ :: _, [] => exact h.elim
  | v :: as, w :: bs =>
    obtain ⟨first, rest⟩ := h
    rw [plainItems, plainItems, plain_of_numEqual first, plainItems_of_numEqual rest]

theorem plainMembers_of_numEqual {a b : Members} (h : NumEqualMembers a b) : plainMembers a = plainMembers b := by
  match a, b with
  | [], [] => rfl
  | [], _ :: _ => exact h.elim
  | _ :: _, [] => exact h.elim
  | (j, v) :: as, (k, w) :: bs =>
    obtain ⟨key, first, rest⟩ := h
    rw [plainMembers, plainMembers, key, plain_of_numEqual first, plainMembers_of_numEqual rest]

end

theorem plainItems_eq_map (items : List Json) : plainItems items = items.map plain := by
  induction items with
  | nil => rfl
  | cons v rest ih => rw [plainItems, ih, List.map_cons]

theorem plainMembers_eq_map (members : Members) : plainMembers members = members.map fun m => (m.1, m.2.plain) := by
  induction members with
  | nil => rfl
  | cons m rest ih => rw [plainMembers, ih, List.map_cons]

theorem member?_plain (members : Members) (key : String) :
    member? (plainMembers members) key = (member? members key).map plain := by
  induction members with
  | nil => rfl
  | cons m rest ih =>
    obtain ⟨k, v⟩ := m
    simp only [member?, plainMembers, List.lookup_cons] at ih ⊢
    by_cases same : key = k
    · simp [same]
    · have ne : (key == k) = false := by simpa using same
      simpa [ne] using ih

mutual

theorem marks_plain (v : Json) : v.plain.marks = v.marks := by
  cases v with
  | number n => rw [plain, marks, marks, Number.canonical_plain]
  | array items => rw [plain, marks, marks, plainItems_eq_map, List.length_map, ← plainItems_eq_map, marksOfItems_plain]
  | object members =>
    rw [plain, marks, marks, plainMembers_eq_map, List.length_map, ← plainMembers_eq_map, marksOfMembers_plain]
  | _ => rfl

theorem marksOfItems_plain (items : List Json) : marksOfItems (plainItems items) = marksOfItems items := by
  match items with
  | [] => rfl
  | v :: rest => rw [plainItems, marksOfItems, marksOfItems, marks_plain v, marksOfItems_plain rest]

theorem marksOfMembers_plain (members : Members) : marksOfMembers (plainMembers members) = marksOfMembers members := by
  match members with
  | [] => rfl
  | (k, v) :: rest => rw [plainMembers, marksOfMembers, marksOfMembers, marks_plain v, marksOfMembers_plain rest]

end

theorem firstRepeat_plain (seen : Std.HashSet (List Mark)) (position : Nat) (items : List Json) :
    firstRepeat seen position (items.map plain) = (firstRepeat seen position items).map fun (i, v) => (i, v.plain) := by
  induction items generalizing seen position with
  | nil => rfl
  | cons v rest ih =>
    simp only [List.map_cons, firstRepeat, marks_plain]
    split
    · rfl
    · exact ih _ _

/-- The first item that is there already stands at the same place. -/
theorem firstRepeat?_plain (items : List Json) :
    firstRepeat? (items.map plain) = (firstRepeat? items).map fun (i, v) => (i, v.plain) :=
  firstRepeat_plain ∅ 0 items

theorem ordered_plain (members : Members) : Ordered (plainMembers members) ↔ Ordered members := by
  induction members with
  | nil => exact Iff.rfl
  | cons m rest ih =>
    obtain ⟨k, v⟩ := m
    rw [plainMembers, ordered_cons, ordered_cons, ih, plainMembers_eq_map, List.forall_mem_map]

mutual

theorem wellFormed_plain (v : Json) : v.plain.WellFormed ↔ v.WellFormed := by
  cases v with
  | array items =>
    rw [plain, WellFormed, WellFormed]
    exact wellFormedItems_plain items
  | object members =>
    rw [plain, WellFormed, WellFormed, ordered_plain]
    exact and_congr_right fun _ => wellFormedMembers_plain members
  | _ => exact Iff.rfl

theorem wellFormedItems_plain (items : List Json) : WellFormedItems (plainItems items) ↔ WellFormedItems items := by
  match items with
  | [] => exact Iff.rfl
  | v :: rest => exact and_congr (wellFormed_plain v) (wellFormedItems_plain rest)

theorem wellFormedMembers_plain (members : Members) :
    WellFormedMembers (plainMembers members) ↔ WellFormedMembers members := by
  match members with
  | [] => exact Iff.rfl
  | (_, v) :: rest => exact and_congr (wellFormed_plain v) (wellFormedMembers_plain rest)

end

end Json

end JsonSchema
