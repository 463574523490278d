/-
  JsonSchema.Proofs.Integers — schemas of type `integer` compute with whole numbers, exactly.

  A number is an integer by its exact value. It may as well be read in two steps, a signed word as it is
  and everything else by way of the nearest double, which has to lie between the doubles nearest to the
  ends of the range (`readWord?`); the upper of these is 2^63 already, so it is left out.

  Remainders are taken of words: the one division of words whose quotient is no word is that of the
  least word by -1 (`Word.remainder?`), and there the remainder would be zero.

  Statements:
  - `toInteger?_eq_readWord?`: reading words and doubles finds the exact value.
  - `all_remainder?_iff`: the remainder of words decides whether the divisor divides.
  - `integer_exact`: which schemas of type `integer` compile, and which numbers they accept.
-/

import JsonSchema.Proofs.Keywords
import JsonSchema.Proofs.Rounding
import JsonSchema.Proofs.Violations

namespace JsonSchema

open Json (Members)

/-! ## Words and doubles -/

namespace Number

def leastWord : Double := Double.ofInt (-9223372036854775808) (by decide)

def greatestWord : Double := Double.ofInt 9223372036854775807 (by decide)

/-- The whole number that a double is, between those of the ends; the upper one is not allowed. -/
def wholeWord? (d : Double) : Option Int :=
  if d.isWhole && leastWord.le d && d.lt greatestWord then some (d.value / (Double.one : Int)) else none

/-- Words are read as they are, everything else by way of the nearest double. -/
def readWord? : Number → Option Int
  | .integer i fits => if inSignedRange i then some i else wholeWord? (Number.integer i fits).toDouble
  | .float d => wholeWord? d

theorem leastWord_is : leastWord.Is (-9223372036854775808) := by
  unfold Double.Is
  decide +kernel

/-- The upper end is rounded up. -/
theorem greatestWord_is : greatestWord.Is 9223372036854775808 := by
  unfold Double.Is
  decide +kernel

theorem wholeWord?_eq (d : Double) : wholeWord? d = d.toInt?.filter inSignedRange := by
  unfold wholeWord?
  cases whole : d.toInt? with
  | none =>
    have none : d.isWhole = false := by
      unfold Double.toInt? at whole
      simpa using whole
    rw [none]
    rfl
  | some i =>
    have is : d.Is i := Double.toInt?_eq_some.mp whole
    have wholeness : d.isWhole = true := Double.isWhole_iff_exists.mpr ⟨i, is⟩
    have low : leastWord.le d = decide (-9223372036854775808 ≤ i) :=
      decide_eq_decide.mpr (Double.value_le_iff leastWord_is is)
    have high : d.lt greatestWord = decide (i < 9223372036854775808) :=
      decide_eq_decide.mpr (Double.value_lt_iff is greatestWord_is)
    have quotient : d.value / (Double.one : Int) = i := by
      rw [is, Int.mul_ediv_cancel _ (by have := Double.one_pos; omega)]
    rw [wholeness, low, high, quotient, Option.filter_some, inSignedRange, Bool.true_and, Bool.decide_and]

/-- A number that is too large for a word has a nearest double that is too large as well. -/
theorem wholeWord?_of_large {i : Int} {fits : -9223372036854775808 ≤ i ∧ i < 18446744073709551616}
    (large : 9223372036854775808 ≤ i) : wholeWord? (Number.integer i fits).toDouble = none := by
  have shifted : 1 <<< 63 * Double.one = 1 <<< (63 + unitBits) := by
    rw [Nat.shiftLeft_add, Nat.shiftLeft_eq (1 <<< 63), ← Nat.one_shiftLeft, Double.one]
  have size : 1 <<< 63 * Double.one ≤ i.natAbs * Double.one := Nat.mul_le_mul_right _ (by omega)
  -- 2^63 is a power of two in units as well, and rounding does not fall below it
  have units : 1 <<< 63 * Double.one ≤ Double.round (i.natAbs * Double.one) 1 := by
    rw [shifted] at size ⊢
    exact Double.le_round size
  have above : greatestWord.value ≤ (Number.integer i fits).toDouble.value := by
    have positive : (Number.integer i fits).toDouble.value = (Double.round (i.natAbs * Double.one) 1 : Int) := by
      rw [toDouble, Double.value, Double.ofInt, if_neg (by simpa using (by omega : 0 ≤ i))]
    rw [greatestWord_is, positive]
    exact_mod_cast units
  have high : (Number.integer i fits).toDouble.lt greatestWord = false := decide_eq_false (not_lt.mpr above)
  rw [wholeWord?, high, Bool.and_false]
  rfl

theorem toInteger?_eq_readWord? (n : Number) : n.toInteger? = n.readWord? := by
  cases n with
  | integer i fits =>
    rw [toInteger?, readWord?]
    by_cases word : inSignedRange i
    · rw [if_pos word, if_pos word]
    · rw [if_neg word, if_neg word]
      rw [inSignedRange_iff] at word
      exact (wholeWord?_of_large (by omega)).symm
  | float d => exact (wholeWord?_eq d).symm

end Number

/-! ## Remainders of words -/

/-- The remainder of signed words; none where the divisor is zero or the quotient is no word. -/
def Word.remainder? (n d : Int64) : Option Int64 :=
  if d = 0 ∨ (n = Int64.minValue ∧ d = -1) then none else some (n % d)

/-- Where there is no remainder of words, the divisor divides all the same. -/
theorem Word.all_remainder?_iff {n d : Int64} (nonzero : d ≠ 0) :
    (remainder? n d).all (· == 0) ↔ d.toInt ∣ n.toInt := by
  unfold remainder?
  by_cases corner : n = Int64.minValue ∧ d = -1
  · -- -1 divides everything
    obtain ⟨rfl, rfl⟩ := corner
    decide
  · rw [if_neg (by simp [nonzero, corner])]
    rw [Option.all_some, beq_iff_eq, ← Int64.toInt_inj, Int64.toInt_mod, Int64.toInt_zero, Int.dvd_iff_tmod_eq_zero]

theorem Word.fits (w : Int64) : -9223372036854775808 ≤ w.toInt ∧ w.toInt < 18446744073709551616 := by
  have low := w.le_toInt
  have high := w.toInt_lt
  omega

def Number.ofWord (w : Int64) : Number := .integer w.toInt (Word.fits w)

theorem Word.toInt_ofInt {i : Int} (word : Number.inSignedRange i) : (Int64.ofInt i).toInt = i := by
  rw [Number.inSignedRange_iff] at word
  exact Int64.toInt_ofInt_of_le word.1 word.2

theorem IntegerRule.multipleOf_iff_dvd {n d : Int} (path : Path) :
    (IntegerRule.multipleOf d).check n path = .pass ↔ d ∣ n := by
  rw [IntegerRule.check, require_eq_pass, decide_eq_true_iff, Int.dvd_iff_emod_eq_zero]

/-- The rule decides by the remainder of words. -/
theorem IntegerRule.multipleOf_iff_remainder? {n d : Int} (hn : Number.inSignedRange n)
    (hd : Number.inSignedRange d) (nonzero : d ≠ 0) (path : Path) :
    (IntegerRule.multipleOf d).check n path = .pass ↔
      (Word.remainder? (.ofInt n) (.ofInt d)).all (· == 0) := by
  have word : Int64.ofInt d ≠ 0 := by
    intro zero
    have value := congrArg Int64.toInt zero
    rw [Word.toInt_ofInt hd] at value
    exact nonzero value
  rw [Word.all_remainder?_iff word, Word.toInt_ofInt hn, Word.toInt_ofInt hd, multipleOf_iff_dvd]

/-! ## Schemas -/

/-- The bounds are whole numbers that a signed word holds, and the divisor is one that is not zero. -/
structure IntegerConfigured (members : Members) : Prop where
  bounds : ∀ b : Bound, Given members b.keyword fun v => ∃ limit, v.IsInteger limit
  multipleOf : Given members "multipleOf" fun v => ∃ d, v.IsInteger d ∧ d ≠ 0

/-- A keyword that looks at its own value builds a rule where the value can be read. -/
theorem one_built_iff {ρ α : Type} {keyword : String} {read : String → Path → Json → Built α} {rule : α → ρ}
    {path : Path} {members : Members} :
    (∀ v, Json.member? members (Entry.one keyword read rule).keyword = some v →
      ∃ r, (Entry.one keyword read rule).build path members v = .ok r) ↔
      Given members keyword fun v => ∃ a, read keyword path v = .ok a := by
  refine forall₂_congr fun v _ => ?_
  simp only [Entry.one, Built.map_eq_ok]
  constructor
  · rintro ⟨_, a, ha, -⟩
    exact ⟨a, ha⟩
  · rintro ⟨a, ha⟩
    exact ⟨rule a, a, ha, rfl⟩

theorem integerRules_built_iff {path : Path} {members : Members} :
    (∃ rules, Entry.rules integerTable path members = .ok rules) ↔ IntegerConfigured members := by
  rw [rules_built_iff, integerTable, List.forall_mem_append, List.forall_mem_map, List.forall_mem_singleton]
  simp only [one_built_iff, readInteger_eq_ok, readIntegerDivisor_eq_ok]
  constructor
  · rintro ⟨limits, divisor⟩
    exact ⟨fun b => limits b (by cases b <;> decide), divisor⟩
  · rintro ⟨limits, divisor⟩
    exact ⟨fun b _ => limits b, divisor⟩

theorem IntegerRule.keyword_ne_type (r : IntegerRule) : r.keyword ≠ "type" := by
  cases r with
  | bound b limit => cases b <;> simp [keyword, Bound.keyword]
  | multipleOf d => simp [keyword]

theorem keyword_of_mem_own {keyword : String} {v : Verdict} {e : Violation} (h : e ∈ own keyword v) :
    e.keyword = some keyword := by
  cases v with
  | ok _ => cases h
  | error _ =>
    obtain rfl := List.mem_singleton.mp h
    rfl

/-- What integers are refused for is never the type. -/
theorem IntegerRule.checkAll_ne_mismatch {i : Int} {path : Path} {rules : List IntegerRule} {e : Violation}
    (failed : IntegerRule.checkAll i path rules = .error e) : e.keyword ≠ some "type" := by
  rw [checkAll_eq_first, Verdict.first_eq_error] at failed
  obtain ⟨r, -, own⟩ := List.mem_flatMap.mp (List.mem_of_head? failed)
  rw [keyword_of_mem_own own]
  exact fun same => r.keyword_ne_type (Option.some.inj same)

section

variable {depth : Nat} {members : Members} (declared : declaredType members = some .integer)

include declared

/-- A schema of type `integer` is its rules. -/
theorem compile_integer_eq_ok {s : Schema} : Schema.compileWithin depth (.object members) = .ok s ↔
    ∃ rules, Entry.rules integerTable [] members = .ok rules ∧ .integer rules = s := by
  simp only [compileWithin_eq_ok, compileNode, openNode, clear_of_declaredType declared, Built.map_eq_ok]

theorem compile_integer_iff : (∃ s, Schema.compileWithin depth (.object members) = .ok s) ↔
    IntegerConfigured members := by
  have built : (∃ rules, Entry.rules integerTable [] members = .ok rules) ↔ IntegerConfigured members :=
    integerRules_built_iff
  rw [← built]
  simp only [compile_integer_eq_ok declared]
  constructor
  · rintro ⟨_, rules, built, -⟩
    exact ⟨rules, built⟩
  · rintro ⟨rules, built⟩
    exact ⟨_, rules, built, rfl⟩

variable {s : Schema} (compiled : Schema.compileWithin depth (.object members) = .ok s) (n : Number) (base : Path)

include compiled

/-- A number is of another type just when it is no integer. -/
theorem integer_mismatch_iff : s.validateAt (.number n) base = .error ⟨base, some "type", "integer", "number"⟩ ↔
    n.toInteger? = none := by
  obtain ⟨rules, -, rfl⟩ := (compile_integer_eq_ok declared).mp compiled
  rw [Schema.validateAt, Schema.check]
  cases n.toInteger? with
  | none => exact iff_of_true rfl rfl
  | some i => exact iff_of_false (fun failed => IntegerRule.checkAll_ne_mismatch failed rfl) (by simp)

/-- An integer is accepted just when it holds what the keywords ask for. -/
theorem integer_pass_iff {i : Int} (is : n.toInteger? = some i) : s.validateAt (.number n) base = .ok () ↔
    IntegerHolds members i := by
  obtain ⟨rules, built, rfl⟩ := (compile_integer_eq_ok declared).mp compiled
  rw [Schema.validateAt, Schema.check]
  simp only [is]
  exact integerRules_iff built i base

end

/-- Type `integer` is exact over the whole range of signed words: a number is the integer that its exact
    value is, however it is read; multiples are told by the remainder of words, which never overflows; a
    schema compiles just when its bounds and its divisor are such integers and the divisor is not zero, and
    then it accepts the integers that stand in order to the bounds and that the divisor divides, and takes
    no other number for an integer. -/
theorem integer_exact :
    (∀ (n : Number) (i : Int), n.toInteger? = some i ↔
      n.Is i ∧ -9223372036854775808 ≤ i ∧ i < 9223372036854775808) ∧
    (∀ n : Number, n.toInteger? = n.readWord?) ∧
    (∀ (v d : Int) (path : Path), Number.inSignedRange v → Number.inSignedRange d → d ≠ 0 →
      ((IntegerRule.multipleOf d).check v path = .pass ↔ d ∣ v) ∧
      ((IntegerRule.multipleOf d).check v path = .pass ↔
        (Word.remainder? (.ofInt v) (.ofInt d)).all (· == 0))) ∧
    ∀ (depth : Nat) (members : Members), declaredType members = some .integer →
      ((∃ s, Schema.compileWithin depth (.object members) = .ok s) ↔ IntegerConfigured members) ∧
      ∀ s, Schema.compileWithin depth (.object members) = .ok s → ∀ (n : Number) (base : Path),
        (s.validateAt (.number n) base = .error ⟨base, some "type", "integer", "number"⟩ ↔
          ¬∃ i, n.Is i ∧ -9223372036854775808 ≤ i ∧ i < 9223372036854775808) ∧
        ∀ i, n.Is i → -9223372036854775808 ≤ i → i < 9223372036854775808 →
          (s.validateAt (.number n) base = .ok () ↔ IntegerHolds members i) := by
  refine ⟨fun n i => Number.toInteger?_eq_some, Number.toInteger?_eq_readWord?,
    fun v d path hv hd nonzero => ⟨IntegerRule.multipleOf_iff_dvd path,
      IntegerRule.multipleOf_iff_remainder? hv hd nonzero path⟩,
    fun depth members declared => ⟨compile_integer_iff declared, fun s compiled n base => ⟨?_, ?_⟩⟩⟩
  · rw [integer_mismatch_iff declared compiled]
    simp only [← Number.toInteger?_eq_some, Option.eq_none_iff_forall_ne_some, not_exists, ne_eq]
  · intro i is low high
    exact integer_pass_iff declared compiled n base (Number.toInteger?_eq_some.mpr ⟨is, low, high⟩)

/-- No less than the least word, and a multiple of -1. -/
def leastAndWhole : Members :=
  [("minimum", .number (.ofWord Int64.minValue)), ("multipleOf", .number (.ofWord (-1))), ("type", .string "integer")]

/-- The least word is accepted, though its quotient by -1 is no word; that quotient is no integer. -/
theorem integer_exact_leastAndWhole : declaredType leastAndWhole = some .integer ∧
    (IntegerRule.multipleOf (-1)).check (-9223372036854775808) [] = .pass ∧
    ∃ s, Schema.compileWithin 1 (.object leastAndWhole) = .ok s ∧
      s.validateAt (.number (.ofWord Int64.minValue)) [] = .ok () ∧
      s.validateAt (Json.ofNat 9223372036854775808) [] =
        .error ⟨[], some "type", "integer", "number"⟩ := by
  have declared : declaredType leastAndWhole = some .integer := by decide
  have least : Json.member? leastAndWhole "minimum" = some (.number (.ofWord Int64.minValue)) := by rfl
  have divisor : Json.member? leastAndWhole "multipleOf" = some (.number (.ofWord (-1))) := by rfl
  obtain ⟨-, -, multiples, schemas⟩ := integer_exact
  obtain ⟨compiles, answers⟩ := schemas 1 leastAndWhole declared
  have configured : IntegerConfigured leastAndWhole := by
    refine ⟨fun b => ?_, (given_iff_of_member divisor).mpr ⟨_, ⟨_, rfl, rfl, by decide⟩, by decide⟩⟩
    cases b with
    | minimum => exact (given_iff_of_member least).mpr ⟨_, _, rfl, rfl, by decide⟩
    | _ => exact .of_absent (by decide)
  obtain ⟨s, compiled⟩ := compiles.mpr configured
  refine ⟨declared, ((multiples _ _ [] (by decide) (by decide) (by decide)).1).mpr (by decide), s, compiled, ?_, ?_⟩
  · have accepts := (answers s compiled (.ofWord Int64.minValue) []).2 _ rfl (by decide) (by decide)
    exact accepts.mpr
      { minimum := (given_iff_of_member least).mpr ⟨_, ⟨_, rfl, rfl, by decide⟩, by decide⟩
        exclusiveMinimum := .of_absent (by decide)
        maximum := .of_absent (by decide)
        exclusiveMaximum := .of_absent (by decide)
        multipleOf := (given_iff_of_member divisor).mpr ⟨_, ⟨⟨_, rfl, rfl, by decide⟩, by decide⟩, by decide⟩ }
  · refine (answers s compiled _ []).1.mpr ?_
    rintro ⟨_, rfl, -, high⟩
    exact absurd high (by decide)

end JsonSchema
