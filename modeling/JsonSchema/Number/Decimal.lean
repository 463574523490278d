/-
  JsonSchema.Number.Decimal — decimal notation of doubles.

  Reading takes the digits to the nearest double and then scales that by the power of ten,
  itself the nearest double, rounding each time (`Decimal.toDouble?`). The result may be a
  neighbour of the double nearest to `digits · 10^exponent`; it is that double where the
  digits and the power are doubles themselves, up to 2^53 and 10^22. Writing takes a double
  to the decimal with the fewest digits to which it is the nearest, and of those to the
  nearest one (`Double.shortest`). Two texts are written from it: the one of a JSON document
  (`FloatText.document`) and the one of a message, which never has an exponent
  (`FloatText.message`).
-/

import JsonSchema.Number.Double

namespace JsonSchema

/-- The number `digits · 10^exponent`. -/
structure Decimal where
  digits : Nat
  exponent : Int
  deriving DecidableEq

def digitCount (n : Nat) : Nat := (Nat.toDigits 10 n).length

namespace Decimal

def maxPower : Nat := 308

def power? (n : Nat) : Option Double := Double.nearest? false (Nat.pow 10 n * Double.one) 1

def lower? : Nat → Double → Option Double
  | 0, d => some d
  | times + 1, d =>
    if d.units = 0 then some d
    else do
      let lowered ← d.quotient? (← power? maxPower)
      lower? times lowered

/-- The digits, scaled; none beyond the largest double. A power that is no double is taken in
    steps, if it is a small one. -/
def toDouble? (negative : Bool) (d : Decimal) : Option Double := do
  let digits ← Double.nearest? negative (d.digits * Double.one) 1
  if d.exponent < 0 then
    let steps := (d.exponent.natAbs - 1) / maxPower
    let lowered ← lower? steps digits
    lowered.quotient? (← power? (d.exponent.natAbs - steps * maxPower))
  else if d.exponent ≤ maxPower then digits.product? (← power? d.exponent.natAbs)
  else if digits.units = 0 then some digits
  else none

def trimZeros : Nat → Decimal → Decimal
  | 0, d => d
  | fuel + 1, d =>
    if d.digits ≠ 0 ∧ d.digits % 10 = 0 then trimZeros fuel ⟨d.digits / 10, d.exponent + 1⟩ else d

end Decimal

namespace Double

/-! ## The fewest digits that tell a double apart -/

def leadingExponent (units : Nat) : Int :=
  if one ≤ units then digitCount (units / one) - 1 else -(digitCount ((one - 1) / units) : Int)

/-- Four times a count of units, and the ends of the interval of numbers that round to it.
    Below a power of two the doubles lie twice as dense. -/
def roundingInterval (units : Nat) : Nat × Nat :=
  let step := ulp units
  let below := if units = 1 <<< units.log2 ∧ 1 < step then step else 2 * step
  (4 * units - below, 4 * units + 2 * step)

inductive Tie where
  /-- The one whose last digit is even. -/
  | toEven
  /-- The larger one. -/
  | up
  deriving DecidableEq

def Tie.takesLower (tie : Tie) (low : Nat) : Bool := tie == toEven && low % 2 == 0

/-- The multiple of `10^exponent` that rounds to `units`, if one of the two around it does;
    of two, the nearer. -/
def onGrid? (tie : Tie) (units : Nat) (exponent : Int) : Option Decimal :=
  let up := Nat.pow 10 exponent.toNat * one
  let down := Nat.pow 10 (-exponent).toNat
  let low := units * down / up
  let (lo, hi) := roundingInterval units
  let closed := units / ulp units % 2 = 0
  let rounds (k : Nat) : Bool :=
    let x := 4 * k * up
    if closed then lo * down ≤ x ∧ x ≤ hi * down else lo * down < x ∧ x < hi * down
  let twice := 2 * (units * down - low * up)
  let nearer := if twice < up ∨ (twice = up ∧ tie.takesLower low) then low else low + 1
  if rounds nearer then some ⟨nearer, exponent⟩
  else if rounds low then some ⟨low, exponent⟩
  else if rounds (low + 1) then some ⟨low + 1, exponent⟩
  else none

/-- The decimal with the fewest digits that rounds to the magnitude of `d`; seventeen always do. -/
def shortest (tie : Tie) (d : Double) : Decimal :=
  if d.units = 0 then ⟨0, 0⟩
  else
    let top := leadingExponent d.units
    match (List.range 17).findSome? fun (n : Nat) => onGrid? tie d.units (top - (n : Int)) with
    | some found => found.trimZeros 18
    | none => ⟨0, 0⟩

end Double

/-! ## Texts -/

structure FloatText where
  /-- The exponents of the leading digit between which no exponent is written. -/
  positional : Option (Int × Int)
  /-- What follows a whole number that is written without an exponent. -/
  wholeTail : String
  tie : Double.Tie

namespace FloatText

/-- Documents: `1.0`, `0.00001`, `1e+16`, `1.5e-9`. -/
def document : FloatText := ⟨some (-5, 15), ".0", .toEven⟩

/-- Messages: `1`, `0.0000001`, `10000000000000000`. -/
def message : FloatText := ⟨none, "", .up⟩

def zeros (n : Nat) : String := String.ofList (List.replicate n '0')

def positionalText (f : FloatText) (digits : String) (point : Int) : String :=
  if point ≤ 0 then "0." ++ zeros (-point).toNat ++ digits
  else if digits.length ≤ point.toNat then
    digits ++ zeros (point.toNat - digits.length) ++ f.wholeTail
  else
    String.ofList (digits.toList.take point.toNat) ++ "." ++ String.ofList (digits.toList.drop point.toNat)

def exponentText (digits : String) (exponent : Int) : String :=
  let (head, tail) := (digits.toList.take 1, digits.toList.drop 1)
  String.ofList head ++ (if tail.isEmpty then "" else "." ++ String.ofList tail) ++ "e" ++
    (if exponent < 0 then "-" else "+") ++ toString exponent.natAbs

def render (f : FloatText) (d : Double) : String :=
  let shortest := d.shortest f.tie
  let digits := toString shortest.digits
  let leading : Int := shortest.exponent + digits.length - 1
  let magnitude :=
    match f.positional with
    | none => f.positionalText digits (leading + 1)
    | some (least, greatest) =>
      if d.units = 0 ∨ (least ≤ leading ∧ leading ≤ greatest) then f.positionalText digits (leading + 1)
      else exponentText digits leading
  (if d.negative then "-" else "") ++ magnitude

end FloatText

end JsonSchema
