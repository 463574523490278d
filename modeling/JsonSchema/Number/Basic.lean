/-
  JsonSchema.Number — the numbers of a JSON document.

  A literal without point or exponent that 64 bits hold, signed or unsigned, is an integer
  and stays exact; every other literal is a finite double. The two are told apart when
  printed. Bounds of type `number` compare `toDouble`, bounds of type `integer` compare
  `toInteger?`, counts are read by `toCount?`.
-/

import JsonSchema.Number.Decimal

namespace JsonSchema

inductive Number where
  | integer (value : Int) (fits : -9223372036854775808 ≤ value ∧ value < 18446744073709551616)
  | float (value : Double)
  deriving DecidableEq

namespace Number

def ofInt? (n : Int) : Option Number :=
  if h : -9223372036854775808 ≤ n ∧ n < 18446744073709551616 then some (.integer n h) else none

def ofNat? (n : Nat) : Option Number := ofInt? n

def toDouble : Number → Double
  | .integer n h => Double.ofInt n (by omega)
  | .float d => d

def inSignedRange (n : Int) : Bool := decide (-9223372036854775808 ≤ n ∧ n < 9223372036854775808)

/-- The whole number that is meant, where a signed 64-bit integer holds it: `1.0` and `1` are
    the same integer, `1.5` and 2^63 are none. -/
def toInteger? : Number → Option Int
  | .integer n _ => if inSignedRange n then some n else none
  | .float d => d.toInt?.filter inSignedRange

def maxCount : Nat := UInt64.size - 1

/-- A count: the nearest double is whole, not negative and at most 2^64; the greatest count
    stands in for 2^64 itself. -/
def toCount? (n : Number) : Option Nat :=
  match n.toDouble.toInt? with
  | some k => if 0 ≤ k ∧ k ≤ UInt64.size then some (min k.toNat maxCount) else none
  | none => none

def render : Number → String
  | .integer n _ => toString n
  | .float d => FloatText.document.render d

end Number

end JsonSchema
