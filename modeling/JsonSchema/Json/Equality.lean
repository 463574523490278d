/-
  JsonSchema.Json.Equality — when two values count as the same element of an array.

  `same` says it: numbers are compared as doubles, so `1` and `1.0` are the same, and so are
  both zeros; everything else is compared member by member and item by item. `marks` lists a
  value from the outside in, with the size of each array and object before its content, so
  that two values are the same just when their lists are equal; repeated elements are found
  by looking those lists up.
-/

import JsonSchema.Json.Basic
import Std.Data.HashSet

namespace JsonSchema

/-- Equal doubles have equal hashes, by the leading bits and the count of the others. -/
instance : Hashable Double where
  hash d := mixHash (hash d.negative)
    (mixHash (hash (d.units >>> excessBits d.units)) (hash (excessBits d.units)))

/-- The double that stands for a number in comparisons, with one zero. -/
def Number.canonical (n : Number) : Double := n.toDouble.unsignedZero

namespace Json

mutual

def same : Json → Json → Bool
  | .null, .null => true
  | .bool a, .bool b => a == b
  | .number a, .number b => decide (a.canonical = b.canonical)
  | .string a, .string b => a == b
  | .array a, .array b => sameItems a b
  | .object a, .object b => sameMembers a b
  | _, _ => false

def sameItems : List Json → List Json → Bool
  | [], [] => true
  | a :: as, b :: bs => same a b && sameItems as bs
  | _, _ => false

def sameMembers : Members → Members → Bool
  | [], [] => true
  | (j, a) :: as, (k, b) :: bs => j == k && same a b && sameMembers as bs
  | _, _ => false

end

inductive Mark where
  | null
  | bool (value : Bool)
  | number (value : Double)
  | string (text : String)
  | array (size : Nat)
  | object (size : Nat)
  | key (name : String)
  deriving DecidableEq, Hashable

mutual

def marks : Json → List Mark
  | .null => [.null]
  | .bool b => [.bool b]
  | .number n => [.number n.canonical]
  | .string text => [.string text]
  | .array items => .array items.length :: marksOfItems items
  | .object members => .object members.length :: marksOfMembers members

def marksOfItems : List Json → List Mark
  | [] => []
  | v :: rest => marks v ++ marksOfItems rest

def marksOfMembers : Members → List Mark
  | [] => []
  | (k, v) :: rest => .key k :: marks v ++ marksOfMembers rest

end

/-- The first position that holds the same value as an earlier one; `seen` are the earlier ones
    by their marks. -/
def firstRepeat (seen : Std.HashSet (List Mark)) (position : Nat) : List Json → Option (Nat × Json)
  | [] => none
  | v :: rest =>
    let key := v.marks
    if seen.contains key then some (position, v) else firstRepeat (seen.insert key) (position + 1) rest

def firstRepeat? (items : List Json) : Option (Nat × Json) := firstRepeat ∅ 0 items

end Json

end JsonSchema
