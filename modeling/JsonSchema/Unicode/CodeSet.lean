/-
  JsonSchema.Unicode.CodeSet — sets of code points.

  A set is an ascending list of disjoint ranges. Tables of a property are written as texts:
  a set as the lengths of its alternating runs, outside first (`ofRuns`), a property with
  values as pairs of a value and the length of its run (`Valued.ofRuns`).
-/

namespace JsonSchema.Unicode

def words (text : String) : List String :=
  let close (word : List Char) (done : List String) : List String :=
    if word.isEmpty then done else String.ofList word.reverse :: done
  let (word, done) := text.toList.foldl
    (fun (word, done) c => if c = ' ' ∨ c = '\n' then ([], close word done) else (c :: word, done))
    (([] : List Char), ([] : List String))
  (close word done).reverse

/-- The number written by decimal digits; anything else counts as no digit. -/
def decimal (word : String) : Nat :=
  word.toList.foldl (fun n c => if c.isDigit then n * 10 + (c.toNat - '0'.toNat) else n) 0

/-- A set of code points, as inclusive ranges in ascending order. -/
structure CodeSet where
  ranges : List (Nat × Nat)
  deriving DecidableEq

namespace CodeSet

def empty : CodeSet := ⟨[]⟩

def ofRange (lo hi : Nat) : CodeSet := ⟨[(lo, hi)]⟩

def ofCode (code : Nat) : CodeSet := ofRange code code

def containsIn (code : Nat) : List (Nat × Nat) → Bool
  | [] => false
  | (lo, hi) :: rest => if code < lo then false else if code ≤ hi then true else containsIn code rest

def contains (s : CodeSet) (code : Nat) : Bool := containsIn code s.ranges

/-- Joins `[a, b]` with the ranges after it that overlap or touch; the list is in ascending
    order. -/
def joinFrom (a b : Nat) : List (Nat × Nat) → List (Nat × Nat)
  | [] => [(a, b)]
  | (c, d) :: rest => if c ≤ b + 1 then joinFrom a (max b d) rest else (a, b) :: joinFrom c d rest

def joinRanges : List (Nat × Nat) → List (Nat × Nat)
  | [] => []
  | (a, b) :: rest => joinFrom a b rest

def ofRanges (l : List (Nat × Nat)) : CodeSet :=
  ⟨joinRanges (l.mergeSort fun a b => a.1 < b.1 ∨ (a.1 = b.1 ∧ a.2 ≤ b.2))⟩

def ofChars (l : List Char) : CodeSet := ofRanges (l.map fun c => (c.toNat, c.toNat))

def union (a b : CodeSet) : CodeSet := ofRanges (a.ranges ++ b.ranges)

/-- What the ranges leave of `[start, 0x10ffff]`. -/
def gaps (start : Nat) : List (Nat × Nat) → List (Nat × Nat)
  | [] => if start ≤ 0x10ffff then [(start, 0x10ffff)] else []
  | (lo, hi) :: rest => if start < lo then (start, lo - 1) :: gaps (hi + 1) rest else gaps (hi + 1) rest

def surrogates : CodeSet := ofRange 0xd800 0xdfff

def complement (s : CodeSet) : CodeSet := ⟨gaps 0 (s.union surrogates).ranges⟩

def inter (a b : CodeSet) : CodeSet := (a.complement.union b.complement).complement

def diff (a b : CodeSet) : CodeSet := a.inter b.complement

def symmDiff (a b : CodeSet) : CodeSet := (a.diff b).union (b.diff a)

def all : CodeSet := empty.complement

def isEmpty (s : CodeSet) : Bool := s.ranges.isEmpty

def allBelow (s : CodeSet) (limit : Nat) : Bool := s.ranges.all fun r => r.2 < limit

def runsFrom (start : Nat) : List Nat → List (Nat × Nat)
  | outside :: inside :: rest =>
    (start + outside, start + outside + inside - 1) :: runsFrom (start + outside + inside) rest
  | [outside] => if start + outside ≤ 0x10ffff then [(start + outside, 0x10ffff)] else []
  | [] => []

/-- The set whose runs, outside and inside in turn, have the lengths that the text lists. A set
    that goes on to the last code point ends with a run outside. -/
def ofRuns (text : String) : CodeSet := ⟨runsFrom 0 ((words text).map decimal)⟩

end CodeSet

/-- A property with values: ranges in ascending order, each with its value. -/
structure Valued where
  runs : List (Nat × Nat × String)

namespace Valued

def runsFrom (start : Nat) : List String → List (Nat × Nat × String)
  | value :: length :: rest =>
    (start, start + decimal length - 1, value) :: runsFrom (start + decimal length) rest
  | _ => []

def ofRuns (text : String) : Valued := ⟨runsFrom 0 (words text)⟩

def select (v : Valued) (chosen : String → Bool) : CodeSet :=
  .ofRanges (v.runs.filterMap fun (lo, hi, value) => if chosen value then some (lo, hi) else none)

def valueIn (code : Nat) : List (Nat × Nat × String) → Option String
  | [] => none
  | (lo, hi, value) :: rest =>
    if code < lo then none else if code ≤ hi then some value else valueIn code rest

def value? (v : Valued) (code : Nat) : Option String := valueIn code v.runs

end Valued

end JsonSchema.Unicode
