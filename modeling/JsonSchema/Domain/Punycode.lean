/-
  JsonSchema.Domain.Punycode — labels of a host name that are written in ASCII alone.

  Behind `xn--` stand the ASCII characters of the label, a hyphen, and numbers of variable
  length to the base 36, one for each other character: how far the counter of places and code
  points moves on to it.
-/

namespace JsonSchema.Domain.Punycode

def digit? (c : Char) : Option Nat :=
  if 'a' ≤ c ∧ c ≤ 'z' then some (c.toNat - 'a'.toNat)
  else if 'A' ≤ c ∧ c ≤ 'Z' then some (c.toNat - 'A'.toNat)
  else if c.isDigit then some (c.toNat - '0'.toNat + 26)
  else none

/-- Lowers the bias until it is in reach of the thresholds; `fuel` bounds the steps. -/
def adaptSteps : Nat → Nat → Nat → Nat
  | 0, k, delta => k + 36 * delta / (delta + 38)
  | fuel + 1, k, delta =>
    if 455 < delta then adaptSteps fuel (k + 36) (delta / 35) else k + 36 * delta / (delta + 38)

def adapt (delta count : Nat) (first : Bool) : Nat :=
  let delta := if first then delta / 700 else delta / 2
  adaptSteps 16 0 (delta + delta / count)

/-- A number: its value added to `i`, and the text behind it. -/
def number (bias : Nat) (i weight k : Nat) : List Char → Option (Nat × List Char)
  | [] => none
  | c :: rest =>
    match digit? c with
    | none => none
    | some d =>
      let i := i + d * weight
      let threshold := if k ≤ bias then 1 else if bias + 26 ≤ k then 26 else k - bias
      if UInt32.size ≤ i then none
      else if d < threshold then some (i, rest)
      else number bias i (weight * (36 - threshold)) (k + 36) rest

/-- Puts in one character for each number. The text behind a number is shorter than before it;
    `fuel` is the length of all of it. -/
def decodeNumbers : Nat → Nat → Nat → Nat → List Char → List Char → Option (List Char)
  | _, _, _, _, out, [] => some out
  | 0, _, _, _, _, _ => none
  | fuel + 1, code, i, bias, out, text =>
    match number bias i 1 36 text with
    | none => none
    | some (next, rest) =>
      let count := out.length + 1
      let code := code + next / count
      let place := next % count
      if 0x10ffff < code ∨ (0xd800 ≤ code ∧ code ≤ 0xdfff) then none
      else
        decodeNumbers fuel code (place + 1) (adapt (next - i) count (i == 0))
          (out.take place ++ Char.ofNat code :: out.drop place) rest

def decode? (text : List Char) : Option (List Char) :=
  let tail := (text.reverse.takeWhile (· != '-')).reverse
  let basic := text.take (text.length - tail.length - 1)
  if !basic.all (·.toNat < 0x80) then none else decodeNumbers text.length 0x80 0 72 basic tail

end JsonSchema.Domain.Punycode
