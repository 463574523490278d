/-
  JsonSchema.Json.Token — the tokens of a JSON document.

  `tokens` cuts bytes into tokens, skipping blanks between them, up to the end or to the
  first token that is broken. A token is broken when the bytes end inside it (`truncated`)
  or when no document continues like this (`malformed`). Each scanner tells how many bytes
  it took, and at least the first byte of a token is always taken.
-/

import JsonSchema.Json.Basic
import JsonSchema.Text.Bytes

namespace JsonSchema.Json

inductive ReadError where
  /-- They end before the document does. -/
  | truncated
  | malformed
  deriving DecidableEq

inductive Token where
  | openArray
  | closeArray
  | openObject
  | closeObject
  | comma
  | colon
  | string (text : String)
  /-- A number or a word. -/
  | scalar (value : Json)
  /-- The last token; `inString` tells that it starts a string. -/
  | broken (inString : Bool) (error : ReadError)

namespace Token

def isBlank (b : UInt8) : Bool := b == 0x20 || b == 0x0a || b == 0x0d || b == 0x09

def isDigit (b : UInt8) : Bool := 0x30 ≤ b && b ≤ 0x39

/-! ## Strings -/

def hexDigit? (b : UInt8) : Option Nat :=
  if isDigit b then some (b.toNat - 0x30)
  else if 0x61 ≤ b ∧ b ≤ 0x66 then some (b.toNat - 0x61 + 10)
  else if 0x41 ≤ b ∧ b ≤ 0x46 then some (b.toNat - 0x41 + 10)
  else none

def unit : Bytes → Except ReadError Nat
  | a :: b :: c :: d :: _ =>
    match hexDigit? a, hexDigit? b, hexDigit? c, hexDigit? d with
    | some a, some b, some c, some d => .ok (((a * 16 + b) * 16 + c) * 16 + d)
    | _, _, _, _ => .error .malformed
  | _ => .error .truncated

/-- The character of a unit, or of a leading surrogate with the trailing one that has to be
    escaped right after it; with the number of bytes taken. -/
def unitEscape (rest : Bytes) : Except ReadError (Char × Nat) := do
  let first ← unit rest
  if 0xdc00 ≤ first ∧ first ≤ 0xdfff then throw .malformed
  else if first < 0xd800 ∨ 0xdbff < first then return (Char.ofNat first, 4)
  else
    match rest.drop 4 with
    | [] => throw .truncated
    | backslash :: more =>
      if backslash ≠ 0x5c then throw .malformed
      else
        match more with
        | [] => throw .truncated
        | u :: more =>
          if u ≠ 0x75 then throw .malformed
          else
            let second ← unit more
            if 0xdc00 ≤ second ∧ second ≤ 0xdfff then
              return (Char.ofNat (0x10000 + (first - 0xd800) * 0x400 + (second - 0xdc00)), 10)
            else throw .malformed

def escape : Bytes → Except ReadError (Bytes × Nat)
  | [] => .error .truncated
  | b :: rest =>
    if b = 0x22 ∨ b = 0x5c ∨ b = 0x2f then .ok ([b], 1)
    else if b = 0x62 then .ok ([0x08], 1)
    else if b = 0x66 then .ok ([0x0c], 1)
    else if b = 0x6e then .ok ([0x0a], 1)
    else if b = 0x72 then .ok ([0x0d], 1)
    else if b = 0x74 then .ok ([0x09], 1)
    else if b = 0x75 then (unitEscape rest).map fun (c, taken) => (Bytes.ofText c.toString, taken + 1)
    else .error .malformed

/-- The content of a string up to its closing quote; `content` and `taken` is what was read
    before, the content in reverse. -/
def stringBody (content : Bytes) (taken : Nat) : Bytes → Except ReadError (Bytes × Nat)
  | [] => .error .truncated
  | b :: rest =>
    if b = 0x22 then .ok (content.reverse, taken + 1)
    else if b = 0x5c then
      match escape rest with
      | .error e => .error e
      | .ok (meant, size) => stringBody (meant.reverse ++ content) (taken + size + 1) (rest.drop size)
    else if b < 0x20 then .error .malformed
    else stringBody (b :: content) (taken + 1) rest
  termination_by bytes => bytes.length
  decreasing_by all_goals simp only [List.length_drop, List.length_cons]; omega

def scanString (rest : Bytes) : Token × Nat :=
  match stringBody [] 0 rest with
  | .error e => (.broken true e, 0)
  | .ok (content, taken) =>
    match Bytes.decode? content with
    | some text => (.string text, taken)
    | none => (.broken true .malformed, 0)

/-! ## Numbers -/

def digitsValue (digits : Bytes) : Nat := digits.foldl (fun n b => n * 10 + (b.toNat - 0x30)) 0

def someDigits (bytes : Bytes) : Except ReadError Bytes :=
  match bytes.takeWhile isDigit with
  | [] => .error (if bytes.isEmpty then .truncated else .malformed)
  | digits => .ok digits

/-- The digits before the point: a lone zero, or digits that start with another one. -/
def wholeDigits (bytes : Bytes) : Except ReadError Bytes := do
  let digits ← someDigits bytes
  if digits.head? = some 0x30 ∧ digits.length ≠ 1 then throw .malformed else return digits

def fractionDigits (bytes : Bytes) : Except ReadError (Option Bytes) :=
  match bytes with
  | b :: rest => if b = 0x2e then (someDigits rest).map some else .ok none
  | [] => .ok none

def exponent (bytes : Bytes) : Except ReadError (Option (Int × Nat)) :=
  match bytes with
  | [] => .ok none
  | b :: rest =>
    if b ≠ 0x65 ∧ b ≠ 0x45 then .ok none
    else
      let (negative, size) := match rest with
        | s :: _ => if s = 0x2d then (true, 1) else if s = 0x2b then (false, 1) else (false, 0)
        | [] => (false, 0)
      (someDigits (rest.drop size)).map fun digits =>
        let value : Int := digitsValue digits
        some (if negative then -value else value, digits.length + size + 1)

/-- Digits behind others in a word of 64 bits, up to the first one that it has no room for; with the number of
    those that are left out. -/
def wordDigits (word : Nat) : Bytes → Nat × Nat
  | [] => (word, 0)
  | b :: rest =>
    let longer := word * 10 + (b.toNat - 0x30)
    if longer < 1 <<< 64 then wordDigits longer rest else (word, rest.length + 1)

/-- What is read of a literal with a point or an exponent, or a long one. Digits that are left out before
    the point still count for the exponent; behind them those after the point are tried again. -/
def decimal (whole fraction : Bytes) (power : Int) : Decimal :=
  let (word, left) := wordDigits 0 whole
  let (word, unread) := wordDigits word fraction
  ⟨word, power + left - (fraction.length - unread : Nat)⟩

/-- The number that a literal denotes. The literal `-0` is the negative zero, which no integer
    is. -/
def number? (negative : Bool) (whole : Bytes) (fraction : Option Bytes) (power : Option Int) :
    Option Number :=
  let digits := digitsValue whole
  let integer := if fraction = none ∧ power = none ∧ ¬(negative ∧ digits = 0) then
      Number.ofInt? (if negative then -(digits : Int) else digits)
    else none
  match integer with
  | some n => some n
  | none => ((decimal whole (fraction.getD []) (power.getD 0)).toDouble? negative).map .float

def numberAt (negative : Bool) (bytes : Bytes) : Except ReadError (Number × Nat) := do
  let whole ← wholeDigits bytes
  let fraction ← fractionDigits (bytes.drop whole.length)
  let upToFraction := whole.length + (fraction.map (·.length + 1)).getD 0
  let power ← exponent (bytes.drop upToFraction)
  match number? negative whole fraction (power.map (·.1)) with
  | some n => return (n, upToFraction + (power.map (·.2)).getD 0)
  | none => throw .malformed

/-- The number whose sign and digits start here; `skipped` bytes of them are taken already. -/
def scanNumber (negative : Bool) (bytes : Bytes) (skipped : Nat) : Token × Nat :=
  match numberAt negative bytes with
  | .ok (n, taken) => (.scalar (.number n), taken - skipped)
  | .error e => (.broken false e, 0)

/-! ## Words -/

def scanWord (letters : Bytes) (value : Json) (rest : Bytes) : Token × Nat :=
  if letters.isPrefixOf rest then (.scalar value, letters.length)
  else if rest.isPrefixOf letters then (.broken false .truncated, 0)
  else (.broken false .malformed, 0)

/-! ## All tokens -/

/-- The token that starts with `b`, and how many of the bytes after `b` it takes. -/
def scan (b : UInt8) (rest : Bytes) : Token × Nat :=
  if b = 0x5b then (.openArray, 0)
  else if b = 0x5d then (.closeArray, 0)
  else if b = 0x7b then (.openObject, 0)
  else if b = 0x7d then (.closeObject, 0)
  else if b = 0x2c then (.comma, 0)
  else if b = 0x3a then (.colon, 0)
  else if b = 0x22 then scanString rest
  else if b = 0x2d then scanNumber true rest 0
  else if isDigit b then scanNumber false (b :: rest) 1
  else if b = 0x74 then scanWord [0x72, 0x75, 0x65] (.bool true) rest
  else if b = 0x66 then scanWord [0x61, 0x6c, 0x73, 0x65] (.bool false) rest
  else if b = 0x6e then scanWord [0x75, 0x6c, 0x6c] .null rest
  else (.broken false .malformed, 0)

def isBroken : Token → Bool
  | .broken _ _ => true
  | _ => false

end Token

def tokens : Bytes → List Token
  | [] => []
  | b :: rest =>
    if Token.isBlank b then tokens rest
    else
      let (token, taken) := Token.scan b rest
      if token.isBroken then [token] else token :: tokens (rest.drop taken)
  termination_by bytes => bytes.length
  decreasing_by all_goals simp only [List.length_drop, List.length_cons]; omega

end JsonSchema.Json
