/-
  JsonSchema.Format.Address — Internet addresses of both families.

  Four decimal numbers joined by points; or eight hexadecimal groups joined by colons, where
  the last two may be written as four decimal numbers, and `::` stands for one group of zeros
  or more.
-/

import JsonSchema.Unicode.CodeSet

namespace JsonSchema.Format.Address

/-- A decimal number up to 255 without leading zeros, and the text behind it. -/
def octet? (text : List Char) : Option (List Char) :=
  let digits := (text.take 4).takeWhile Char.isDigit
  let isNumber := match digits with
    | [] => false
    | ['0'] => true
    | '0' :: _ => false
    | _ => digits.length ≤ 3 && Unicode.decimal (String.ofList digits) ≤ 255
  if isNumber then some (text.drop digits.length) else none

def quad? (text : List Char) : Option (List Char) := do
  let next (text : List Char) : Option (List Char) := do
    guard (text.head? == some '.')
    octet? (text.drop 1)
  next (← next (← next (← octet? text)))

def isHex (c : Char) : Bool := c.isDigit || ('a' ≤ c && c ≤ 'f') || ('A' ≤ c && c ≤ 'F')

def group? (text : List Char) : Option (List Char) :=
  match ((text.take 5).takeWhile isHex).length with
  | 0 => none
  | 5 => none
  | n => some (text.drop n)

/-- Up to `room` groups joined by colons; the last two may be four decimal numbers. Tells how
    many were read, whether decimal numbers end them, and the text behind them. -/
def groups (count : Nat) : Nat → List Char → Nat × Bool × List Char
  | 0, text => (count, false, text)
  | room + 1, text =>
    let next := if count = 0 then some text else if text.head? = some ':' then some (text.drop 1) else none
    match if 0 < room then next.bind quad? else none with
    | some rest => (count + 2, true, rest)
    | none =>
      match next.bind group? with
      | some rest => groups (count + 1) room rest
      | none => (count, false, text)

def isSixteenBytes (text : List Char) : Bool :=
  let (head, decimal, rest) := groups 0 8 text
  if head = 8 then rest.isEmpty
  else if decimal then false
  else
    match rest with
    | ':' :: ':' :: rest =>
      let (_, _, rest) := groups 0 (8 - (head + 1)) rest
      rest.isEmpty
    | _ => false

def isAddress (text : String) : Bool :=
  let chars := text.toList
  (quad? chars).any List.isEmpty || isSixteenBytes chars

end JsonSchema.Format.Address
