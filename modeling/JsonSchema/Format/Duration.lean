/-
  JsonSchema.Format.Duration — lengths of time such as `P3Y6M4DT12H30M5S`.

  Behind `P` stand components in a fixed order of units, each a number and its unit, each at
  most once: years, months, weeks and days, then behind `T` hours, minutes and seconds, of
  which only the seconds may have a fraction. Some component has to be there, and one behind
  `T` if there is a `T`. Digits may be of any script.
-/

import JsonSchema.Unicode.Category

namespace JsonSchema.Format.Duration

def afterDigits? (text : List Char) : Option (List Char) :=
  if text.head?.any Unicode.isDecimalDigit then some (text.dropWhile Unicode.isDecimalDigit) else none

/-- What follows a component with this unit; the same text if there is none. -/
def component (unit : Char) (text : List Char) : List Char :=
  match afterDigits? text with
  | some (c :: rest) => if c = unit then rest else text
  | _ => text

def seconds (text : List Char) : List Char :=
  match afterDigits? text with
  | some (c :: rest) =>
    if c = 'S' then rest
    else if c = '.' ∨ c = ',' then
      match afterDigits? rest with
      | some ('S' :: rest) => rest
      | _ => text
    else text
  | _ => text

def dateComponents (text : List Char) : List Char :=
  ['Y', 'M', 'W', 'D'].foldl (fun text unit => component unit text) text

def timeComponents (text : List Char) : List Char :=
  seconds (['H', 'M'].foldl (fun text unit => component unit text) text)

/-- Components only, then perhaps `T` and more components, up to the end. -/
def isComponents (text : List Char) : Bool :=
  match dateComponents text with
  | [] => true
  | 'T' :: rest => (timeComponents rest).isEmpty
  | _ => false

def isDuration (text : String) : Bool :=
  match text.toList with
  | 'P' :: rest => !rest.isEmpty && rest.getLast? != some 'T' && isComponents rest
  | _ => false

end JsonSchema.Format.Duration
