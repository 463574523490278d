/-
  JsonSchema.Format.Calendar — dates, times of day and instants.

  A date is year, month and day of the Gregorian calendar, carried on in both directions; a
  time goes to the second, which may be a leap second, with any number of digits behind a
  point; an instant is a date and a time of fixed width with an offset from UTC of less than a
  day. Fields of a date or a time alone may have blanks before them and fewer digits.
-/

import JsonSchema.Unicode.Property

namespace JsonSchema.Format.Calendar

/-! ## Fields -/

abbrev Field := Option (Nat × List Char)

/-- A number of at least `least` digits, of which at most `most` are read. -/
def number (least most : Nat) (text : List Char) : Field :=
  let digits := (text.take most).takeWhile Char.isDigit
  if least ≤ digits.length then
    some (Unicode.decimal (String.ofList digits), text.drop digits.length)
  else none

def padded (most : Nat) (text : List Char) : Field :=
  number 1 most (text.dropWhile Unicode.isBlank)

def symbol (c : Char) : List Char → Option (List Char)
  | [] => none
  | d :: rest => if c = d then some rest else none

/-- The digits behind a point, of which there has to be one; no point is no fraction. -/
def fraction (text : List Char) : Option (List Char) :=
  match text with
  | '.' :: rest => if rest.head?.any Char.isDigit then some (rest.dropWhile Char.isDigit) else none
  | _ => some text

/-! ## Dates -/

def isLeap (year : Int) : Bool := year % 4 == 0 && (year % 100 != 0 || year % 400 == 0)

def daysIn (year : Int) (month : Nat) : Nat :=
  if month = 2 then (if isLeap year then 29 else 28)
  else if month = 4 ∨ month = 6 ∨ month = 9 ∨ month = 11 then 30
  else 31

def firstYear : Int := -262143

def lastYear : Int := 262142

def isDay (year : Int) (month day : Nat) : Bool :=
  firstYear ≤ year && year ≤ lastYear && 1 ≤ month && month ≤ 12 && 1 ≤ day && day ≤ daysIn year month

/-- A year: with a sign any number of digits, otherwise at most four. -/
def year (text : List Char) : Option (Int × List Char) :=
  let text := text.dropWhile Unicode.isBlank
  match text with
  | '-' :: rest => (number 1 rest.length rest).map fun (n, rest) => (-(n : Int), rest)
  | '+' :: rest => (number 1 rest.length rest).map fun (n, rest) => ((n : Int), rest)
  | _ => (number 1 4 text).map fun (n, rest) => ((n : Int), rest)

def isDate (text : String) : Bool :=
  (do
    let (y, rest) ← year text.toList
    let rest ← symbol '-' rest
    let (m, rest) ← padded 2 rest
    let rest ← symbol '-' rest
    let (d, rest) ← padded 2 rest
    guard (rest.isEmpty && isDay y m d)).isSome

/-! ## Times -/

/-- A minute has sixty-one seconds at most, the last of them a leap second. -/
def isClock (hour minute second : Nat) : Bool := hour < 24 && minute < 60 && second ≤ 60

def isTime (text : String) : Bool :=
  (do
    let (h, rest) ← padded 2 text.toList
    let rest ← symbol ':' rest
    let (m, rest) ← padded 2 rest
    let rest ← symbol ':' rest
    let (s, rest) ← padded 2 rest
    let rest ← fraction rest
    guard (rest.isEmpty && isClock h m s)).isSome

/-! ## Instants -/

def isOffset (text : List Char) : Bool :=
  match text with
  | ['Z'] => true
  | ['z'] => true
  | sign :: rest =>
    (sign == '+' || sign == '-' || sign == '\u2212') &&
    (do
      let (h, rest) ← number 2 2 rest
      let rest ← symbol ':' rest
      let (m, rest) ← number 2 2 rest
      guard (rest.isEmpty && h < 24 && m < 60)).isSome
  | [] => false

def isInstant (text : String) : Bool :=
  (do
    let (y, rest) ← number 4 4 text.toList
    let rest ← symbol '-' rest
    let (mo, rest) ← number 2 2 rest
    let rest ← symbol '-' rest
    let (d, rest) ← number 2 2 rest
    let between ← rest.head?
    guard (between == 'T' || between == 't' || between == ' ')
    let (h, rest) ← number 2 2 (rest.drop 1)
    let rest ← symbol ':' rest
    let (mi, rest) ← number 2 2 rest
    let rest ← symbol ':' rest
    let (s, rest) ← number 2 2 rest
    let rest ← fraction rest
    guard (isDay y mo d && isClock h mi s && isOffset rest)).isSome

end JsonSchema.Format.Calendar
