/-
  JsonSchema.Pattern.Class — the character classes that a pattern calls by name.

  Properties of the standard are looked up as `\p` names them, alone or as a property with a
  value; names are compared without case, blanks, hyphens and underscores.
-/

import JsonSchema.Unicode.Age
import JsonSchema.Unicode.Boundary
import JsonSchema.Unicode.Property
import JsonSchema.Unicode.Script

namespace JsonSchema.Pattern

open Unicode (CodeSet)

/-! ## Properties -/

/-- A name as names are compared. A leading `is` is dropped, except from `isc`, whose rest
    would be another name. -/
def normalName (name : String) : String :=
  let chars := name.toList
  let (marked, body) := match chars with
    | i :: s :: rest => if (i = 'i' ∨ i = 'I') ∧ (s = 's' ∨ s = 'S') then (true, rest) else (false, chars)
    | _ => (false, chars)
  let kept := body.filterMap fun c =>
    if c = ' ' ∨ c = '_' ∨ c = '-' ∨ 0x80 ≤ c.toNat then none else some c.toLower
  if marked ∧ kept = ['c'] then "isc" else String.ofList kept

def namedSet? (name : String) : Option CodeSet :=
  let name := normalName name
  (Unicode.properties.lookup name).or ((Unicode.categoryNamed? name).or (Unicode.scriptNamed? name))

def valuedSet? (property value : String) : Option CodeSet :=
  let property := normalName property
  let value := normalName value
  if property = "gc" ∨ property = "generalcategory" then Unicode.categoryNamed? value
  else if property = "sc" ∨ property = "script" then Unicode.scriptNamed? value
  else if property = "scx" ∨ property = "scriptextensions" then Unicode.scriptUseNamed? value
  else if property = "age" then Unicode.ageNamed? value
  else if property = "gcb" ∨ property = "graphemeclusterbreak" then Unicode.graphemeBreakNamed? value
  else if property = "wb" ∨ property = "wordbreak" then Unicode.wordBreakNamed? value
  else if property = "sb" ∨ property = "sentencebreak" then Unicode.sentenceBreakNamed? value
  else none

/-! ## Digits, blanks, words -/

def asciiNamed? (name : String) : Option CodeSet :=
  let ranges (l : List (Char × Char)) : CodeSet := .ofRanges (l.map fun (a, b) => (a.toNat, b.toNat))
  match name with
  | "alnum" => some (ranges [('0', '9'), ('A', 'Z'), ('a', 'z')])
  | "alpha" => some (ranges [('A', 'Z'), ('a', 'z')])
  | "ascii" => some (.ofRange 0 0x7f)
  | "blank" => some (ranges [('\t', '\t'), (' ', ' ')])
  | "cntrl" => some (.ofRanges [(0, 0x1f), (0x7f, 0x7f)])
  | "digit" => some (ranges [('0', '9')])
  | "graph" => some (ranges [('!', '~')])
  | "lower" => some (ranges [('a', 'z')])
  | "print" => some (ranges [(' ', '~')])
  | "punct" => some (ranges [('!', '/'), (':', '@'), ('[', '`'), ('\x7b', '~')])
  | "space" => some (.ofRanges [(0x09, 0x0d), (0x20, 0x20)])
  | "upper" => some (ranges [('A', 'Z')])
  | "word" => some (ranges [('0', '9'), ('A', 'Z'), ('_', '_'), ('a', 'z')])
  | "xdigit" => some (ranges [('0', '9'), ('A', 'F'), ('a', 'f')])
  | _ => none

/-- The class of an escaped letter: `d` digits, `s` blanks, `w` words. -/
def letterSet? (unicode : Bool) (letter : Char) : Option CodeSet :=
  match letter, unicode with
  | 'd', true => some Unicode.decimalDigits
  | 's', true => some Unicode.whiteSpace
  | 'w', true => some Unicode.wordSet
  | 'd', false => asciiNamed? "digit"
  | 's', false => asciiNamed? "space"
  | 'w', false => asciiNamed? "word"
  | _, _ => none

end JsonSchema.Pattern
