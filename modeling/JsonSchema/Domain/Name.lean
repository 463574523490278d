/-
  JsonSchema.Domain.Name — names of hosts in any script.

  A name is mapped character by character, brought into the composed normal form and cut into
  labels at points. Labels that start with `xn--` are decoded. A label beyond ASCII must not
  start with a mark, may hold joiners only where scripts call for them, and, in a name with
  characters that run from the right, has to keep to one direction. What is left must be free
  of the characters that have a meaning around a host.
-/

import JsonSchema.Domain.Mapping
import JsonSchema.Domain.Punycode
import JsonSchema.Unicode.Category
import JsonSchema.Unicode.Direction
import JsonSchema.Unicode.Normal

namespace JsonSchema.Domain

def isForbidden (c : Char) : Bool :=
  c.toNat ≤ 0x20 || c.toNat = 0x7f || "%#/:<>?@[\\]^|".toList.contains c

def labels : List Char → List (List Char)
  | [] => [[]]
  | c :: rest =>
    if c = '.' then [] :: labels rest
    else match labels rest with
      | l :: more => (c :: l) :: more
      | [] => [[c]]

def isAscii (label : List Char) : Bool := label.all (·.toNat < 0x80)

/-! ## Joiners -/

def nonJoiner : Char := '\u200C'

def joiner : Char := '\u200D'

/-- A mark that kills the vowel of the letter before it. -/
def isVirama (c : Char) : Bool := Unicode.combiningClass c.toNat == 9

def joinsNext (chars : List Char) (kinds : List String) : Bool :=
  match (chars.map Unicode.joining).dropWhile (· == "T") with
  | kind :: _ => kinds.contains kind
  | [] => false

/-- Joiners stand behind a virama; one that keeps letters apart also between letters that
    would join. `before` has the last character first. -/
def joinersFit (before : List Char) : List Char → Bool
  | [] => true
  | c :: rest =>
    let fits :=
      if c = joiner then before.head?.any isVirama
      else if c = nonJoiner then
        before.head?.any isVirama || (joinsNext before ["L", "D"] && joinsNext rest ["R", "D"])
      else true
    fits && joinersFit (c :: before) rest

/-! ## Direction -/

def runsFromRight (label : List Char) : Bool :=
  label.any fun c => ["R", "AL", "AN"].contains (Unicode.direction c)

def keepsDirection (label : List Char) : Bool :=
  let kinds := label.map Unicode.direction
  let last := (kinds.reverse.dropWhile (· == "NSM")).head?
  match kinds.head? with
  | none => true
  | some "L" =>
    kinds.all (["L", "EN", "ES", "CS", "ET", "ON", "BN", "NSM"].contains ·) &&
      last.any (["L", "EN"].contains ·)
  | some first =>
    (first == "R" || first == "AL") &&
      kinds.all (["R", "AL", "AN", "EN", "ES", "CS", "ET", "ON", "BN", "NSM"].contains ·) &&
      last.any (["R", "AL", "EN", "AN"].contains ·) && !(kinds.contains "EN" && kinds.contains "AN")

/-! ## Names -/

def codedStart : List Char := ['x', 'n', '-', '-']

/-- The label that is meant: decoded where it is coded. A coded label has something beyond ASCII
    to say, in the form that mapping would leave as it is. -/
def meant? (label : List Char) : Option (List Char) :=
  if codedStart.isPrefixOf label then
    (Punycode.decode? (label.drop 4)).bind fun decoded =>
      if isAscii decoded || !decoded.all isKept || Unicode.normalise decoded != decoded then none
      else some decoded
  else some label

def isLabel (label : List Char) : Bool :=
  isAscii label ||
    (!(label.head?.any fun c => Unicode.marks.contains c.toNat) && label.all isKept && joinersFit [] label)

def ofText? (text : List Char) : Option (List Char) := do
  let mapped ← text.mapM mapChar?
  let parts ← (labels (Unicode.normalise mapped.flatten)).mapM meant?
  guard (parts.all isLabel)
  guard (!parts.any runsFromRight || parts.all keepsDirection)
  let name := (parts.intersperse ['.']).flatten
  guard (!name.any isForbidden)
  return name

end JsonSchema.Domain
