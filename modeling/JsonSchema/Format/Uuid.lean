/-
  JsonSchema.Format.Uuid — identifiers of 32 hexadecimal digits.

  Plain, or cut by hyphens into groups of 8, 4, 4, 4 and 12; the hyphenated form also in braces
  or behind `urn:uuid:` in letters of either case.
-/

import JsonSchema.Text.Bytes

namespace JsonSchema.Format.Uuid

def isHex (c : Char) : Bool := c.isDigit || ('a' ≤ c && c ≤ 'f') || ('A' ≤ c && c ≤ 'F')

/-- Whether the characters are groups of digits of these sizes, with hyphens between them. -/
def isGrouped : List Nat → List Char → Bool
  | [], text => text.isEmpty
  | [n], text => text.length == n && text.all isHex
  | n :: sizes, text =>
    (text.take n).length == n && (text.take n).all isHex && (text.drop n).head? == some '-' &&
      isGrouped sizes (text.drop (n + 1))

def isHyphenated (text : List Char) : Bool := isGrouped [8, 4, 4, 4, 12] text

def isUuid (text : String) : Bool :=
  let chars := text.toList
  isGrouped [32] chars || isHyphenated chars ||
    (chars.head? == some '\x7b' && chars.getLast? == some '\x7d' && isHyphenated (chars.drop 1).dropLast) ||
    ((chars.take 9).map Char.toLower == "urn:uuid:".toList && isHyphenated (chars.drop 9))

end JsonSchema.Format.Uuid
