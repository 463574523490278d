/-
  JsonSchema.Text.Bytes — texts as bytes.

  `decode?` reads UTF-8 and refuses anything that is not. `display` reads it for a human:
  each longest start of a character that is not continued stands as one U+FFFD.
-/

namespace JsonSchema

abbrev Bytes := List UInt8

namespace Bytes

def ofText (text : String) : Bytes := text.toUTF8.toList

def decode? (bytes : Bytes) : Option String := String.fromUTF8? ⟨bytes.toArray⟩

/-- How many bytes a character takes that starts with `b`, and the range of its second byte. -/
def lead (b : UInt8) : Option (Nat × UInt8 × UInt8) :=
  if b < 0x80 then some (1, 0x80, 0xbf)
  else if 0xc2 ≤ b ∧ b ≤ 0xdf then some (2, 0x80, 0xbf)
  else if b = 0xe0 then some (3, 0xa0, 0xbf)
  else if b = 0xed then some (3, 0x80, 0x9f)
  else if 0xe1 ≤ b ∧ b ≤ 0xef then some (3, 0x80, 0xbf)
  else if b = 0xf0 then some (4, 0x90, 0xbf)
  else if 0xf1 ≤ b ∧ b ≤ 0xf3 then some (4, 0x80, 0xbf)
  else if b = 0xf4 then some (4, 0x80, 0x8f)
  else none

/-- How many of the bytes after `b` belong to its character, and whether they complete it. -/
def following (b : UInt8) (rest : Bytes) : Nat × Bool :=
  match lead b with
  | none => (0, false)
  | some (size, least, greatest) =>
    match rest with
    | [] => (0, size == 1)
    | second :: others =>
      if size = 1 then (0, true)
      else if second < least ∨ greatest < second then (0, false)
      else
        let more := ((others.take (size - 2)).takeWhile fun c => 0x80 ≤ c ∧ c ≤ 0xbf).length
        (more + 1, more + 2 == size)

/-- The text with each broken character as U+FFFD. -/
def display : Bytes → String
  | [] => ""
  | b :: rest =>
    let (more, complete) := following b rest
    let one := if complete then ((decode? (b :: rest.take more)).getD "\uFFFD") else "\uFFFD"
    one ++ display (rest.drop more)
  termination_by bytes => bytes.length
  decreasing_by simp only [List.length_drop, List.length_cons]; omega

end Bytes

end JsonSchema
