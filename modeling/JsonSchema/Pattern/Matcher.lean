/-
  JsonSchema.Pattern.Matcher — whether a regular expression matches somewhere in a text.

  The text is read once. A `Marked` expression carries a mark on each of its characters: it
  is set when some way to match ends with that character at the present position. `shift`
  reads a character and moves all marks at once; a new attempt starts at every position.
  Counted repetitions are written out before (`Marked.ofRegex`), in halves so that the
  expression stays shallow.
-/

import JsonSchema.Pattern.Regex

namespace JsonSchema.Pattern

open Unicode (CodeSet)

inductive Marked where
  | empty
  | one (mark : Bool) (set : CodeSet)
  | look (l : Look)
  | seq (first second : Marked)
  | alt (first second : Marked)
  | star (body : Marked)

namespace Marked

def copies (r : Marked) (n : Nat) : Marked :=
  if n = 0 then .empty
  else if n = 1 then r
  else .seq (copies r (n / 2)) (copies r (n - n / 2))
  termination_by n

def ofRegex : Regex → Marked
  | .empty => .empty
  | .one set => .one false set
  | .look l => .look l
  | .seq r s => .seq (ofRegex r) (ofRegex s)
  | .alt r s => .alt (ofRegex r) (ofRegex s)
  | .times body least none => .seq (copies (ofRegex body) least) (.star (ofRegex body))
  | .times body least (some most) =>
    .seq (copies (ofRegex body) least) (copies (.alt .empty (ofRegex body)) (most - least))
  | .capture body => ofRegex body

/-- Matches without a character, at this position. -/
def nullable (b : Boundary) : Marked → Bool
  | .empty => true
  | .one _ _ => false
  | .look l => l.holds b
  | .seq r s => nullable b r && nullable b s
  | .alt r s => nullable b r || nullable b s
  | .star _ => true

def final (b : Boundary) : Marked → Bool
  | .empty => false
  | .one mark _ => mark
  | .look _ => false
  | .seq r s => final b s || (final b r && nullable b s)
  | .alt r s => final b r || final b s
  | .star r => final b r

/-- Reads `c` after the position `b`; `start` tells that a way to match starts there. -/
def shift (b : Boundary) (c : Char) (start : Bool) : Marked → Marked
  | .empty => .empty
  | .one _ set => .one (start && set.contains c.toNat) set
  | .look l => .look l
  | .seq r s => .seq (shift b c start r) (shift b c (final b r || (start && nullable b r)) s)
  | .alt r s => .alt (shift b c start r) (shift b c start s)
  | .star r => .star (shift b c (start || final b r) r)

def search (r : Marked) (before : Option Char) : List Char → Bool
  | [] => nullable ⟨before, none⟩ r || final ⟨before, none⟩ r
  | c :: rest =>
    let b : Boundary := ⟨before, some c⟩
    nullable b r || final b r || search (shift b c true r) (some c) rest

end Marked

def Regex.matchesIn (r : Regex) (text : String) : Bool := (Marked.ofRegex r).search none text.toList

end JsonSchema.Pattern
