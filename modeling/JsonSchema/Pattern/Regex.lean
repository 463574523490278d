/-
  JsonSchema.Pattern.Regex — regular expressions over characters.

  The expressions that pattern texts are read into. Which of several matches is found does
  not matter here, only whether there is one, so greed and the numbers of groups leave no
  trace; a group stays visible because it counts towards the size of the pattern.
-/

import JsonSchema.Unicode.Property

namespace JsonSchema.Pattern

open Unicode (CodeSet)

/-- The two characters around a position; none at an end of the text. -/
structure Boundary where
  before : Option Char
  after : Option Char
  deriving DecidableEq

inductive Look where
  | textStart
  | textEnd
  /-- After or before a line feed; with `crlf`, a carriage return ends lines too, and the two
      together end one. -/
  | lineStart (crlf : Bool)
  | lineEnd (crlf : Bool)
  /-- Conditions on words; `ascii` admits ASCII letters, digits and `_` only. -/
  | wordBoundary (ascii : Bool)
  | notWordBoundary (ascii : Bool)
  | wordStart (ascii : Bool)
  | wordEnd (ascii : Bool)
  | wordStartHalf (ascii : Bool)
  | wordEndHalf (ascii : Bool)
  deriving DecidableEq

def isWordAt (ascii : Bool) : Option Char → Bool
  | none => false
  | some c => if ascii then c.isAlphanum || c == '_' else Unicode.isWord c

def Look.holds (b : Boundary) : Look → Bool
  | .textStart => b.before.isNone
  | .textEnd => b.after.isNone
  | .lineStart false => b.before.isNone || b.before == some '\n'
  | .lineStart true =>
    b.before.isNone || b.before == some '\n' || (b.before == some '\r' && b.after != some '\n')
  | .lineEnd false => b.after.isNone || b.after == some '\n'
  | .lineEnd true =>
    b.after.isNone || b.after == some '\r' || (b.after == some '\n' && b.before != some '\r')
  | .wordBoundary ascii => isWordAt ascii b.before != isWordAt ascii b.after
  | .notWordBoundary ascii => isWordAt ascii b.before == isWordAt ascii b.after
  | .wordStart ascii => !isWordAt ascii b.before && isWordAt ascii b.after
  | .wordEnd ascii => isWordAt ascii b.before && !isWordAt ascii b.after
  | .wordStartHalf ascii => !isWordAt ascii b.before
  | .wordEndHalf ascii => !isWordAt ascii b.after

inductive Regex where
  | empty
  /-- One character of the set. -/
  | one (set : CodeSet)
  | look (l : Look)
  | seq (first second : Regex)
  | alt (first second : Regex)
  /-- At least `least` times in a row, and at most `most` times if there is a bound. -/
  | times (body : Regex) (least : Nat) (most : Option Nat)
  | capture (body : Regex)

namespace Regex

def char (c : Char) : Regex := .one (.ofCode c.toNat)

def sequence : List Regex → Regex
  | [] => .empty
  | [r] => r
  | r :: rest => .seq r (sequence rest)

/-- One of them; none at all matches nothing. -/
def choice : List Regex → Regex
  | [] => .one .empty
  | [r] => r
  | r :: rest => .alt r (choice rest)

end Regex

end JsonSchema.Pattern
