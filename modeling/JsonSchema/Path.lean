/-
  JsonSchema.Path — locations in a JSON document.

  A path goes down from the root by keys of objects and indexes of arrays. It is shown as
  `a.b[0]["c d"]`: a plain key (letters, numbers, `_`, `-` and `$`) after a point, any other
  key quoted in brackets. The root is shown as the empty text, and in a message as `(root)`.
-/

import JsonSchema.Text.Quoted

namespace JsonSchema

inductive Segment where
  | key (name : String)
  | index (position : Nat)
  deriving DecidableEq

abbrev Path := List Segment

namespace Path

def key (p : Path) (name : String) : Path := p ++ [.key name]

def index (p : Path) (position : Nat) : Path := p ++ [.index position]

def isPlainChar (c : Char) : Bool := Unicode.isAlphanumeric c || c == '_' || c == '-' || c == '$'

def isPlain (name : String) : Bool := !name.isEmpty && name.toList.all isPlainChar

/-- A segment; the first of a path has no point before it. -/
def renderSegment (first : Bool) : Segment → String
  | .key name =>
    if isPlain name then (if first then name else "." ++ name) else "[" ++ Text.quoted name ++ "]"
  | .index i => "[" ++ toString i ++ "]"

def render : Path → String
  | [] => ""
  | s :: rest => renderSegment true s ++ String.join (rest.map (renderSegment false))

def label (p : Path) : String := if p.isEmpty then "(root)" else p.render

end Path

end JsonSchema
