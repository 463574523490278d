/-
  JsonSchema.Pattern.Bracket — character classes in brackets.

  A class is read level by level: each open bracket has the set gathered so far and, behind
  an operator, the operand to its left. `&&` intersects, `--` takes away, `~~` keeps what is
  in one operand only; they bind alike, from the left. A circumflex turns the whole level
  round. Outside Unicode mode a class may hold ASCII characters only.

  A class also has a depth: a bracket, an operator and a union of several items each lie one
  deeper than what they hold.
-/

import JsonSchema.Pattern.Lexeme

namespace JsonSchema.Pattern

open Unicode (CodeSet)

namespace Bracket

inductive Op where
  | inter
  | diff
  | symmDiff

def Op.apply : Op → CodeSet → CodeSet → CodeSet
  | .inter => CodeSet.inter
  | .diff => CodeSet.diff
  | .symmDiff => CodeSet.symmDiff

structure Pending where
  op : Op
  left : CodeSet
  depth : Nat

structure Level where
  negated : Bool
  pending : Option Pending
  gathered : CodeSet
  /-- How many items were gathered, and the depth of the deepest. -/
  items : Nat
  deepest : Nat

def fold (flags : Flags) (s : CodeSet) : CodeSet :=
  if !flags.ignoreCase then s else if flags.unicode then s.foldCase else s.foldCaseAscii

def finish (flags : Flags) (negated : Bool) (s : CodeSet) : Except PatternError CodeSet :=
  let s := fold flags s
  if !negated then .ok s else if flags.unicode then .ok s.complement else .error .needsUnicode

def Level.value (flags : Flags) (l : Level) : CodeSet :=
  match l.pending with
  | none => l.gathered
  | some p => p.op.apply (fold flags p.left) (fold flags l.gathered)

def Level.depth (l : Level) : Nat :=
  let gathered := if l.items ≤ 1 then l.deepest else l.deepest + 1
  match l.pending with
  | none => gathered
  | some p => max p.depth gathered + 1

def Level.add (l : Level) (s : CodeSet) (depth : Nat) : Level :=
  { l with gathered := l.gathered.union s, items := l.items + 1, deepest := max l.deepest depth }

/-- An operator: what was gathered becomes its left operand. -/
def Level.operate (flags : Flags) (op : Op) (l : Level) : Level :=
  ⟨l.negated, some ⟨op, l.value flags, l.depth⟩, .empty, 0, 0⟩

def literal (flags : Flags) (c : Char) : Except PatternError Char :=
  if flags.unicode ∨ c.toNat < 0x80 then .ok c else .error .needsUnicode

def item (flags : Flags) : List Char → Except PatternError (Primitive × List Char)
  | [] => .error .classUnclosed
  | '\\' :: rest => escape flags rest
  | c :: rest => .ok (.literal c false, rest)

/-- An item, or a range between two characters. A hyphen before the closing bracket or before
    another hyphen makes no range. -/
def rangeOrItem (flags : Flags) (text : List Char) : Except PatternError (CodeSet × List Char) := do
  let (first, text) ← item flags text
  let text := skip flags.verbose text
  if text.isEmpty then throw .classUnclosed
  let next := peek flags.verbose (text.drop 1)
  if text.head? ≠ some '-' ∨ next = some ']' ∨ next = some '-' then
    match first with
    | .literal c _ => return (.ofCode (← literal flags c).toNat, text)
    | .set s => return (s, text)
    | .look _ => throw .classItem
  else
    let (last, text) ← item flags (skip flags.verbose (text.drop 1))
    match first, last with
    | .literal a _, .literal b _ =>
      let a ← literal flags a
      let b ← literal flags b
      if b < a then throw .classRange
      return (.ofRange a.toNat b.toNat, text)
    | _, _ => throw .classItem

/-- A class by its name, as `[:alpha:]` and `[:^alpha:]`; none if the text is no such name. -/
def named? (flags : Flags) : List Char → Option (Except PatternError CodeSet × List Char)
  | ':' :: text =>
    let (negated, text) := match text with
      | '^' :: rest => (true, rest)
      | _ => (false, text)
    match splitAt? [':'] text with
    | some (name, ']' :: rest) =>
      (asciiNamed? (String.ofList name)).map fun set => (finish flags negated set, rest)
    | _ => none
  | _ => none

/-- A new level, from behind its bracket. Hyphens at its start stand for themselves, and so
    does a closing bracket right at its start. -/
def openLevel (flags : Flags) (text : List Char) : Except PatternError (Level × List Char) := do
  let verbose := flags.verbose
  let (negated, text) := match skip verbose text with
    | '^' :: rest => (true, skip verbose rest)
    | text => (false, text)
  let (hyphens, text) := takeKind verbose (· == '-') false text
  match hyphens, text with
  | _, [] => throw .classUnclosed
  | [], ']' :: rest =>
    let rest := skip verbose rest
    if rest.isEmpty then throw .classUnclosed
    return (⟨negated, none, .ofCode ']'.toNat, 1, 0⟩, rest)
  | [], text => return (⟨negated, none, .empty, 0, 0⟩, text)
  | _, text => return (⟨negated, none, .ofCode '-'.toNat, hyphens.length, 0⟩, text)

/-- Open levels, the innermost first and apart, or the finished class with its depth. -/
inductive State where
  | inside (level : Level) (outer : List Level)
  | done (set : CodeSet) (depth : Nat)

def step (flags : Flags) (level : Level) (outer : List Level) (c : Char) (rest : List Char) :
    Except PatternError (State × List Char) := do
  match c, rest with
  | '[', rest =>
    match named? flags rest with
    | some (set, rest) => return (.inside (level.add (← set) 0) outer, rest)
    | none =>
      let (inner, rest) ← openLevel flags rest
      return (.inside inner (level :: outer), rest)
  | ']', rest =>
    let set ← finish flags level.negated (level.value flags)
    match outer with
    | [] => return (.done set (level.depth + 1), rest)
    | next :: outer => return (.inside (next.add set (level.depth + 1)) outer, rest)
  | '&', '&' :: rest => return (.inside (level.operate flags .inter) outer, rest)
  | '-', '-' :: rest => return (.inside (level.operate flags .diff) outer, rest)
  | '~', '~' :: rest => return (.inside (level.operate flags .symmDiff) outer, rest)
  | c, rest =>
    let (set, rest) ← rangeOrItem flags (c :: rest)
    return (.inside (level.add set 0) outer, rest)

def run (flags : Flags) (level : Level) (outer : List Level) (inComment : Bool) :
    List Char → Except PatternError (CodeSet × Nat × List Char)
  | [] => .error .classUnclosed
  | c :: rest =>
    if inComment then run flags level outer (c != '\n') rest
    else if flags.verbose && Unicode.isBlank c then run flags level outer false rest
    else if flags.verbose && c == '#' then run flags level outer true rest
    else match step flags level outer c rest with
      | .error e => .error e
      | .ok (.done set depth, after) => .ok (set, depth, after)
      | .ok (.inside level outer, after) =>
        run flags level outer false (rest.drop (rest.length - after.length))
  termination_by text => text.length
  decreasing_by all_goals simp only [List.length_drop, List.length_cons]; omega

/-- A class from behind its opening bracket: its set, its depth, and the text after it. -/
def read (flags : Flags) (text : List Char) : Except PatternError (CodeSet × Nat × List Char) := do
  let (level, text) ← openLevel flags text
  run flags level [] false text

end Bracket

end JsonSchema.Pattern
