/-
  JsonSchema.Pattern.Parser — reading a pattern text.

  The text is read part by part (`step`). Open groups lie on a stack, each with the parts read
  before it and the flags that hold again behind it; flags set inside a group hold up to its
  end, through its alternatives.
-/

import JsonSchema.Pattern.Bracket

namespace JsonSchema.Pattern

open Unicode (CodeSet)

namespace Parser

/-- A part of an expression: how deep it nests, and whether a repetition may follow it. -/
structure Part where
  regex : Regex
  depth : Nat
  repeatable : Bool

/-- The parts of one group, the last first: of the present alternative, and the alternatives
    before it. -/
structure Body where
  parts : List Part
  alternatives : List Part

def Body.empty : Body := ⟨[], []⟩

def Body.add (b : Body) (p : Part) : Body := { b with parts := p :: b.parts }

def deepest (parts : List Part) : Nat := (parts.map Part.depth).foldl max 0

def Body.concat (b : Body) : Part :=
  match b.parts with
  | [] => ⟨.empty, 0, true⟩
  | [p] => p
  | parts => ⟨.sequence (parts.reverse.map Part.regex), deepest parts + 1, true⟩

def Body.alternate (b : Body) : Body := ⟨[], b.concat :: b.alternatives⟩

def Body.finish (b : Body) : Part :=
  match b.alternatives with
  | [] => b.concat
  | earlier =>
    let all := b.concat :: earlier
    ⟨.choice (all.reverse.map Part.regex), deepest all + 1, true⟩

structure Frame where
  outer : Body
  outerFlags : Flags
  capture : Bool

structure State where
  body : Body
  flags : Flags
  frames : List Frame
  names : List String

def start : State := ⟨.empty, .initial, [], []⟩

def State.add (s : State) (p : Part) : State := { s with body := s.body.add p }

/-! ## Single characters -/

def literalRegex (flags : Flags) (c : Char) (byte : Bool) : Except PatternError Regex :=
  if !flags.unicode ∧ byte ∧ 0x80 ≤ c.toNat then .error .needsUnicode
  else .ok (.one (Bracket.fold flags (.ofCode c.toNat)))

def dotRegex (flags : Flags) : Except PatternError Regex :=
  if !flags.unicode then .error .needsUnicode
  else if flags.dotAll then .ok (.one .all)
  else if flags.crlf then .ok (.one (CodeSet.ofChars ['\r', '\n']).complement)
  else .ok (.one (CodeSet.ofCode '\n'.toNat).complement)

def primitiveRegex (flags : Flags) : Primitive → Except PatternError Regex
  | .literal c byte => literalRegex flags c byte
  | .set s => .ok (.one s)
  | .look l => .ok (.look l)

/-! ## Groups -/

/-- Switches one flag. Greed is a flag too, but has no effect here. -/
def setFlag (flags : Flags) (value : Bool) (flag : Char) : Flags :=
  match flag with
  | 'i' => { flags with ignoreCase := value }
  | 'm' => { flags with multiLine := value }
  | 's' => { flags with dotAll := value }
  | 'R' => { flags with crlf := value }
  | 'x' => { flags with verbose := value }
  | 'u' => { flags with unicode := value }
  | _ => flags

/-- The flags after a list of them; those behind a hyphen are switched off. -/
def applyFlags (flags : Flags) (chars : List Char) : Except PatternError Flags :=
  if !chars.all (fun c => ['i', 'm', 's', 'U', 'u', 'R', 'x', '-'].contains c) then .error .flagUnknown
  else if !chars.Nodup then .error .flagRepeated
  else if chars.getLast? = some '-' then .error .flagDangling
  else
    let on := chars.takeWhile (· != '-')
    let off := chars.dropWhile (· != '-')
    .ok (off.foldl (setFlag · false ·) (on.foldl (setFlag · true ·) flags))

def isNameStart (c : Char) : Bool := c == '_' || Unicode.isAlphabetic c

def isNameChar (c : Char) : Bool :=
  c == '_' || c == '.' || c == '[' || c == ']' || Unicode.isAlphanumeric c

def groupName (text : List Char) : Except PatternError (String × List Char) :=
  match splitAt? ['>'] text with
  | none => .error .groupName
  | some ([], _) => .error .groupName
  | some (c :: name, rest) =>
    if isNameStart c && name.all isNameChar then .ok (String.ofList (c :: name), rest)
    else .error .groupName

def State.openGroup (s : State) (flags : Flags) (capture : Bool) : State :=
  { s with body := .empty, flags := flags, frames := ⟨s.body, s.flags, capture⟩ :: s.frames }

def openNamed (s : State) (text : List Char) : Except PatternError (State × List Char) := do
  let (name, rest) ← groupName text
  if s.names.contains name then throw .groupNameRepeated
  let s := s.openGroup s.flags true
  return ({ s with names := name :: s.names }, rest)

/-- A group with flags, or flags for the rest of the present group. -/
def openFlagged (s : State) (text : List Char) : Except PatternError (State × List Char) := do
  let isEnd (c : Char) : Bool := c == ':' || c == ')'
  let chars := text.takeWhile (!isEnd ·)
  match text.drop chars.length with
  | [] => throw (if text.isEmpty then .groupUnclosed else .flagsUnclosed)
  | c :: rest =>
    let flags ← applyFlags s.flags chars
    if c = ':' then return (s.openGroup flags false, rest)
    else if chars.isEmpty then throw .repetitionMissing
    else return ({ s with flags := flags }.add ⟨.empty, 0, false⟩, rest)

def openParen (s : State) (text : List Char) : Except PatternError (State × List Char) :=
  match skip s.flags.verbose text with
  | '?' :: '=' :: _ => .error .lookAround
  | '?' :: '!' :: _ => .error .lookAround
  | '?' :: '<' :: '=' :: _ => .error .lookAround
  | '?' :: '<' :: '!' :: _ => .error .lookAround
  | '?' :: 'P' :: '<' :: rest => openNamed s rest
  | '?' :: '<' :: rest => openNamed s rest
  | '?' :: rest => openFlagged s rest
  | text => .ok (s.openGroup s.flags true, text)

def closeParen (s : State) : Except PatternError State :=
  match s.frames with
  | [] => .error .groupUnopened
  | frame :: frames =>
    let inner := s.body.finish
    let regex := if frame.capture then .capture inner.regex else inner.regex
    .ok { s with body := frame.outer.add ⟨regex, inner.depth + 1, true⟩, flags := frame.outerFlags, frames := frames }

/-! ## Repetitions -/

def repeatLast (s : State) (least : Nat) (most : Option Nat) : Except PatternError State :=
  match s.body.parts with
  | p :: parts =>
    if p.repeatable then
      .ok { s with body := { s.body with parts := ⟨.times p.regex least most, p.depth + 1, true⟩ :: parts } }
    else .error .repetitionMissing
  | [] => .error .repetitionMissing

/-- A question mark behind a repetition asks for as few as possible. -/
def skipLazy : List Char → List Char
  | '?' :: rest => rest
  | text => text

def counted (s : State) (text : List Char) : Except PatternError (State × List Char) := do
  discard (repeatLast s 0 none)
  let ((least, most), rest) ← bounds s.flags.verbose text
  return (← repeatLast s least most, skipLazy (skip s.flags.verbose rest))

/-! ## The whole text -/

def step (s : State) (c : Char) (rest : List Char) : Except PatternError (State × List Char) := do
  match c with
  | '(' => openParen s rest
  | ')' => return (← closeParen s, rest)
  | '|' => return ({ s with body := s.body.alternate }, rest)
  | '[' =>
    let (set, depth, rest) ← Bracket.read s.flags rest
    return (s.add ⟨.one set, depth, true⟩, rest)
  | '?' => return (← repeatLast s 0 (some 1), skipLazy rest)
  | '*' => return (← repeatLast s 0 none, skipLazy rest)
  | '+' => return (← repeatLast s 1 none, skipLazy rest)
  | '\x7b' => counted s rest
  | '\\' =>
    let (primitive, rest) ← escape s.flags rest
    return (s.add ⟨← primitiveRegex s.flags primitive, 0, true⟩, rest)
  | '.' => return (s.add ⟨← dotRegex s.flags, 0, true⟩, rest)
  | '^' =>
    let look := if s.flags.multiLine then Look.lineStart s.flags.crlf else .textStart
    return (s.add ⟨.look look, 0, true⟩, rest)
  | '$' =>
    let look := if s.flags.multiLine then Look.lineEnd s.flags.crlf else .textEnd
    return (s.add ⟨.look look, 0, true⟩, rest)
  | c => return (s.add ⟨← literalRegex s.flags c false, 0, true⟩, rest)

def run (s : State) (inComment : Bool) : List Char → Except PatternError State
  | [] => .ok s
  | c :: rest =>
    if inComment then run s (c != '\n') rest
    else if s.flags.verbose && Unicode.isBlank c then run s false rest
    else if s.flags.verbose && c == '#' then run s true rest
    else match step s c rest with
      | .error e => .error e
      | .ok (s, after) => run s false (rest.drop (rest.length - after.length))
  termination_by text => text.length
  decreasing_by all_goals simp only [List.length_drop, List.length_cons]; omega

/-- How deep groups, classes, repetitions, alternatives and sequences may nest. -/
def depthLimit : Nat := 250

end Parser

def Regex.ofText (text : String) : Except PatternError Regex := do
  let s ← Parser.run Parser.start false text.toList
  unless s.frames.isEmpty do throw .groupUnclosed
  let whole := s.body.finish
  if Parser.depthLimit < whole.depth then throw .tooDeep
  return whole.regex

end JsonSchema.Pattern
