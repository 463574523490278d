/-
  JsonSchema.Pattern.Size — how large a pattern is.

  A pattern is refused when the automaton that reads its matches byte by byte takes more than
  `sizeLimit` bytes, in either direction. A state takes `stateSize` bytes, a transition on a
  range of bytes eight, a branch of a choice four. Repetitions are written out: `n` copies of
  the body, then either a loop or one optional copy after the other.

  A character of many bytes is a path through ranges of bytes (`utf8Ranges`). Forwards, paths
  with the same continuation share it (`forwardSize`); backwards, paths with the same start
  (`backwardSize`).
-/

import JsonSchema.Pattern.Regex

namespace JsonSchema.Pattern

open Unicode (CodeSet)

abbrev ByteRange := Nat × Nat

/-- The byte at a place of an encoded character; `place` counts from the last byte. -/
def utf8Byte (size code place : Nat) : Nat :=
  let bits := (code >>> (6 * place)) % 64
  if place + 1 = size then
    (if size = 1 then code else if size = 2 then 0xc0 + code / 64 else if size = 3 then 0xe0 + code / 4096
      else 0xf0 + code / 262144)
  else 0x80 + bits

def utf8Size (code : Nat) : Nat :=
  if code ≤ 0x7f then 1 else if code ≤ 0x7ff then 2 else if code ≤ 0xffff then 3 else 4

/-- Cuts a range of code points until the encodings of each part are all the combinations of
    one range per byte; `fuel` bounds the number of cuts. -/
def utf8Ranges : Nat → Nat × Nat → List (List ByteRange)
  | 0, _ => []
  | fuel + 1, (lo, hi) =>
    if hi < lo then []
    else if lo < 0xe000 ∧ 0xd7ff < hi then utf8Ranges fuel (lo, 0xd7ff) ++ utf8Ranges fuel (0xe000, hi)
    else
      match [0x7f, 0x7ff, 0xffff].find? (fun last => lo ≤ last ∧ last < hi) with
      | some last => utf8Ranges fuel (lo, last) ++ utf8Ranges fuel (last + 1, hi)
      | none =>
        let size := utf8Size lo
        match (List.range (size - 1)).findSome? (fun i =>
            let block := 1 <<< (6 * (i + 1))
            if lo / block = hi / block then none
            else if lo % block ≠ 0 then some (lo / block * block + block - 1)
            else if hi % block ≠ block - 1 then some (hi / block * block - 1)
            else none) with
        | some last => utf8Ranges fuel (lo, last) ++ utf8Ranges fuel (last + 1, hi)
        | none =>
          [(List.range size).reverse.map fun place => (utf8Byte size lo place, utf8Byte size hi place)]

def utf8Paths (s : CodeSet) : List (List ByteRange) := s.ranges.flatMap (utf8Ranges 64)

def stateSize : Nat := 32

/-- What is left of paths that go on with the same range, gathered in order. -/
def branches : List (List ByteRange) → List (ByteRange × List (List ByteRange))
  | [] => []
  | [] :: rest => branches rest
  | (r :: path) :: rest =>
    match branches rest with
    | (s, paths) :: others => if r = s then (s, path :: paths) :: others else (r, [path]) :: (s, paths) :: others
    | [] => [(r, [path])]

/-- The states met so far, each as its transitions, and the number of the state that the paths
    start from; a state that is there already is taken again. The end is number 0. -/
def addState : Nat → List (List (ByteRange × Nat)) → List (List ByteRange) →
    List (List (ByteRange × Nat)) × Nat
  | 0, states, _ => (states, 0)
  | depth + 1, states, paths =>
    if paths.all List.isEmpty then (states, 0)
    else
      let (states, transitions) := (branches paths).foldl
        (fun (states, done) (range, rest) =>
          let (states, target) := addState depth states rest
          (states, (range, target) :: done))
        (states, [])
      match states.findIdx? (· == transitions) with
      | some i => (states, i + 1)
      | none => (states ++ [transitions], states.length + 1)

def forwardSize (s : CodeSet) : Nat :=
  let (states, _) := addState 5 [] (utf8Paths s)
  states.foldl (fun n transitions => n + stateSize + 8 * transitions.length) stateSize

def sharedStart : List ByteRange → List ByteRange → Nat
  | a :: p, b :: q => if a = b then sharedStart p q + 1 else 0
  | _, _ => 0

def backwardSize (s : CodeSet) : Nat :=
  let paths := utf8Paths s
  let distinct := (paths.zip ([] :: paths)).foldl (fun n (p, before) => n + (p.length - sharedStart p before)) 0
  (distinct + 2) * stateSize + 4 * paths.length

namespace Regex

def setSize (s : CodeSet) : Nat × Nat :=
  match s.ranges with
  | [] => (stateSize, stateSize)
  | [(lo, hi)] =>
    if lo = hi then (utf8Size lo * stateSize, utf8Size lo * stateSize)
    else if hi < 0x80 then (2 * stateSize + 8, 2 * stateSize + 8)
    else (forwardSize s, backwardSize s)
  | ranges =>
    if s.allBelow 0x80 then (2 * stateSize + 8 * ranges.length, 2 * stateSize + 8 * ranges.length)
    else (forwardSize s, backwardSize s)

def takesChar : Regex → Bool
  | .empty => false
  | .one set => !set.isEmpty
  | .look _ => false
  | .seq r s => takesChar r || takesChar s
  | .alt r s => takesChar r || takesChar s
  | .times body _ most => most != some 0 && takesChar body
  | .capture body => takesChar body

def timesSize (body least : Nat) (most : Option Nat) : Nat :=
  match most with
  | none => (max least 1) * body + stateSize + 8
  | some most =>
    if most = least then (if most = 0 then stateSize else least * body)
    else least * body + (most - least) * (body + stateSize + 8) + stateSize

/-- The size of an expression forwards and backwards. Only forwards do groups take states, two
    each. A repetition of what takes no character is done at most once. -/
def size : Regex → Nat × Nat
  | .empty => (stateSize, stateSize)
  | .one set => setSize set
  | .look _ => (stateSize, stateSize)
  | .seq r s =>
    let (a, b) := r.size
    let (c, d) := s.size
    (a + c, b + d)
  | .alt r s =>
    let (a, b) := r.size
    let (c, d) := s.size
    (a + c + stateSize + 8, b + d + stateSize + 8)
  | .times body least most =>
    let (least, most) := if body.takesChar then (least, most) else (min least 1, most.map (min 1))
    let (a, b) := body.size
    (timesSize a least most, timesSize b least most)
  | .capture body =>
    let (a, b) := body.size
    (a + 2 * stateSize, b)

def sizeLimit : Nat := 10 * 1024 * 1024

def tooLarge (r : Regex) : Bool := sizeLimit < r.size.1 || sizeLimit < r.size.2

end Regex

end JsonSchema.Pattern
