/-
  JsonSchema.Pattern.Lexeme — the smallest parts of a pattern text: blanks and comments in
  verbose mode, counts, escapes.

  Each reader takes the text from where its part starts and gives back the text after it.
-/

import JsonSchema.Pattern.Class
import JsonSchema.Pattern.Error
import JsonSchema.Pattern.Regex
import JsonSchema.Unicode.CaseFolding

namespace JsonSchema.Pattern

open Unicode (CodeSet)

structure Flags where
  ignoreCase : Bool
  multiLine : Bool
  dotAll : Bool
  crlf : Bool
  verbose : Bool
  unicode : Bool

def Flags.initial : Flags := ⟨false, false, false, false, false, true⟩

/-! ## Blanks and comments -/

/-- Takes the characters in `p` from the front. In verbose mode blanks and comments before,
    between and after them are dropped. -/
def takeKind (verbose : Bool) (p : Char → Bool) (inComment : Bool) : List Char → List Char × List Char
  | [] => ([], [])
  | c :: rest =>
    if inComment then takeKind verbose p (c != '\n') rest
    else if verbose && Unicode.isBlank c then takeKind verbose p false rest
    else if verbose && c == '#' then takeKind verbose p true rest
    else if p c then
      let (taken, after) := takeKind verbose p false rest
      (c :: taken, after)
    else ([], c :: rest)

def skip (verbose : Bool) (text : List Char) : List Char := (takeKind verbose (fun _ => false) false text).2

/-- Takes everything up to a closing brace, less blanks and comments in verbose mode; none if
    there is no brace. -/
def takeBraced (verbose : Bool) (text : List Char) : Option (List Char × List Char) :=
  match takeKind verbose (· != '\x7d') false text with
  | (inner, _ :: rest) => some (inner, rest)
  | (_, []) => none

/-- The character that comes next behind blanks; a comment ends at its first character that is
    no blank. -/
def peekKind (inComment : Bool) : List Char → Option Char
  | [] => none
  | c :: rest =>
    if Unicode.isBlank c then peekKind inComment rest
    else if !inComment && c == '#' then peekKind true rest
    else some c

def peek (verbose : Bool) (text : List Char) : Option Char :=
  if verbose then peekKind false text else text.head?

/-! ## Counts -/

def countLimit : Nat := UInt32.size - 1

def count (verbose : Bool) (text : List Char) : Except PatternError (Option Nat × List Char) :=
  let (digits, rest) := takeKind verbose Char.isDigit false (text.dropWhile Unicode.isBlank)
  let rest := rest.dropWhile Unicode.isBlank
  if digits.isEmpty then .ok (none, rest)
  else
    let n := Unicode.decimal (String.ofList digits)
    if n ≤ countLimit then .ok (some n, rest) else .error .repetitionCount

def bounds (verbose : Bool) (text : List Char) :
    Except PatternError ((Nat × Option Nat) × List Char) := do
  let text := skip verbose text
  if text.isEmpty then throw .repetitionUnclosed
  let (least, text) ← count verbose text
  let (bounds, text) ← match text with
    | [] => throw .repetitionUnclosed
    | ',' :: text =>
      let text := skip verbose text
      match text, least with
      | '\x7d' :: _, some least => pure ((least, none), text)
      | _ :: _, some least => do
        let (most, text) ← count verbose text
        match most with
        | some most => pure ((least, some most), text)
        | none => throw .repetitionCount
      | _, _ => throw .repetitionCount
    | text =>
      match least with
      | some n => pure ((n, some n), text)
      | none => throw .repetitionCount
  match text with
  | '\x7d' :: rest =>
    if bounds.2.any (· < bounds.1) then throw .repetitionCount
    return (bounds, rest)
  | _ => throw .repetitionUnclosed

/-! ## Escapes -/

inductive Primitive where
  /-- A character; `byte` tells that it was written as a byte, with two digits. -/
  | literal (c : Char) (byte : Bool)
  | set (s : CodeSet)
  | look (l : Look)

def isHexDigit (c : Char) : Bool := c.isDigit || ('a' ≤ c && c ≤ 'f') || ('A' ≤ c && c ≤ 'F')

def hexChar? (digits : List Char) : Option Char :=
  let digit (c : Char) : Nat :=
    if c.isDigit then c.toNat - '0'.toNat else c.toLower.toNat - 'a'.toNat + 10
  let n := digits.foldl (fun n c => n * 16 + digit c) 0
  if n < 0xd800 ∨ (0xdfff < n ∧ n ≤ 0x10ffff) then some (Char.ofNat n) else none

def fixedDigits (verbose : Bool) : Nat → List Char → Except PatternError (List Char × List Char)
  | 0, text => .ok ([], text)
  | n + 1, text =>
    match skip verbose text with
    | [] => .error .escapeUnfinished
    | c :: rest =>
      if isHexDigit c then (fixedDigits verbose n rest).map fun (digits, rest) => (c :: digits, rest)
      else .error .escapeValue

/-- A character by its code point: behind `x`, `u` or `U` either as many digits as the letter
    asks for, or any number of them in braces. -/
def hexEscape (verbose : Bool) (letter : Char) (text : List Char) :
    Except PatternError (Primitive × List Char) :=
  match skip verbose text with
  | [] => .error .escapeUnfinished
  | '\x7b' :: rest =>
    match takeBraced verbose rest with
    | none => .error .escapeUnfinished
    | some (digits, rest) =>
      if digits.isEmpty ∨ !digits.all isHexDigit ∨ 8 < (digits.dropWhile (· == '0')).length then .error .escapeValue
      else match hexChar? digits with
        | some c => .ok (.literal c false, rest)
        | none => .error .escapeValue
  | text => do
    let size := if letter = 'x' then 2 else if letter = 'u' then 4 else 8
    let (digits, rest) ← fixedDigits verbose size text
    match hexChar? digits with
    | some c => return (.literal c (letter = 'x'), rest)
    | none => throw .escapeValue

def splitAt? (separator : List Char) : List Char → Option (List Char × List Char)
  | [] => none
  | c :: rest =>
    if separator.isPrefixOf (c :: rest) then some ([], (c :: rest).drop separator.length)
    else (splitAt? separator rest).map fun (before, after) => (c :: before, after)

def propertySet? (query : List Char) : Option (CodeSet × Bool) :=
  let valued (negated : Bool) (parts : List Char × List Char) : Option (CodeSet × Bool) :=
    (valuedSet? (String.ofList parts.1) (String.ofList parts.2)).map (·, negated)
  match splitAt? ['!', '='] query with
  | some parts => valued true parts
  | none =>
    match splitAt? [':'] query with
    | some parts => valued false parts
    | none =>
      match splitAt? ['='] query with
      | some parts => valued false parts
      | none => (namedSet? (String.ofList query)).map (·, false)

/-- A property: behind `p` or `P` a single letter, or a query in braces. -/
def propertyEscape (flags : Flags) (negated : Bool) (text : List Char) :
    Except PatternError (Primitive × List Char) := do
  let (query, rest) ← match skip flags.verbose text with
    | [] => throw .escapeUnfinished
    | '\x7b' :: rest =>
      match takeBraced flags.verbose rest with
      | none => throw .escapeUnfinished
      | some found => pure found
    | '\\' :: _ => throw .escapeUnknown
    | c :: rest => pure ([c], rest)
  unless flags.unicode do throw .needsUnicode
  match propertySet? query with
  | none => throw .propertyUnknown
  | some (set, turned) =>
    let set := if flags.ignoreCase then set.foldCase else set
    return (.set (if negated != turned then set.complement else set), rest)

def isMeta (c : Char) : Bool :=
  ['\\', '.', '+', '*', '?', '(', ')', '|', '[', ']', '\x7b', '\x7d', '^', '$', '#', '&', '-', '~'].contains c

def isEscapable (c : Char) : Bool :=
  isMeta c || (c.toNat < 0x80 && !c.isAlphanum && c != '<' && c != '>')

/-- A word boundary, where `b` may be followed by the part of the word it bounds, in braces.
    Braces whose content starts otherwise are a repetition. -/
def boundaryEscape (flags : Flags) (text : List Char) : Except PatternError (Primitive × List Char) :=
  let ascii := !flags.unicode
  match text with
  | '\x7b' :: rest =>
    match skip flags.verbose rest with
    | [] => .error .wordBoundary
    | c :: _ =>
      if !(c.isAlpha || c == '-') then .ok (.look (.wordBoundary ascii), text)
      else match takeBraced flags.verbose rest with
        | none => .error .wordBoundary
        | some (name, rest) =>
          match String.ofList name with
          | "start" => .ok (.look (.wordStart ascii), rest)
          | "end" => .ok (.look (.wordEnd ascii), rest)
          | "start-half" => .ok (.look (.wordStartHalf ascii), rest)
          | "end-half" => .ok (.look (.wordEndHalf ascii), rest)
          | _ => .error .wordBoundary
  | _ => .ok (.look (.wordBoundary ascii), text)

def escape (flags : Flags) : List Char → Except PatternError (Primitive × List Char)
  | [] => .error .escapeUnfinished
  | c :: rest =>
    if c.isDigit then .error .backreference
    else if c = 'x' ∨ c = 'u' ∨ c = 'U' then hexEscape flags.verbose c rest
    else if c = 'p' ∨ c = 'P' then propertyEscape flags (c = 'P') rest
    else if isEscapable c then .ok (.literal c false, rest)
    else match letterSet? flags.unicode c.toLower with
      | some set =>
        if c.isLower then .ok (.set set, rest)
        else if flags.unicode then .ok (.set set.complement, rest)
        else .error .needsUnicode
      | none =>
        let ascii := !flags.unicode
        match c with
        | 'a' => .ok (.literal '\x07' false, rest)
        | 'f' => .ok (.literal '\x0c' false, rest)
        | 't' => .ok (.literal '\t' false, rest)
        | 'n' => .ok (.literal '\n' false, rest)
        | 'r' => .ok (.literal '\r' false, rest)
        | 'v' => .ok (.literal '\x0b' false, rest)
        | 'A' => .ok (.look .textStart, rest)
        | 'z' => .ok (.look .textEnd, rest)
        | 'b' => boundaryEscape flags rest
        | 'B' => .ok (.look (.notWordBoundary ascii), rest)
        | '<' => .ok (.look (.wordStart ascii), rest)
        | '>' => .ok (.look (.wordEnd ascii), rest)
        | _ => .error .escapeUnknown

end JsonSchema.Pattern
