/-
  JsonSchema.Format.Email — mail addresses.

  An address is `local@domain`. Both sides may be atoms joined by points; the local part may
  also be a quoted string, the domain a literal in brackets. An address may stand in angle
  brackets behind a name, which may be any text.
-/

import JsonSchema.Unicode.Property

namespace JsonSchema.Format.Email

def isAtomChar (c : Char) : Bool :=
  c.isAlphanum || "!#$%&'*+/=?^_\x60\x7b|\x7d~-".toList.contains c

/-- Atoms joined by points; `inAtom` tells that the character before was part of one. -/
def isDotAtomFrom (inAtom : Bool) : List Char → Bool
  | [] => inAtom
  | c :: rest =>
    if isAtomChar c then isDotAtomFrom true rest else c == '.' && inAtom && isDotAtomFrom false rest

def isDotAtom (text : List Char) : Bool := isDotAtomFrom false text

/-- What follows the closing quote. A backslash takes the character behind it, which may be
    any but a line feed; line ends stand for themselves nowhere. -/
def afterQuoted? : List Char → Option (List Char)
  | [] => none
  | '"' :: rest => some rest
  | '\\' :: c :: rest => if c = '\n' then none else afterQuoted? rest
  | ['\\'] => none
  | c :: rest => if c = '\r' ∨ c = '\n' then none else afterQuoted? rest

def isLiteralChar (c : Char) : Bool := c != '[' && c != ']' && c != '\\' && !Unicode.isBlank c

def isDomain : List Char → Bool
  | '[' :: rest => rest.getLast? == some ']' && rest.dropLast.all isLiteralChar
  | text => isDotAtom text

def isAddress (text : List Char) : Bool :=
  match text with
  | '"' :: rest =>
    match afterQuoted? rest with
    | some ('@' :: domain) => isDomain domain
    | _ => false
  | _ =>
    match text.dropWhile (· != '@') with
    | _ :: domain => isDotAtom (text.takeWhile (· != '@')) && isDomain domain
    | [] => false

def afterLastAngle (text : List Char) : List Char := (text.reverse.takeWhile (· != '<')).reverse

def isEmail (text : String) : Bool :=
  let chars := text.toList
  if chars.getLast? = some '>' ∧ '<' ∈ chars then isAddress (afterLastAngle chars.dropLast)
  else isAddress chars

end JsonSchema.Format.Email
