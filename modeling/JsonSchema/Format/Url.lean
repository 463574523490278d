/-
  JsonSchema.Format.Url — references to resources.

  A reference has a scheme, or stands relative to some page of the web. Nearly every text is
  one: blanks and controls around it and line ends in it are dropped, and paths, queries and
  fragments may hold anything. What can be wrong is the host and its port, which stand behind
  two slashes: the schemes of the web need a host, an address in brackets has to be one, a
  name that ends in a number has to be an address of four numbers, and a port is at most
  65535.
-/

import JsonSchema.Domain.Name
import JsonSchema.Text.Bytes

namespace JsonSchema.Format.Url

inductive SchemeKind where
  /-- The web and its kin: a host is needed, and backslashes count as slashes. -/
  | web
  | file
  | other
  deriving DecidableEq

def schemeKind (scheme : List Char) : SchemeKind :=
  match String.ofList (scheme.map Char.toLower) with
  | "http" => .web
  | "https" => .web
  | "ws" => .web
  | "wss" => .web
  | "ftp" => .web
  | "file" => .file
  | _ => .other

/-! ## Addresses in brackets -/

def hexValue? (c : Char) : Option Nat :=
  if c.isDigit then some (c.toNat - '0'.toNat)
  else if 'a' ≤ c ∧ c ≤ 'f' then some (c.toNat - 'a'.toNat + 10)
  else if 'A' ≤ c ∧ c ≤ 'F' then some (c.toNat - 'A'.toNat + 10)
  else none

def isOctet (text : List Char) : Bool :=
  match text with
  | [] => false
  | ['0'] => true
  | '0' :: _ => false
  | _ => text.all Char.isDigit && text.length ≤ 3 && Unicode.decimal (String.ofList text) ≤ 255

def isQuad (text : List Char) : Bool :=
  let parts := Domain.labels text
  parts.length == 4 && parts.all isOctet

/-- The groups behind the first one: `count` groups were read, and `shortened` tells that two
    colons stood for some. The text is at the start of a group. -/
def groupsFit : Nat → Nat → Bool → List Char → Bool
  | 0, _, _, _ => false
  | _ + 1, count, shortened, [] => shortened || count == 8
  | fuel + 1, count, shortened, ':' :: rest =>
    count < 8 && !shortened && groupsFit fuel (count + 1) true rest
  | fuel + 1, count, shortened, text =>
    let digits := ((text.take 4).takeWhile fun c => (hexValue? c).isSome).length
    count < 8 &&
    match text.drop digits with
    | [] => groupsFit fuel (count + 1) shortened []
    | '.' :: _ => digits != 0 && count ≤ 6 && isQuad text && (shortened || count == 6)
    | ':' :: rest => !rest.isEmpty && groupsFit fuel (count + 1) shortened rest
    | _ => false

/-- Eight groups of hexadecimal digits, the last two perhaps as four decimal numbers, with two
    colons for groups that are left out. -/
def isBracketed (text : List Char) : Bool :=
  match text with
  | [] => false
  | [_] => false
  | ':' :: ':' :: rest => groupsFit (text.length + 1) 1 true rest
  | ':' :: _ => false
  | _ => groupsFit (text.length + 1) 0 false text

/-! ## Numbers as hosts -/

/-- Decimal digits, octal ones behind `0`, hexadecimal ones behind `0x`; the outer `none` is no
    number, the inner one a number that 32 bits do not hold. -/
def hostNumber? (text : List Char) : Option (Option Nat) :=
  let (base, digits) := match text with
    | '0' :: 'x' :: rest => (16, rest)
    | '0' :: 'X' :: rest => (16, rest)
    | '0' :: c :: rest => (8, c :: rest)
    | _ => (10, text)
  if text.isEmpty then none
  else
    match digits.mapM hexValue? with
    | none => none
    | some values =>
      if values.all (· < base) then
        let n := values.foldl (fun n v => n * base + v) 0
        some (if n < UInt32.size then some n else none)
      else none

def hostParts (name : List Char) : List (List Char) :=
  let parts := Domain.labels name
  if parts.getLast? = some [] then parts.dropLast else parts

def endsInNumber (name : List Char) : Bool :=
  match (hostParts name).getLast? with
  | none => false
  | some last => (!last.isEmpty && last.all Char.isDigit) || (hostNumber? last).isSome

/-- Up to four numbers; each is a byte, but the last fills the bytes that are left. -/
def isNumericHost (name : List Char) : Bool :=
  let parts := hostParts name
  parts.length ≤ 4 &&
  match parts.mapM fun part => (hostNumber? part).join with
  | none => false
  | some numbers =>
    numbers.dropLast.all (· ≤ 255) && numbers.getLast?.any (· < Nat.pow 256 (4 - (numbers.length - 1)))

/-! ## Hosts -/

def percentDecode : Bytes → Bytes
  | 0x25 :: a :: b :: rest =>
    match hexValue? (Char.ofNat a.toNat), hexValue? (Char.ofNat b.toNat) with
    | some high, some low => UInt8.ofNat (high * 16 + low) :: percentDecode rest
    | _, _ => 0x25 :: percentDecode (a :: b :: rest)
  | b :: rest => b :: percentDecode rest
  | [] => []

def isHost (text : List Char) : Bool :=
  match text with
  | '[' :: rest => rest.getLast? == some ']' && isBracketed rest.dropLast
  | _ =>
    match (Bytes.decode? (percentDecode (Bytes.ofText (String.ofList text)))).bind (Domain.ofText? ·.toList) with
    | none => false
    | some name => !name.isEmpty && (!endsInNumber name || isNumericHost name)

/-- A host of any other scheme, which may be any text without delimiters. -/
def isOpaqueHost (text : List Char) : Bool :=
  match text with
  | '[' :: rest => rest.getLast? == some ']' && isBracketed rest.dropLast
  | _ => !text.any fun c => c == '\x00' || " #/:<>?@[\\]^|".toList.contains c

/-! ## Authorities -/

def endsAuthority (kind : SchemeKind) (c : Char) : Bool :=
  c == '/' || c == '?' || c == '#' || (c == '\\' && kind != .other)

def splitHost (inBrackets : Bool) : List Char → List Char × List Char
  | [] => ([], [])
  | c :: rest =>
    if c = ':' ∧ !inBrackets then ([], c :: rest)
    else
      let (host, after) := splitHost (c = '[' || (inBrackets && c != ']')) rest
      (c :: host, after)

def isPort (text : List Char) : Bool :=
  let port := text.takeWhile fun c => !(c == '/' || c == '\\' || c == '?' || c == '#')
  port.all Char.isDigit && Unicode.decimal (String.ofList port) ≤ 65535

/-- What stands behind the last at sign, and whether a user or a password stands before it. -/
def splitUser (authority : List Char) : List Char × Bool :=
  if '@' ∈ authority then
    let host := (authority.reverse.takeWhile (· != '@')).reverse
    let user := authority.take (authority.length - host.length - 1)
    (host, !user.isEmpty && user != [':'])
  else (authority, false)

def isAuthority (kind : SchemeKind) (text : List Char) : Bool :=
  let authority := text.takeWhile fun c => !endsAuthority kind c
  let (rest, hasUser) := splitUser authority
  let (host, port) := splitHost false rest
  let emptyUser := authority == ['@'] && authority.length < text.length
  if emptyUser then false
  else if host.isEmpty then kind == .other && port.isEmpty && !hasUser
  else
    (if kind == .other then isOpaqueHost host else isHost host) &&
    (port.isEmpty || isPort (port.drop 1 ++ text.drop authority.length))

/-! ## References -/

def isSlash (c : Char) : Bool := c == '/' || c == '\\'

def splitScheme? (text : List Char) : Option (List Char × List Char) :=
  let scheme := text.takeWhile fun c => c.isAlphanum || c == '+' || c == '-' || c == '.'
  match text.drop scheme.length with
  | ':' :: rest => if scheme.head?.any Char.isAlpha then some (scheme, rest) else none
  | _ => none

def isDrive : List Char → Bool
  | [letter, mark] => letter.isAlpha && (mark == ':' || mark == '|')
  | _ => false

def isFileRest (text : List Char) : Bool :=
  match text with
  | a :: b :: rest =>
    if isSlash a && isSlash b then
      let host := rest.takeWhile fun c => !(isSlash c || c == '?' || c == '#')
      host.isEmpty || isDrive host || isHost host
    else true
  | _ => true

def isRest (kind : SchemeKind) (text : List Char) : Bool :=
  match kind with
  | .file => isFileRest text
  | .web => isAuthority .web (text.dropWhile isSlash)
  | .other =>
    match text with
    | '/' :: '/' :: rest => isAuthority .other rest
    | _ => true

/-- A reference without a scheme, on some page of the web. -/
def isRelative (text : List Char) : Bool :=
  match text with
  | '/' :: '/' :: rest => isAuthority .web rest
  | a :: b :: _ => if isSlash a && isSlash b then isAuthority .web (text.dropWhile isSlash) else true
  | _ => true

def clean (text : List Char) : List Char :=
  let isEdge (c : Char) : Bool := c.toNat ≤ 0x20
  let trimmed := ((text.dropWhile isEdge).reverse.dropWhile isEdge).reverse
  trimmed.filter fun c => !(c == '\t' || c == '\n' || c == '\r')

def isReference (text : String) : Bool :=
  let chars := clean text.toList
  match splitScheme? chars with
  | some (scheme, rest) => isRest (schemeKind scheme) rest
  | none => isRelative chars

end JsonSchema.Format.Url
