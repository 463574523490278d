/-
  JsonSchema.Text.Quoted — a text between double quotes that shows every character.

  The quote and the backslash are escaped, controls by their letters where they have one.
  Characters that are not printed as themselves, and those that extend the one before them,
  stand as their code point.
-/

import JsonSchema.Unicode.Property

namespace JsonSchema.Text

def hex (n : Nat) : String := String.ofList (Nat.toDigits 16 n)

def codeEscape (c : Char) : String := "\\u\x7b" ++ hex c.toNat ++ "\x7d"

def escapeChar (c : Char) : String :=
  if c = '\x00' then "\\0"
  else if c = '\t' then "\\t"
  else if c = '\r' then "\\r"
  else if c = '\n' then "\\n"
  else if c = '"' then "\\\""
  else if c = '\\' then "\\\\"
  else if Unicode.isGraphemeExtender c then codeEscape c
  else if Unicode.isPrintable c then c.toString
  else codeEscape c

def quoted (text : String) : String := "\"" ++ String.join (text.toList.map escapeChar) ++ "\""

end JsonSchema.Text
