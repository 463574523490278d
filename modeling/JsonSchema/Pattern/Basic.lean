/-
  JsonSchema.Pattern — patterns: a text and the expression it stands for.
-/

import JsonSchema.Pattern.Matcher
import JsonSchema.Pattern.Parser
import JsonSchema.Pattern.Size

namespace JsonSchema

structure Pattern where
  source : String
  regex : Pattern.Regex

namespace Pattern

/-- Reads a pattern; refuses what is no expression and what is too large. -/
def compile (source : String) : Except PatternError Pattern := do
  let regex ← Regex.ofText source
  if regex.tooLarge then throw .tooLarge
  return ⟨source, regex⟩

def matchesIn (p : Pattern) (text : String) : Bool := p.regex.matchesIn text

end Pattern

end JsonSchema
