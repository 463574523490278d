/-
  JsonSchema.Pattern.Error — why a text is no pattern.
-/

namespace JsonSchema

inductive PatternError where
  | groupUnclosed
  | groupUnopened
  | groupName
  | groupNameRepeated
  | lookAround
  | backreference
  | flagsUnclosed
  | flagUnknown
  | flagRepeated
  | flagDangling
  | repetitionMissing
  | repetitionUnclosed
  | repetitionCount
  | escapeUnfinished
  | escapeUnknown
  | escapeValue
  | classUnclosed
  | classItem
  | classRange
  | propertyUnknown
  | wordBoundary
  | needsUnicode
  | tooDeep
  | tooLarge
  deriving DecidableEq

namespace PatternError

def message : PatternError → String
  | groupUnclosed => "unclosed group"
  | groupUnopened => "unopened group"
  | groupName => "invalid capture group name"
  | groupNameRepeated => "duplicate capture group name"
  | lookAround => "look-around is not supported"
  | backreference => "backreferences are not supported"
  | flagsUnclosed => "flags are not closed"
  | flagUnknown => "unrecognized flag"
  | flagRepeated => "duplicate flag"
  | flagDangling => "dangling flag negation"
  | repetitionMissing => "repetition operator missing expression"
  | repetitionUnclosed => "unclosed counted repetition"
  | repetitionCount => "invalid repetition count"
  | escapeUnfinished => "incomplete escape sequence"
  | escapeUnknown => "unrecognized escape sequence"
  | escapeValue => "escape sequence is no character"
  | classUnclosed => "unclosed character class"
  | classItem => "invalid item in a character class"
  | classRange => "invalid character class range"
  | propertyUnknown => "Unicode property not found"
  | wordBoundary => "unrecognized word boundary"
  | needsUnicode => "needs Unicode mode"
  | tooDeep => "nesting is too deep"
  | tooLarge => "compiled pattern is too large"

end PatternError

end JsonSchema
