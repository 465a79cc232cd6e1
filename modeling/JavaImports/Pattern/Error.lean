-- SUMMARY: What can be wrong with the written form of a pattern.

/-! # Errors in patterns -/

namespace JavaImports

/-- Why a text is not the written form of a pattern. -/
inductive PatternError where
  | unclosedGroup
  | unopenedGroup
  | unclosedClass
  | invalidClassRange
  | rangeEndNotCharacter
  | escapeNotInClass
  | endAfterBackslash
  | unknownEscape
  | backReference
  | lookAround
  | emptyHex
  | invalidHex
  | invalidHexDigit
  | unclosedHex
  | unknownProperty
  | invalidProperty
  | unclosedProperty
  | propertyNotAllowed
  | characterNotAllowed
  | mayMatchPartOfCharacter
  | unclosedWordEdge
  | unknownWordEdge
  | nothingToRepeat
  | unclosedRepetition
  | missingCount
  | invalidCount
  | invalidCountRange
  | unknownFlag
  | duplicateFlag
  | repeatedNegation
  | danglingNegation
  | unclosedFlags
  | emptyGroupName
  | invalidGroupName
  | unclosedGroupName
  | duplicateGroupName
deriving DecidableEq, Repr

/-- The text of an error. -/
def PatternError.message : PatternError → String
  | .unclosedGroup => "unclosed group"
  | .unopenedGroup => "unopened group"
  | .unclosedClass => "unclosed character class"
  | .invalidClassRange => "invalid character class range, the start must not be above the end"
  | .rangeEndNotCharacter => "invalid range boundary, must be a single character"
  | .escapeNotInClass => "invalid escape sequence found in character class"
  | .endAfterBackslash => "incomplete escape sequence, reached end of pattern prematurely"
  | .unknownEscape => "unrecognized escape sequence"
  | .backReference => "backreferences are not supported"
  | .lookAround => "look-around is not supported"
  | .emptyHex => "hexadecimal literal empty"
  | .invalidHex => "hexadecimal literal is not a character"
  | .invalidHexDigit => "invalid hexadecimal digit"
  | .unclosedHex => "incomplete hexadecimal literal"
  | .unknownProperty => "character property not found"
  | .invalidProperty => "invalid character property name"
  | .unclosedProperty => "incomplete character property name"
  | .propertyNotAllowed => "character properties are not allowed when only ASCII is matched"
  | .characterNotAllowed => "only ASCII characters are allowed when only ASCII is matched"
  | .mayMatchPartOfCharacter => "pattern can match part of a character"
  | .unclosedWordEdge => "word boundary assertion is unclosed"
  | .unknownWordEdge => "word boundary assertion not recognized"
  | .nothingToRepeat => "repetition operator missing expression"
  | .unclosedRepetition => "unclosed counted repetition"
  | .missingCount => "repetition quantifier expects a decimal number"
  | .invalidCount => "decimal number is too large"
  | .invalidCountRange => "invalid repetition range, the start must not be above the end"
  | .unknownFlag => "unrecognized flag"
  | .duplicateFlag => "duplicate flag"
  | .repeatedNegation => "flag negation operator repeated"
  | .danglingNegation => "dangling flag negation operator"
  | .unclosedFlags => "expected flag but got end of pattern"
  | .emptyGroupName => "empty capture group name"
  | .invalidGroupName => "invalid capture group character"
  | .unclosedGroupName => "unclosed capture group name"
  | .duplicateGroupName => "duplicate capture group name"

end JavaImports
