-- SUMMARY: Globs: reading them from text and matching paths against them.

/-! # Globs

A glob describes paths. A question mark stands for any character and a star for any text, slashes
included; two stars, which have to be a whole step of the path, stand for any number of steps.
Brackets hold the characters that may stand in a place, or after an exclamation mark those that may
not. -/

namespace JavaImports

/-- The characters from `first` to `last`, both included. -/
structure CharSpan where
  first : Char
  last : Char
deriving DecidableEq, Repr

/-- Whether some span holds a character. -/
def inSpans (spans : List CharSpan) (c : Char) : Bool :=
  spans.any fun span => span.first ≤ c && c ≤ span.last

/-- A part of a glob. -/
inductive GlobPart where
  | char (c : Char)
  | anyChar
  | anyText
  | anySteps
  | within (spans : List CharSpan)
  | outside (spans : List CharSpan)
deriving DecidableEq, Repr

/-- A glob, as the list of its parts. -/
abbrev Glob := List GlobPart

namespace Glob

/-! ## Reading -/

/-- The spans that the text between brackets describes. -/
def spans : List Char → List CharSpan
  | first :: '-' :: last :: rest => ⟨first, last⟩ :: spans rest
  | c :: rest => ⟨c, c⟩ :: spans rest
  | [] => []

/-- The text before the first closing bracket, and the text after it. -/
def untilBracket? : List Char → Option (List Char × List Char)
  | [] => none
  | ']' :: rest => some ([], rest)
  | c :: rest => (untilBracket? rest).map fun (inner, rest) => (c :: inner, rest)

/-- Reads a class of characters after its opening bracket. A closing bracket that comes first is one
    of the characters. -/
def readClass? : List Char → Option (GlobPart × List Char)
  | '!' :: c :: rest =>
    (untilBracket? rest).map fun (inner, rest) => (.outside (spans (c :: inner)), rest)
  | ['!'] => none
  | c :: rest =>
    (untilBracket? rest).map fun (inner, rest) => (.within (spans (c :: inner)), rest)
  | [] => none

/-- Reads a glob. `newStep` tells whether a step of the path starts here; each part takes at least
    one character. -/
def read? : (fuel : Nat) → (newStep : Bool) → List Char → Option Glob
  | 0, _, _ => none
  | _ + 1, _, [] => some []
  | fuel + 1, newStep, c :: rest =>
    match c with
    | '?' => (read? fuel false rest).map (.anyChar :: ·)
    | '[' =>
      match readClass? rest with
      | none => none
      | some (part, rest) => (read? fuel false rest).map (part :: ·)
    | '*' =>
      match rest with
      | '*' :: '*' :: _ => none
      | '*' :: rest =>
        if newStep then
          match rest with
          | [] => some [.anySteps]
          | '/' :: rest => (read? fuel true rest).map (.anySteps :: ·)
          | _ => none
        else none
      | rest => (read? fuel false rest).map (.anyText :: ·)
    | c => (read? fuel (c = '/') rest).map (.char c :: ·)

/-- The glob that a text is the written form of. -/
def ofString? (text : String) : Option Glob :=
  read? (text.length + 1) true text.toList

/-! ## Matching -/

/-- Whether a test holds of a text or of what is left of it after some characters. -/
def someRest (test : List Char → Bool) : List Char → Bool
  | [] => test []
  | c :: rest => test (c :: rest) || someRest test rest

/-- Whether a test holds after some of the slashes of a text or at its end. -/
def someStep (test : List Char → Bool) : List Char → Bool
  | [] => test []
  | c :: rest => (c = '/' && test rest) || someStep test rest

/-- Whether the parts of a glob describe a text. -/
def isMatch : Glob → List Char → Bool
  | [], text => text.isEmpty
  | .anyText :: parts, text => someRest (isMatch parts) text
  | .anySteps :: parts, text => isMatch parts text || someStep (isMatch parts) text
  | _ :: _, [] => false
  | .char wanted :: parts, c :: rest => c = wanted && isMatch parts rest
  | .anyChar :: parts, _ :: rest => isMatch parts rest
  | .within spans :: parts, c :: rest => inSpans spans c && isMatch parts rest
  | .outside spans :: parts, c :: rest => !inSpans spans c && isMatch parts rest

/-- Whether a text is a glob that describes a path. -/
def describes (text path : String) : Bool :=
  match ofString? text with
  | some glob => isMatch glob path.toList
  | none => false

end Glob

end JavaImports
