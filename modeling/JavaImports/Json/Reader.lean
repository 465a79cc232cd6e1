-- SUMMARY: Reading a JSON value from text.
import JavaImports.Json.Value

/-! # Reading JSON

Each function reads one part off the front of a text and gives what it holds together with the text
after it; a text that holds no value has no result. -/

namespace JavaImports.Json

/-- Whether a character may stand between the parts of a value. -/
def isGap (c : Char) : Bool :=
  c = ' ' || c = '\n' || c = '\t' || c = '\r'

/-- The text after the gap at its front. -/
def skipGap (text : List Char) : List Char :=
  text.dropWhile isGap

/-! ## Texts -/

/-- The number that four hexadecimal digits spell. -/
def unitValue? (a b c d : Char) : Option Nat := do
  return 4096 * (← Text.hexValue? a) + 256 * (← Text.hexValue? b) +
    16 * (← Text.hexValue? c) + (← Text.hexValue? d)

/-- The code point that a letter after a backslash stands for. -/
def shortEscape? : Char → Option Nat
  | '"' => some 0x22
  | '\\' => some 0x5C
  | '/' => some 0x2F
  | 'b' => some 0x08
  | 'f' => some 0x0C
  | 'n' => some 0x0A
  | 'r' => some 0x0D
  | 't' => some 0x09
  | _ => none

/-- Reads code units and code points up to the closing quote. -/
def readCodes : List Char → Option (List Nat × List Char)
  | [] => none
  | '"' :: rest => some ([], rest)
  | '\\' :: 'u' :: a :: b :: c :: d :: rest => do
    let unit ← unitValue? a b c d
    let (more, rest) ← readCodes rest
    return (unit :: more, rest)
  | '\\' :: letter :: rest => do
    let code ← shortEscape? letter
    let (more, rest) ← readCodes rest
    return (code :: more, rest)
  | c :: rest =>
    if c = '\\' || c.toNat < 0x20 then none
    else do
      let (more, rest) ← readCodes rest
      return (c.toNat :: more, rest)

/-- Whether a code unit is the first half of a surrogate pair. -/
def isFirstHalf (unit : Nat) : Bool :=
  0xD800 ≤ unit && unit ≤ 0xDBFF

/-- Whether a code unit is the second half of a surrogate pair. -/
def isSecondHalf (unit : Nat) : Bool :=
  0xDC00 ≤ unit && unit ≤ 0xDFFF

/-- Puts the code point of a surrogate pair in place of its halves. -/
def joinPairs : List Nat → List Nat
  | [] => []
  | [unit] => [unit]
  | first :: second :: rest =>
    if isFirstHalf first && isSecondHalf second then
      (0x10000 + 0x400 * (first - 0xD800) + (second - 0xDC00)) :: joinPairs rest
    else first :: joinPairs (second :: rest)

/-- Reads a text after its opening quote. -/
def readText (text : List Char) : Option (List Nat × List Char) :=
  (readCodes text).map fun (codes, rest) => (joinPairs codes, rest)

/-! ## Numbers -/

/-- The digits at the front of a text, of which there must be one, and the text after them. -/
def splitDigits? (text : List Char) : Option (List Char × List Char) :=
  let digits := text.takeWhile Char.isDigit
  if digits.isEmpty then none else some (digits, text.dropWhile Char.isDigit)

/-- The whole part of a number: a zero alone, or digits of which the first is not zero. -/
def splitWhole? : List Char → Option (List Char × List Char)
  | '0' :: rest => some (['0'], rest)
  | text => splitDigits? text

/-- The fraction at the front of a text, if there is one. -/
def splitFraction? : List Char → Option (List Char × List Char)
  | '.' :: rest => (splitDigits? rest).map fun (digits, rest) => ('.' :: digits, rest)
  | text => some ([], text)

/-- The sign at the front of an exponent, if there is one. -/
def splitSign : List Char → List Char × List Char
  | '+' :: rest => (['+'], rest)
  | '-' :: rest => (['-'], rest)
  | text => ([], text)

/-- The exponent at the front of a text, if there is one. -/
def splitExponent? : List Char → Option (List Char × List Char)
  | [] => some ([], [])
  | c :: rest =>
    if c = 'e' || c = 'E' then
      let (sign, rest) := splitSign rest
      (splitDigits? rest).map fun (digits, rest) => (c :: (sign ++ digits), rest)
    else some ([], c :: rest)

/-- Reads a number without a sign. -/
def splitUnsigned? (text : List Char) : Option (List Char × List Char) := do
  let (whole, rest) ← splitWhole? text
  let (fraction, rest) ← splitFraction? rest
  let (exponent, rest) ← splitExponent? rest
  return (whole ++ fraction ++ exponent, rest)

/-- Reads a number. -/
def splitNumber? : List Char → Option (List Char × List Char)
  | '-' :: rest => (splitUnsigned? rest).map fun (written, rest) => ('-' :: written, rest)
  | text => splitUnsigned? text

/-! ## Values -/

/-- The text after a word at its front. -/
def dropWord? (word : String) (text : List Char) : Option (List Char) :=
  if word.toList.isPrefixOf text then some (text.drop word.length) else none

/-- Reads a value that is a word or a number. -/
def readAtom (text : List Char) : Option (Json × List Char) :=
  match dropWord? "null" text, dropWord? "true" text, dropWord? "false" text with
  | some rest, _, _ => some (.null, rest)
  | none, some rest, _ => some (.bool true, rest)
  | none, none, some rest => some (.bool false, rest)
  | none, none, none => (splitNumber? text).map fun (written, rest) => (.number written, rest)

/-- Reads the key of a member and the colon after it. -/
def readKey (text : List Char) : Option (List Nat × List Char) :=
  match skipGap text with
  | '"' :: rest => do
    let (key, rest) ← readText rest
    match skipGap rest with
    | ':' :: rest => return (key, rest)
    | _ => none
  | _ => none

mutual

/-- Reads a value with the gap before it. Every value takes at least one character. -/
def readValue : (fuel : Nat) → List Char → Option (Json × List Char)
  | 0, _ => none
  | fuel + 1, text =>
    match skipGap text with
    | '"' :: rest => (readText rest).map fun (codes, rest) => (.string codes, rest)
    | '[' :: rest =>
      match skipGap rest with
      | ']' :: rest => some (.list [], rest)
      | rest => (readItems fuel rest).map fun (items, rest) => (.list items, rest)
    | '\x7b' :: rest =>
      match skipGap rest with
      | '\x7d' :: rest => some (.record [], rest)
      | rest => (readMembers fuel rest).map fun (members, rest) => (.record members, rest)
    | rest => readAtom rest

/-- Reads the items of a list up to its closing bracket. -/
def readItems : (fuel : Nat) → List Char → Option (List Json × List Char)
  | 0, _ => none
  | fuel + 1, text => do
    let (item, rest) ← readValue fuel text
    match skipGap rest with
    | ']' :: rest => return ([item], rest)
    | ',' :: rest =>
      let (more, rest) ← readItems fuel rest
      return (item :: more, rest)
    | _ => none

/-- Reads the members of a record up to its closing brace. -/
def readMembers : (fuel : Nat) → List Char → Option (List (List Nat × Json) × List Char)
  | 0, _ => none
  | fuel + 1, text => do
    let (key, rest) ← readKey text
    let (value, rest) ← readValue fuel rest
    match skipGap rest with
    | '\x7d' :: rest => return ([(key, value)], rest)
    | ',' :: rest =>
      let (more, rest) ← readMembers fuel rest
      return ((key, value) :: more, rest)
    | _ => none

end

/-- The value that a text is the written form of. -/
def ofString? (text : String) : Option Json :=
  match readValue (2 * text.length + 2) text.toList with
  | some (value, rest) => if (skipGap rest).isEmpty then some value else none
  | none => none

end JavaImports.Json
