-- SUMMARY: The lexemes of Java source text, and the gaps between them.
import JavaImports.Unicode.Property

/-! # Lexemes

A scan says how many characters at the front of a text make up a lexeme. Which lexemes are looked
for at a place depends on what the grammar can go on with there, so there is no list of tokens: the
chart asks for the terminals it expects. The character NUL belongs to no lexeme and to no gap. -/

namespace JavaImports.Java

/-- How many characters at the front of a text make up a lexeme, if one stands there. -/
abbrev Scan := List Char → Option Nat

namespace Scan

/-- One lexeme right after another. -/
def followedBy (first second : Scan) : Scan := fun text => do
  let n ← first text
  let m ← second (text.drop n)
  return n + m

/-- A lexeme that may be left out. -/
def optional (scan : Scan) : Scan := fun text =>
  some ((scan text).getD 0)

/-- The longest lexeme that one of the scans finds. -/
def longest : List Scan → Scan
  | [], _ => none
  | scan :: more, text =>
    match scan text, longest more text with
    | some n, some m => some (max n m)
    | some n, none => some n
    | none, other => other

/-- A fixed text. -/
def exactly (lexeme : String) : Scan := fun text =>
  if lexeme.toList.isPrefixOf text then some lexeme.length else none

/-- One of the characters of a text. -/
def oneOf (allowed : String) : Scan
  | c :: _ => if allowed.toList.contains c then some 1 else none
  | [] => none

end Scan

/-! ## Gaps -/

/-- White space between lexemes. -/
def isSpace (c : Char) : Bool :=
  c = ' ' || ('\t' ≤ c && c ≤ '\r')

/-- The number of characters up to and with the end of a comment, given the text after its start. -/
def commentLength? : List Char → Option Nat
  | [] => none
  | '*' :: '/' :: _ => some 2
  | c :: rest => if c = '\x00' then none else (commentLength? rest).map (· + 1)

/-- The number of characters to the end of the line. -/
def lineLength (text : List Char) : Nat :=
  (text.takeWhile fun c => c != '\n' && c != '\x00').length

/-- The number of characters at the front of a text that are white space and comments. `skip` of
    them are known to belong to a comment. -/
def gapLength (skip : Nat) : List Char → Nat
  | [] => 0
  | c :: rest =>
    match skip with
    | skip + 1 => 1 + gapLength skip rest
    | 0 =>
      if isSpace c then 1 + gapLength 0 rest
      else match c, rest with
        | '/', '/' :: line => 1 + gapLength (1 + lineLength line) rest
        | '/', '*' :: comment =>
          match commentLength? comment with
          | some n => 1 + gapLength (1 + n) rest
          | none => 0
        | _, _ => 0

/-- The white space and comments at the front of a text, and the text after them. -/
def splitGap (text : List Char) : List Char × List Char :=
  text.splitAt (gapLength 0 text)

/-! ## Words -/

/-- Whether a word may start with a character. -/
def startsWord (c : Char) : Bool :=
  if c.toNat < 0x80 then c.isAlpha || c = '_' || c = '$' else Unicode.identifierStart.contains c

/-- Whether a word may go on with a character. -/
def continuesWord (c : Char) : Bool :=
  if c.toNat < 0x80 then c.isAlphanum || c = '_' || c = '$'
  else c = '\u00a2' || Unicode.identifierContinue.contains c

/-- The word at the front of a text, and the text after it. -/
def splitWord? : List Char → Option (List Char × List Char)
  | c :: rest => if startsWord c then some ((c :: rest).span continuesWord) else none
  | [] => none

/-! ## Numbers -/

/-- The length of a run of digits that bars keep apart. `bars` bars stand between the last digit and
    here, and no digit was seen if `started` is false. More than one bar in a row is allowed if
    `manyBars` says so. -/
def digitsLength (digit : Char → Bool) (manyBars started : Bool) (bars : Nat) : List Char → Nat
  | [] => 0
  | c :: rest =>
    if digit c then 1 + bars + digitsLength digit manyBars true 0 rest
    else if c = '_' && started && (manyBars || bars = 0) then
      digitsLength digit manyBars true (bars + 1) rest
    else 0

/-- A run of digits. -/
def digits (digit : Char → Bool) (manyBars : Bool) : Scan := fun text =>
  match digitsLength digit manyBars false 0 text with
  | 0 => none
  | n => some n

/-- Whether a character is a hexadecimal digit. -/
def isHexDigit (c : Char) : Bool := (Text.hexValue? c).isSome

/-- Whether a character is an octal digit. -/
def isOctalDigit (c : Char) : Bool := '0' ≤ c && c ≤ '7'

/-- Whether a character is a binary digit. -/
def isBinaryDigit (c : Char) : Bool := c = '0' || c = '1'

/-- Decimal digits, with single bars between them. -/
def decimalDigits : Scan := digits Char.isDigit false

/-- Hexadecimal digits, with single bars between them. -/
def hexDigits : Scan := digits isHexDigit false

/-- A whole number without a superfluous zero in front. -/
def wholeNumber : Scan
  | '0' :: _ => some 1
  | c :: rest =>
    if c.isDigit then
      ((Scan.optional (Scan.oneOf "_")).followedBy (digits Char.isDigit true) rest).map (· + 1)
        |>.orElse fun _ => some 1
    else none
  | [] => none

/-- The mark that makes a whole number long. -/
def longMark : Scan := Scan.optional (Scan.oneOf "lL")

/-- The mark that gives the width of a floating-point number. -/
def floatMark : Scan := Scan.oneOf "fFdD"

/-- The exponent of a floating-point number, after a letter of `letters`. -/
def exponent (letters : String) : Scan :=
  (Scan.oneOf letters).followedBy ((Scan.optional (Scan.oneOf "+-")).followedBy decimalDigits)

/-- The letters that start a hexadecimal number. -/
def hexStart : Scan := (Scan.exactly "0").followedBy (Scan.oneOf "xX")

/-- A number of any form. -/
def numberLiteral : Scan :=
  let point := Scan.exactly "."
  let tail := (Scan.optional (exponent "eE")).followedBy (Scan.optional floatMark)
  Scan.longest
    [ wholeNumber.followedBy longMark,
      hexStart.followedBy (hexDigits.followedBy longMark),
      (Scan.exactly "0").followedBy ((Scan.optional (Scan.oneOf "oO")).followedBy
        ((digits isOctalDigit false).followedBy longMark)),
      (Scan.exactly "0").followedBy ((Scan.oneOf "bB").followedBy
        ((digits isBinaryDigit false).followedBy longMark)),
      decimalDigits.followedBy (point.followedBy ((Scan.optional decimalDigits).followedBy tail)),
      point.followedBy (decimalDigits.followedBy tail),
      wholeNumber.followedBy ((exponent "eE").followedBy (Scan.optional floatMark)),
      wholeNumber.followedBy ((Scan.optional (exponent "eE")).followedBy floatMark),
      hexStart.followedBy ((Scan.longest
        [ hexDigits.followedBy (Scan.optional point),
          (Scan.optional hexDigits).followedBy (point.followedBy hexDigits) ]).followedBy
        (Scan.optional ((exponent "eEpP").followedBy (Scan.optional floatMark)))) ]

/-! ## Characters and strings -/

/-- The rest of a character literal after its opening quote. `filled` tells whether there is
    anything between the quotes so far. -/
def characterTail (filled : Bool) : Scan
  | [] => none
  | '\'' :: _ => if filled then some 1 else none
  | '\\' :: c :: rest => if c = '\x00' then none else (characterTail true rest).map (· + 2)
  | c :: rest => if c = '\n' || c = '\x00' then none else (characterTail true rest).map (· + 1)

/-- A character literal. -/
def characterLiteral : Scan :=
  (Scan.exactly "'").followedBy (characterTail false)

/-- A character that stands for itself inside a string. -/
def isPlain (c : Char) : Bool :=
  c != '"' && c != '\\' && c != '\x00'

/-- A run of characters that stand for themselves. -/
def plainRun : Scan := fun text =>
  match (text.takeWhile isPlain).length with
  | 0 => none
  | n => some n

/-- Exactly `n` hexadecimal digits. -/
def hexRun (n : Nat) : Scan := fun text =>
  if (text.take n).length = n && (text.take n).all isHexDigit then some n else none

/-- Hexadecimal digits between braces. -/
def bracedHex : Scan
  | '\x7b' :: rest =>
    match (rest.takeWhile isHexDigit).length with
    | 0 => none
    | n => if rest.drop n |>.head? |>.any (· = '\x7d') then some (n + 2) else none
  | _ => none

/-- An escape in a string. A backslash before an opening brace is none: it starts an embedded
    expression. -/
def escape : Scan
  | '\\' :: c :: rest =>
    if c = 'x' then (hexRun 2 rest).map (· + 2)
    else if c = 'u' then (Scan.longest [hexRun 4, bracedHex] rest).map (· + 2)
    else if isOctalDigit c then some (2 + ((rest.take 2).takeWhile isOctalDigit).length)
    else if c = '\x7b' || c = '\x00' then none
    else some 2
  | _ => none

/-- A quote inside a text block that does not close it. -/
def loneQuote : Scan
  | '"' :: '"' :: '"' :: _ => none
  | '"' :: _ => some 1
  | _ => none

end JavaImports.Java
