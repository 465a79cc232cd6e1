-- SUMMARY: Text between quotes, with every character that does not print written as an escape.
import JavaImports.Unicode.GeneralCategory
import JavaImports.Unicode.Property

/-! # Quoted text

A quoted text stands between double quotes. Quotes, backslashes and the common control characters
are escaped with a backslash; any other character that does not print is written by its number in
hexadecimal. -/

namespace JavaImports.Text

open Unicode

/-- The categories whose characters do not print. -/
def hiddenCategories : List GeneralCategory :=
  [.control, .format, .privateUse, .lineSeparator, .paragraphSeparator, .spaceSeparator]

/-- The characters that do not print: those of the hidden categories, but for the space. -/
def hiddenCharacters : Ranges :=
  hiddenCategories.flatMap fun category => category.ranges

/-- The characters of some category. -/
def assignedCharacters : Ranges :=
  GeneralCategory.all.flatMap fun category => category.ranges

/-- Whether a character shows itself. A character that only extends the one before it does not. -/
def isShown (c : Char) : Bool :=
  if c.toNat < 0x7F then ' ' ≤ c
  else !hiddenCharacters.contains c && !graphemeExtend.contains c && assignedCharacters.contains c

/-- The lower-case hexadecimal digits of a number. -/
def hexDigits (n : Nat) : List Char :=
  Nat.toDigits 16 n

/-- A character as it stands inside quotes. -/
def quoteChar : Char → List Char
  | '\x00' => ['\\', '0']
  | '\t' => ['\\', 't']
  | '\n' => ['\\', 'n']
  | '\r' => ['\\', 'r']
  | '"' => ['\\', '"']
  | '\\' => ['\\', '\\']
  | c => if isShown c then [c] else ['\\', 'u', '\x7b'] ++ hexDigits c.toNat ++ ['\x7d']

/-- A text between quotes. -/
def quoted (text : String) : String :=
  String.ofList ('"' :: (text.toList.flatMap quoteChar ++ ['"']))

end JavaImports.Text
