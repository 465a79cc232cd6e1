-- SUMMARY: JSON values, and the views that tell what a value holds.
import JavaImports.Text.Digits

/-! # JSON values

A number is kept as it is written and a string as code points, so that reading loses nothing but the
blanks between the parts of a value. -/

namespace JavaImports

/-- A JSON value. -/
inductive Json where
  | null
  | bool (value : Bool)
  /-- A number, as it is written. -/
  | number (written : List Char)
  /-- A string, as code points. Halves of surrogate pairs may stand alone in it. -/
  | string (codes : List Nat)
  | list (items : List Json)
  /-- Members in the order they are written, each with the code points of its key. -/
  | record (members : List (List Nat × Json))
deriving Repr

namespace Json

/-- The character with a given code point. -/
def charOfCode? (code : Nat) : Option Char :=
  if code.isValidChar then some (Char.ofNat code) else none

/-- The text with the given code points, unless half of a surrogate pair stands alone. -/
def textOfCodes? (codes : List Nat) : Option String :=
  (codes.mapM charOfCode?).map String.ofList

/-- The code points of a text. -/
def codesOf (text : String) : List Nat :=
  text.toList.map Char.toNat

/-- The value of a text. -/
def ofText (text : String) : Json :=
  .string (codesOf text)

/-- The value of a natural number. -/
def ofNat (n : Nat) : Json :=
  .number (Nat.toDigits 10 n)

/-- The value of a list of texts. -/
def ofTexts (texts : List String) : Json :=
  .list (texts.map ofText)

/-- The text that a value holds. -/
def text? : Json → Option String
  | .string codes => textOfCodes? codes
  | _ => none

/-- The natural number that a value holds, written without sign, fraction and exponent. -/
def natural? : Json → Option Nat
  | .number written => if written.all Char.isDigit then some (Text.decimalValue written) else none
  | _ => none

/-- The texts that a value lists. -/
def texts? : Json → Option (List String)
  | .list items => items.mapM text?
  | _ => none

end Json

end JavaImports
