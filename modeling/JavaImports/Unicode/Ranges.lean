-- SUMMARY: Sets of characters given as ranges of scalar values, and the text they are written in.
import JavaImports.Text.Digits

/-! # Ranges of characters

A set of characters is a list of ranges of scalar values. Long tables are written as text, with the
bounds in hexadecimal and the ranges apart by blanks: `41-5A 5F` holds the capital letters of ASCII
and the underscore. -/

namespace JavaImports.Unicode

/-- The characters from `first` to `last`, both included. -/
structure Range where
  first : Nat
  last : Nat
deriving DecidableEq, Repr

/-- A set of characters: the union of its ranges. -/
abbrev Ranges := List Range

/-- Whether a range holds a character. -/
def Range.contains (range : Range) (c : Char) : Bool :=
  range.first ≤ c.toNat && c.toNat ≤ range.last

/-- Whether some range of the set holds a character. -/
def Ranges.contains (ranges : Ranges) (c : Char) : Bool :=
  ranges.any fun range => range.contains c

/-- Adds a range to those that follow, if a number was read. -/
def Ranges.addRead (first value : Option Nat) (more : Ranges) : Ranges :=
  match value with
  | some last => ⟨first.getD last, last⟩ :: more
  | none => more

/-- Reads ranges off their text. `first` is the lower bound already read, if the text is past the
    dash of a range, and `value` is the number being read. -/
def Ranges.scan (first value : Option Nat) : List Char → Ranges
  | [] => addRead first value []
  | c :: rest =>
    if c = '-' then scan value none rest
    else match Text.hexValue? c with
      | some digit => scan first (some (16 * value.getD 0 + digit)) rest
      | none => addRead first value (scan none none rest)

/-- The set that a text such as `41-5A 5F` denotes. -/
def Ranges.ofText (text : String) : Ranges :=
  scan none none text.toList

/-- A set of characters, as text for `Ranges.ofText`, with the names it goes by. -/
structure NamedRanges where
  names : List String
  text : String

end JavaImports.Unicode
