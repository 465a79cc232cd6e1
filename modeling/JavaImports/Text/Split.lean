-- SUMMARY: Cutting text at the first or last place where a marker stands, and into parts.

/-! # Cutting text

A marker stands at a place when the text from there on begins with it. The empty marker stands
everywhere. -/

namespace JavaImports.Text

/-- What stands before and what stands after the first place of a marker. -/
def splitFirst? (marker : List Char) : List Char → Option (List Char × List Char)
  | [] => if marker.isEmpty then some ([], []) else none
  | c :: rest =>
    if marker.isPrefixOf (c :: rest) then some ([], (c :: rest).drop marker.length)
    else (splitFirst? marker rest).map fun (before, after) => (c :: before, after)

/-- What stands before the last place of a marker, and the text from that place on. -/
def cutLast? (marker : List Char) : List Char → Option (List Char × List Char)
  | [] => if marker.isEmpty then some ([], []) else none
  | c :: rest =>
    match cutLast? marker rest with
    | some (before, place) => some (c :: before, place)
    | none => if marker.isPrefixOf (c :: rest) then some ([], c :: rest) else none

/-- The parts between the places of a separating character, empty parts included. -/
def parts (separator : Char) : List Char → List (List Char)
  | [] => [[]]
  | c :: rest =>
    if c = separator then [] :: parts separator rest
    else match parts separator rest with
      | [] => [[c]]
      | part :: more => (c :: part) :: more

end JavaImports.Text
