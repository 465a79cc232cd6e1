-- SUMMARY: The lines of a text.

/-! # Lines

A line feed ends a line, and a carriage return right before that line feed belongs to the line's
end. What follows the last line feed is a line of its own unless it is empty, and a carriage return
at its end is part of it. -/

namespace JavaImports.Text

/-- The texts that a line feed ends, and the text after the last line feed. -/
def breakLines : List Char → List (List Char) × List Char
  | [] => ([], [])
  | c :: rest =>
    match breakLines rest with
    | (ended, last) =>
      if c = '\n' then ([] :: ended, last)
      else match ended with
        | [] => ([], c :: last)
        | line :: more => ((c :: line) :: more, last)

/-- A line without the carriage return at its end, if there is one. -/
def dropReturn (line : List Char) : List Char :=
  if line.getLast? = some '\r' then line.dropLast else line

/-- The lines of a text. -/
def lines (text : List Char) : List (List Char) :=
  match breakLines text with
  | (ended, last) => ended.map dropReturn ++ if last.isEmpty then [] else [last]

end JavaImports.Text
