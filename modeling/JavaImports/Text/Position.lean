-- SUMMARY: Places in a text, as line and column.

/-! # Positions

Lines are separated by line feeds, and the column is the number of bytes before the place in its
line. Both count from zero. -/

namespace JavaImports

/-- A place in a text. -/
structure Position where
  line : Nat
  column : Nat
deriving DecidableEq, Repr

/-- The place at the front of a text. -/
def Position.front : Position :=
  ⟨0, 0⟩

/-- The place after a character. -/
def Position.after (position : Position) (c : Char) : Position :=
  if c = '\n' then ⟨position.line + 1, 0⟩ else ⟨position.line, position.column + c.utf8Size⟩

/-- The place after a text. -/
def Position.afterAll (position : Position) (text : List Char) : Position :=
  text.foldl Position.after position

end JavaImports
