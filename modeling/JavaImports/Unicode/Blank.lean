-- SUMMARY: Blank characters, and the removal of blanks from text.
import JavaImports.Unicode.Ranges

/-! # Blanks

A character is blank when it has the white space property. Text is blank when every character of it
is; the empty text is blank. -/

namespace JavaImports.Unicode

/-- The blank characters. -/
def blanks : Ranges :=
  [⟨0x9, 0xD⟩, ⟨0x20, 0x20⟩, ⟨0x85, 0x85⟩, ⟨0xA0, 0xA0⟩, ⟨0x1680, 0x1680⟩, ⟨0x2000, 0x200A⟩,
    ⟨0x2028, 0x2029⟩, ⟨0x202F, 0x202F⟩, ⟨0x205F, 0x205F⟩, ⟨0x3000, 0x3000⟩]

/-- Whether a character is blank. -/
def isBlank (c : Char) : Bool :=
  blanks.contains c

/-- Whether a text holds no character but blanks. -/
def isBlankText (text : String) : Bool :=
  text.toList.all isBlank

/-- A text without its blanks. -/
def withoutBlanks (text : List Char) : List Char :=
  text.filter fun c => !isBlank c

end JavaImports.Unicode
