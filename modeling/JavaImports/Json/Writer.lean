-- SUMMARY: Writing a JSON value over several lines.
import JavaImports.Json.Value

/-! # Written JSON

Every item and every member stands on a line of its own, two blanks further in than the value it
belongs to. In a text only quotes, backslashes and control characters are escaped. -/

namespace JavaImports.Json

/-- The lower-case hexadecimal digit of a number below sixteen. -/
def hexDigit (n : Nat) : Char :=
  Nat.digitChar n

/-- The escape that gives a code unit by four hexadecimal digits. -/
def unitEscape (unit : Nat) : List Char :=
  ['\\', 'u', hexDigit (unit / 4096 % 16), hexDigit (unit / 256 % 16), hexDigit (unit / 16 % 16),
    hexDigit (unit % 16)]

/-- A code point as it stands inside quotes. -/
def writeCode (code : Nat) : List Char :=
  if code = 0x22 then ['\\', '"']
  else if code = 0x5C then ['\\', '\\']
  else if code = 0x08 then ['\\', 'b']
  else if code = 0x09 then ['\\', 't']
  else if code = 0x0A then ['\\', 'n']
  else if code = 0x0C then ['\\', 'f']
  else if code = 0x0D then ['\\', 'r']
  else if code < 0x20 then unitEscape code
  else match charOfCode? code with
    | some c => [c]
    | none => unitEscape code

/-- A text between quotes. -/
def writeText (codes : List Nat) : List Char :=
  '"' :: (codes.flatMap writeCode ++ ['"'])

/-- The beginning of a line at a given depth. -/
def newLine (depth : Nat) : List Char :=
  '\n' :: List.replicate (2 * depth) ' '

mutual

/-- A value, written at a given depth. -/
def write (depth : Nat) : Json → List Char
  | .null => "null".toList
  | .bool true => "true".toList
  | .bool false => "false".toList
  | .number written => written
  | .string codes => writeText codes
  | .list [] => ['[', ']']
  | .list (item :: more) =>
    '[' :: (newLine (depth + 1) ++ write (depth + 1) item ++ writeItems (depth + 1) more ++
      newLine depth ++ [']'])
  | .record [] => ['\x7b', '\x7d']
  | .record ((key, value) :: more) =>
    '\x7b' :: (newLine (depth + 1) ++ writeText key ++ [':', ' '] ++ write (depth + 1) value ++
      writeMembers (depth + 1) more ++ newLine depth ++ ['\x7d'])

/-- The items after the first, each with the comma before it. -/
def writeItems (depth : Nat) : List Json → List Char
  | [] => []
  | item :: more => ',' :: (newLine depth ++ write depth item ++ writeItems depth more)

/-- The members after the first, each with the comma before it. -/
def writeMembers (depth : Nat) : List (List Nat × Json) → List Char
  | [] => []
  | (key, value) :: more =>
    ',' :: (newLine depth ++ writeText key ++ [':', ' '] ++ write depth value ++
      writeMembers depth more)

end

/-- A value as text. -/
def render (value : Json) : String :=
  String.ofList (write 0 value)

end JavaImports.Json
