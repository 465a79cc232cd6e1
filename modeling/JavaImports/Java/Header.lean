-- SUMMARY: The package and import declarations at the head of a file.
import JavaImports.Java.Lexeme

/-! # Headers

A package declaration is the word for it, a name and a semicolon. An import declaration may have the
word `static` in front of the name, and a dot and an asterisk after it. Gaps may stand between any
two lexemes. A name is taken as it is written, with the gaps inside it. -/

namespace JavaImports.Java

/-- A package or import declaration. -/
structure HeaderLine where
  isImport : Bool
  /-- The text in front of the name. -/
  before : List Char
  /-- The name as written. -/
  name : List Char
  /-- The text after the name, up to and with the semicolon. -/
  after : List Char

/-- The text of a declaration. -/
def HeaderLine.text (line : HeaderLine) : List Char :=
  line.before ++ line.name ++ line.after

/-- The text up to and with a sign that stands at the front after a gap, and the text after it. -/
def splitSign? (sign : Char) (text : List Char) : Option (List Char × List Char) :=
  match splitGap text with
  | (gap, c :: rest) => if c = sign then some (gap ++ [c], rest) else none
  | (_, []) => none

/-- The gap and the word at the front of a text, and the text after them. -/
def splitGapWord? (text : List Char) : Option (List Char × List Char × List Char) :=
  match splitGap text with
  | (gap, rest) => (splitWord? rest).map fun (word, rest) => (gap, word, rest)

/-- The further names after a name, each with the dot in front of it, and the text after them. There
    are at most as many as `bound` has characters. -/
def splitQualifiers : (bound : List Char) → List Char → List Char × List Char
  | [], text => ([], text)
  | _ :: bound, text =>
    match splitSign? '.' text with
    | none => ([], text)
    | some (dot, rest) =>
      match splitGapWord? rest with
      | none => ([], text)
      | some (gap, word, rest) =>
        let (more, rest) := splitQualifiers bound rest
        (dot ++ gap ++ word ++ more, rest)

/-- A name at the front of a text, and the text after it. -/
def splitName? (text : List Char) : Option (List Char × List Char) :=
  (splitWord? text).map fun (word, rest) =>
    let (more, rest) := splitQualifiers rest rest
    (word ++ more, rest)

/-- The gap after the first word of a declaration, and the text after it. For an import declaration
    the word `static` may come in between. -/
def splitLead (isImport : Bool) (text : List Char) : List Char × List Char :=
  match splitGapWord? text with
  | some (gap, word, rest) =>
    if isImport && word = "static".toList then
      match splitGap rest with
      | (gap', rest) => (gap ++ word ++ gap', rest)
    else splitGap text
  | none => splitGap text

/-- The end of a declaration: a semicolon, in front of which an import declaration may have a dot
    and an asterisk; and the text after it. -/
def splitEnd? (isImport : Bool) (text : List Char) : Option (List Char × List Char) :=
  match splitSign? '.' text with
  | none => splitSign? ';' text
  | some (dot, rest) =>
    if isImport then do
      let (asterisk, rest) ← splitSign? '*' rest
      let (semicolon, rest) ← splitSign? ';' rest
      return (dot ++ asterisk ++ semicolon, rest)
    else none

/-- The declaration at the front of a text, and the text after it. -/
def splitHeaderLine? (text : List Char) : Option (HeaderLine × List Char) := do
  let (word, rest) ← splitWord? text
  let isImport := word = "import".toList
  if !isImport && word != "package".toList then none
  else
    let (lead, rest) := splitLead isImport rest
    let (name, rest) ← splitName? rest
    let (after, rest) ← splitEnd? isImport rest
    return (⟨isImport, word ++ lead, name, after⟩, rest)

/-- Whether a text starts with the word of a package or import declaration. -/
def startsHeaderLine (text : List Char) : Bool :=
  match splitWord? text with
  | some (word, _) => word = "import".toList || word = "package".toList
  | none => false

end JavaImports.Java
