-- SUMMARY: The parts of a written pattern: gaps, numbers, escapes and flags.
import JavaImports.Pattern.Basic
import JavaImports.Pattern.Error
import JavaImports.Text.Split
import JavaImports.Unicode.Blank

/-! # The parts of written patterns

Each function here reads one part off the front of a text and gives what it means together with the
text after it. Where blanks do not count, neither do comments, which run from a number sign to the
end of the line. -/

namespace JavaImports.Written

/-- How the text that follows is to be read. -/
structure Flags where
  ignoreCase : Bool := false
  multiLine : Bool := false
  dotMatchesAll : Bool := false
  anyLineEnd : Bool := false
  swapGreed : Bool := false
  /-- Blanks and comments do not count. -/
  spaced : Bool := false
  /-- Characters are those of all scripts, and not those of ASCII alone. -/
  wide : Bool := true
deriving Repr

/-- What was read, or what is wrong with the text. -/
abbrev Outcome := Except PatternError

/-- The text after the gap at its front. `comment` tells whether a comment has begun. -/
def dropGap (comment : Bool) : List Char → List Char
  | [] => []
  | c :: rest =>
    if comment then dropGap (c != '\n') rest
    else if Unicode.isBlank c then dropGap false rest
    else if c = '#' then dropGap true rest
    else c :: rest

/-- The text after the gap at its front, if blanks do not count. -/
def skip (spaced : Bool) (text : List Char) : List Char :=
  if spaced then dropGap false text else text

/-! ## Numbers -/

/-- Reads decimal digits, with gaps between them if blanks do not count. -/
def digits (spaced : Bool) : (fuel : Nat) → List Char → List Char × List Char
  | 0, text => ([], text)
  | fuel + 1, text =>
    match text with
    | c :: rest =>
      if c.isDigit then
        let (more, rest) := digits spaced fuel (skip spaced rest)
        (c :: more, rest)
      else ([], text)
    | [] => ([], [])

/-- The greatest number of a repetition. -/
def countLimit : Nat := 4294967295

/-- Reads a decimal number with blanks around it; none if there is no digit. -/
def number? (spaced : Bool) (text : List Char) : Outcome ((Option Nat) × List Char) :=
  let (ds, rest) := digits spaced text.length (text.dropWhile Unicode.isBlank)
  let rest := skip spaced (rest.dropWhile Unicode.isBlank)
  if ds.isEmpty then .ok (none, rest)
  else if countLimit < Text.decimalValue ds then .error .invalidCount
  else .ok (some (Text.decimalValue ds), rest)

/-- Reads a number that has to be there. -/
def count (found : Option Nat) : Outcome Nat :=
  match found with
  | some n => .ok n
  | none => .error .missingCount

/-- Reads the numbers of a counted repetition: one alone, one with a comma, or two. -/
def countRange (spaced : Bool) (text : List Char) :
    Outcome ((Nat × Option Nat) × List Char) := do
  let (first, rest) ← number? spaced text
  match rest with
  | [] => .error .unclosedRepetition
  | ',' :: rest =>
    match skip spaced rest with
    | [] => .error .unclosedRepetition
    | '\x7d' :: rest => return ((← count first, none), '\x7d' :: rest)
    | rest =>
      let least ← count first
      let (second, rest) ← number? spaced rest
      return ((least, some (← count second)), rest)
  | rest =>
    let n ← count first
    return ((n, some n), rest)

/-- Whether a repetition may have these bounds. -/
def areBounds : Nat × Option Nat → Bool
  | (least, some most) => least ≤ most
  | (_, none) => true

/-- Reads the bounds of a counted repetition after its opening brace. -/
def bounds (spaced : Bool) (text : List Char) : Outcome ((Nat × Option Nat) × List Char) := do
  let text := skip spaced text
  if text.isEmpty then .error .unclosedRepetition
  else
    let (range, rest) ← countRange spaced text
    match rest with
    | '\x7d' :: rest => if areBounds range then return (range, rest) else .error .invalidCountRange
    | _ => .error .unclosedRepetition

/-! ## Escapes -/

/-- What an escape stands for. -/
inductive Escape where
  /-- A character; `byte` tells whether it is given as a byte by exactly two digits. -/
  | char (c : Char) (byte : Bool)
  | digit (outside : Bool)
  | space (outside : Bool)
  | word (outside : Bool)
  | property (set : Unicode.NamedSet) (outside : Bool)
  | textStart
  | textEnd
  | wordEdge
  | noWordEdge
  | wordStart
  | wordEnd
  | noWordBefore
  | noWordAfter

/-- The character with a given number. -/
def charOfCode (code : Nat) : Outcome Char :=
  if code.isValidChar then .ok (Char.ofNat code) else .error .invalidHex

/-- Reads exactly `n` hexadecimal digits, with gaps between them if blanks do not count. -/
def fixedHex (spaced : Bool) : (n : Nat) → (value : Nat) → List Char → Outcome (Nat × List Char)
  | 0, value, text => .ok (value, text)
  | _ + 1, _, [] => .error .unclosedHex
  | n + 1, value, c :: rest =>
    match Text.hexValue? c with
    | some d => fixedHex spaced n (16 * value + d) (skip spaced rest)
    | none => .error .invalidHexDigit

/-- Reads hexadecimal digits up to a closing brace. `read` digits have been read. -/
def bracedHex (spaced : Bool) : (fuel read value : Nat) → List Char → Outcome (Nat × List Char)
  | 0, _, _, _ => .error .unclosedHex
  | fuel + 1, read, value, text =>
    match skip spaced text with
    | [] => .error .unclosedHex
    | '\x7d' :: rest => if read = 0 then .error .emptyHex else .ok (value, skip spaced rest)
    | c :: rest =>
      match Text.hexValue? c with
      | some d => bracedHex spaced fuel (read + 1) (16 * value + d) rest
      | none => .error .invalidHexDigit

/-- Reads a character given by its number. `width` digits are due if there are no braces. -/
def hexEscape (spaced : Bool) (width : Nat) (text : List Char) : Outcome (Escape × List Char) := do
  match skip spaced text with
  | [] => .error .endAfterBackslash
  | '\x7b' :: rest =>
    let (code, rest) ← bracedHex spaced (rest.length + 1) 0 0 rest
    return (.char (← charOfCode code) false, rest)
  | text =>
    let (code, rest) ← fixedHex spaced width 0 text
    return (.char (← charOfCode code) (width = 2), rest)

/-- The text up to a closing brace, gaps left out if blanks do not count, and the text after it. -/
def untilBrace (spaced : Bool) : (fuel : Nat) → List Char → Outcome (List Char × List Char)
  | 0, _ => .error .unclosedProperty
  | fuel + 1, text =>
    match skip spaced text with
    | [] => .error .unclosedProperty
    | '\x7d' :: rest => .ok ([], rest)
    | c :: rest => do
      let (more, rest) ← untilBrace spaced fuel rest
      return (c :: more, rest)

/-- The set that the name between braces stands for, and whether its outside is meant. -/
def namedSet (name : List Char) : Outcome (Unicode.NamedSet × Bool) :=
  let valued (cut : List Char × List Char) (outside : Bool) :=
    match Unicode.setWithValue? (String.ofList cut.1) (String.ofList cut.2) with
    | some set => .ok (set, outside)
    | none => .error .unknownProperty
  match Text.splitFirst? "!=".toList name with
  | some cut => valued cut true
  | none =>
    match Text.splitFirst? [':'] name with
    | some cut => valued cut false
    | none =>
      match Text.splitFirst? ['='] name with
      | some cut => valued cut false
      | none =>
        match Unicode.setNamed? (String.ofList name) with
        | some set => .ok (set, false)
        | none => .error .unknownProperty

/-- Reads the name of a set of characters. -/
def propertyEscape (spaced outside : Bool) (text : List Char) : Outcome (Escape × List Char) := do
  match skip spaced text with
  | [] => .error .endAfterBackslash
  | '\x7b' :: rest =>
    let (name, rest) ← untilBrace spaced (rest.length + 1) rest
    let (set, other) ← namedSet name
    return (.property set (outside != other), rest)
  | '\\' :: _ => .error .invalidProperty
  | c :: rest =>
    match Unicode.setNamed? (String.ofList [c]) with
    | some set => return (.property set outside, skip spaced rest)
    | none => .error .unknownProperty

/-- Reads the letters and dashes of the name of a word edge. -/
def edgeName (spaced : Bool) : (fuel : Nat) → List Char → List Char × List Char
  | 0, text => ([], text)
  | fuel + 1, text =>
    match text with
    | c :: rest =>
      if c.isAlpha || c = '-' then
        let (more, rest) := edgeName spaced fuel (skip spaced rest)
        (c :: more, rest)
      else ([], text)
    | [] => ([], [])

/-- The word edge with a given name. -/
def edgeNamed (name : String) : Outcome Escape :=
  if name = "start" then .ok .wordStart
  else if name = "end" then .ok .wordEnd
  else if name = "start-half" then .ok .noWordBefore
  else if name = "end-half" then .ok .noWordAfter
  else .error .unknownWordEdge

/-- Reads what follows the sign of a word edge: a name between braces, or nothing that belongs to
    it. Braces around something else are left for a repetition. -/
def wordEdge (spaced : Bool) (text : List Char) : Outcome (Escape × List Char) := do
  match text with
  | '\x7b' :: rest =>
    match skip spaced rest with
    | [] => .error .unclosedWordEdge
    | c :: inner =>
      if c.isAlpha || c = '-' then
        let (name, rest) := edgeName spaced (inner.length + 1) (c :: inner)
        match rest with
        | '\x7d' :: rest => return (← edgeNamed (String.ofList name), rest)
        | _ => .error .unclosedWordEdge
      else return (.wordEdge, text)
  | _ => return (.wordEdge, text)

/-- Whether a backslash makes a character stand for itself. -/
def isEscapable (c : Char) : Bool :=
  c.toNat < 0x80 && !c.isAlphanum && c != '<' && c != '>'

/-- Reads an escape after its backslash. -/
def escape (spaced : Bool) (text : List Char) : Outcome (Escape × List Char) :=
  match text with
  | [] => .error .endAfterBackslash
  | c :: rest =>
    if c.isDigit then .error .backReference
    else if isEscapable c then .ok (.char c false, rest)
    else match c with
      | 'x' => hexEscape spaced 2 rest
      | 'u' => hexEscape spaced 4 rest
      | 'U' => hexEscape spaced 8 rest
      | 'p' => propertyEscape spaced false rest
      | 'P' => propertyEscape spaced true rest
      | 'd' => .ok (.digit false, rest)
      | 'D' => .ok (.digit true, rest)
      | 's' => .ok (.space false, rest)
      | 'S' => .ok (.space true, rest)
      | 'w' => .ok (.word false, rest)
      | 'W' => .ok (.word true, rest)
      | 'a' => .ok (.char '\x07' false, rest)
      | 'f' => .ok (.char '\x0c' false, rest)
      | 't' => .ok (.char '\t' false, rest)
      | 'n' => .ok (.char '\n' false, rest)
      | 'r' => .ok (.char '\r' false, rest)
      | 'v' => .ok (.char '\x0b' false, rest)
      | 'A' => .ok (.textStart, rest)
      | 'z' => .ok (.textEnd, rest)
      | 'b' => wordEdge spaced rest
      | 'B' => .ok (.noWordEdge, rest)
      | '<' => .ok (.wordStart, rest)
      | '>' => .ok (.wordEnd, rest)
      | _ => .error .unknownEscape

/-! ## Flags -/

/-- A flag by its letter. -/
def Flags.set? (flags : Flags) (letter : Char) (on : Bool) : Option Flags :=
  match letter with
  | 'i' => some { flags with ignoreCase := on }
  | 'm' => some { flags with multiLine := on }
  | 's' => some { flags with dotMatchesAll := on }
  | 'R' => some { flags with anyLineEnd := on }
  | 'U' => some { flags with swapGreed := on }
  | 'x' => some { flags with spaced := on }
  | 'u' => some { flags with wide := on }
  | _ => none

/-- Reads flags up to a colon or a closing parenthesis, which stays at the front. `seen` are the
    letters so far, and after a dash flags are switched off. -/
def flags (current : Flags) (seen : List Char) (dangling : Bool) :
    List Char → Outcome (Flags × List Char)
  | [] => .error .unclosedFlags
  | c :: rest =>
    if c = ':' || c = ')' then
      if dangling then .error .danglingNegation else .ok (current, c :: rest)
    else if c = '-' then
      if seen.contains '-' then .error .repeatedNegation
      else flags current ('-' :: seen) true rest
    else
      match current.set? c (!seen.contains '-') with
      | none => .error .unknownFlag
      | some next =>
        if seen.contains c then .error .duplicateFlag
        else flags next (c :: seen) false rest

/-! ## Names of groups -/

/-- Whether a character may stand in the name of a group. -/
def isGroupNameChar (first : Bool) (c : Char) : Bool :=
  if first then c = '_' || Unicode.isLetter c
  else c = '_' || c = '.' || c = '[' || c = ']' || Unicode.isLetterOrNumber c

/-- Reads the name of a group and the angle that closes it. -/
def groupName (first : Bool) : List Char → Outcome (List Char × List Char)
  | [] => .error .unclosedGroupName
  | c :: rest =>
    if c = '>' then if first then .error .emptyGroupName else .ok ([], rest)
    else if isGroupNameChar first c then do
      let (more, rest) ← groupName false rest
      return (c :: more, rest)
    else .error .invalidGroupName

end JavaImports.Written
