-- SUMMARY: Reading character classes between brackets.
import JavaImports.Pattern.Written

/-! # Character classes between brackets

A class lists characters, ranges, escapes and further classes, and may combine what it lists so far
with what comes after: `&&` keeps what both hold, `--` takes away the second, `~~` keeps what only
one of them holds. The class being read and those around it form a stack. -/

namespace JavaImports.Written

/-- How two parts of a class are combined. -/
inductive SetOperation where
  | intersection
  | difference
  | symmetricDifference
deriving DecidableEq, Repr

/-- A class being read: the members since the last operation, and that operation with what came
    before it. -/
structure OpenClass where
  complement : Bool
  members : CharClass
  pending : Option (SetOperation × CharClass)

/-- The same class when case is ignored. -/
def Flags.foldCase (flags : Flags) (cls : CharClass) : CharClass :=
  if flags.ignoreCase then if flags.wide then .anyCase cls else .anyAsciiCase cls else cls

/-- The outside of a class, if `outside` says so. Of ASCII alone there is no outside, since that
    would hold parts of characters. -/
def Flags.orOutside (flags : Flags) (outside : Bool) (cls : CharClass) :
    Outcome CharClass :=
  if !outside then .ok cls
  else if flags.wide then .ok (.complement cls)
  else .error .mayMatchPartOfCharacter

/-- The decimal digits. -/
def Flags.digits (flags : Flags) : CharClass :=
  .ranges (if flags.wide then Unicode.digitRanges else [⟨0x30, 0x39⟩])

/-- The blanks. -/
def Flags.blanks (flags : Flags) : CharClass :=
  .ranges (if flags.wide then Unicode.blanks else [⟨0x9, 0xD⟩, ⟨0x20, 0x20⟩])

/-- The characters of words. -/
def Flags.words (flags : Flags) : CharClass :=
  .ranges (if flags.wide then Unicode.wordRanges else Unicode.asciiWordRanges)

/-- The class of a named set of characters. -/
def Flags.named (flags : Flags) (set : Unicode.NamedSet) (outside : Bool) :
    Outcome CharClass :=
  if !flags.wide then .error .propertyNotAllowed
  else
    let cls : CharClass := if set.outside then .complement (.ranges set.ranges)
      else .ranges set.ranges
    let folded := flags.foldCase cls
    .ok (if outside then .complement folded else folded)

/-- The class of an escape that stands for several characters. -/
def Flags.escapeClass? (flags : Flags) : Escape → Option (Outcome CharClass)
  | .digit outside => some (flags.orOutside outside flags.digits)
  | .space outside => some (flags.orOutside outside flags.blanks)
  | .word outside => some (flags.orOutside outside flags.words)
  | .property set outside => some (flags.named set outside)
  | _ => none

/-- The classes that have a name between colons. -/
def asciiClasses : List (String × Unicode.Ranges) :=
  [ ("alnum", [⟨0x30, 0x39⟩, ⟨0x41, 0x5A⟩, ⟨0x61, 0x7A⟩]),
    ("alpha", [⟨0x41, 0x5A⟩, ⟨0x61, 0x7A⟩]),
    ("ascii", [⟨0x0, 0x7F⟩]),
    ("blank", [⟨0x9, 0x9⟩, ⟨0x20, 0x20⟩]),
    ("cntrl", [⟨0x0, 0x1F⟩, ⟨0x7F, 0x7F⟩]),
    ("digit", [⟨0x30, 0x39⟩]),
    ("graph", [⟨0x21, 0x7E⟩]),
    ("lower", [⟨0x61, 0x7A⟩]),
    ("print", [⟨0x20, 0x7E⟩]),
    ("punct", [⟨0x21, 0x2F⟩, ⟨0x3A, 0x40⟩, ⟨0x5B, 0x60⟩, ⟨0x7B, 0x7E⟩]),
    ("space", [⟨0x9, 0xD⟩, ⟨0x20, 0x20⟩]),
    ("upper", [⟨0x41, 0x5A⟩]),
    ("word", [⟨0x30, 0x39⟩, ⟨0x41, 0x5A⟩, ⟨0x5F, 0x5F⟩, ⟨0x61, 0x7A⟩]),
    ("xdigit", [⟨0x30, 0x39⟩, ⟨0x41, 0x46⟩, ⟨0x61, 0x66⟩]) ]

/-- Reads a class by its name between colons and brackets, after the opening bracket; none if there
    is no such class at the front of the text. -/
def asciiClass? (text : List Char) : Option (Unicode.Ranges × Bool × List Char) :=
  match text with
  | ':' :: rest =>
    let (outside, rest) := match rest with
      | '^' :: rest => (true, rest)
      | _ => (false, rest)
    let (name, rest) := rest.span fun c => c != ':'
    match rest with
    | ':' :: ']' :: rest =>
      (asciiClasses.find? fun entry => entry.1 = String.ofList name).map fun entry =>
        (entry.2, outside, rest)
    | _ => none
  | _ => none

/-- What is left of a class once the pending operation is done. The operands of an operation ignore
    case each for itself. -/
def OpenClass.value (flags : Flags) (cls : OpenClass) : CharClass :=
  match cls.pending with
  | none => cls.members
  | some (operation, before) =>
    let first := flags.foldCase before
    let second := flags.foldCase cls.members
    match operation with
    | .intersection => .intersection first second
    | .difference => .difference first second
    | .symmetricDifference => .symmetricDifference first second

/-- Adds members to a class. -/
def OpenClass.add (cls : OpenClass) (members : CharClass) : OpenClass :=
  { cls with members := .union cls.members members }

/-- Starts a new operand of a class. -/
def OpenClass.combine (flags : Flags) (operation : SetOperation) (cls : OpenClass) : OpenClass :=
  { cls with members := .none, pending := some (operation, cls.value flags) }

/-- The dashes and the bracket that stand for themselves at the beginning of a class. -/
def leadingMembers (spaced : Bool) :
    (fuel : Nat) → (members : CharClass) → (first : Bool) → List Char →
    Outcome (CharClass × List Char)
  | 0, _, _, _ => .error .unclosedClass
  | fuel + 1, members, first, text =>
    match text with
    | [] => .error .unclosedClass
    | '-' :: rest =>
      leadingMembers spaced fuel (.union members (.single '-')) false (skip spaced rest)
    | ']' :: rest =>
      if first then
        match skip spaced rest with
        | [] => .error .unclosedClass
        | rest => .ok (.union members (.single ']'), rest)
      else .ok (members, text)
    | _ => .ok (members, text)

/-- Reads the beginning of a class after its opening bracket. -/
def openClass (spaced : Bool) (text : List Char) : Outcome (OpenClass × List Char) := do
  let text := skip spaced text
  let (complement, text) := match text with
    | '^' :: rest => (true, skip spaced rest)
    | _ => (false, text)
  let (members, rest) ← leadingMembers spaced (text.length + 1) .none true text
  return (⟨complement, members, none⟩, rest)

/-- A character that stands in a class by itself or as a bound of a range. -/
def Flags.member (flags : Flags) (c : Char) : Outcome Char :=
  if flags.wide || c.toNat < 0x80 then .ok c else .error .characterNotAllowed

/-- The character after a dash, gaps left out if blanks do not count. -/
def peekPastGap (spaced : Bool) (text : List Char) : Option Char :=
  if !spaced then text.head?
  else match text.dropWhile Unicode.isBlank with
    | '#' :: rest => (rest.dropWhile Unicode.isBlank).head?.orElse fun _ => text.head?
    | c :: _ => some c
    | [] => text.head?

/-- Reads one character or escape of a class. -/
def classAtom (flags : Flags) (text : List Char) : Outcome (Escape × List Char) :=
  match text with
  | [] => .error .unclosedClass
  | '\\' :: rest => escape flags.spaced rest
  | c :: rest => .ok (.char c false, rest)

/-- The members that an atom stands for when no range begins with it. -/
def Flags.atomMembers (flags : Flags) (atom : Escape) : Outcome CharClass :=
  match atom with
  | .char c _ => do return .single (← flags.member c)
  | _ => (flags.escapeClass? atom).getD (.error .escapeNotInClass)

/-- The character of an atom that bounds a range. -/
def Flags.bound (flags : Flags) (atom : Escape) : Outcome Char :=
  match atom with
  | .char c _ => flags.member c
  | _ => .error .rangeEndNotCharacter

/-- Reads a member of a class: an atom, or a range of characters. -/
def classMember (flags : Flags) (text : List Char) : Outcome (CharClass × List Char) := do
  let (first, rest) ← classAtom flags text
  match skip flags.spaced rest with
  | [] => .error .unclosedClass
  | '-' :: after =>
    let next? := peekPastGap flags.spaced after
    if next? = some ']' || next? = some '-' then
      return (← flags.atomMembers first, '-' :: after)
    else
      match skip flags.spaced after with
      | [] => .error .unclosedClass
      | after =>
        let (second, rest) ← classAtom flags after
        let low ← flags.bound first
        let high ← flags.bound second
        if high < low then .error .invalidClassRange
        else return (.ranges [⟨low.toNat, high.toNat⟩], rest)
  | rest => return (← flags.atomMembers first, rest)

/-- The class that a class being read amounts to at its closing bracket. -/
def OpenClass.close (flags : Flags) (cls : OpenClass) : Outcome CharClass :=
  flags.orOutside cls.complement (flags.foldCase (cls.value flags))

/-- Reads on in the class `current`, inside the classes `around`, up to the bracket that closes the
    outermost one. -/
def classFrom (flags : Flags) :
    (fuel : Nat) → (current : OpenClass) → (around : List OpenClass) → List Char →
    Outcome (CharClass × List Char)
  | 0, _, _, _ => .error .unclosedClass
  | fuel + 1, current, around, text =>
    match skip flags.spaced text with
    | [] => .error .unclosedClass
    | '[' :: rest =>
      match asciiClass? rest with
      | some (ranges, outside, rest) => do
        let cls ← flags.orOutside outside (flags.foldCase (.ranges ranges))
        classFrom flags fuel (current.add cls) around rest
      | none => do
        let (inner, rest) ← openClass flags.spaced rest
        classFrom flags fuel inner (current :: around) rest
    | ']' :: rest => do
      let cls ← current.close flags
      match around with
      | [] => return (cls, rest)
      | outer :: around => classFrom flags fuel (outer.add cls) around rest
    | '&' :: '&' :: rest =>
      classFrom flags fuel (current.combine flags .intersection) around rest
    | '-' :: '-' :: rest =>
      classFrom flags fuel (current.combine flags .difference) around rest
    | '~' :: '~' :: rest =>
      classFrom flags fuel (current.combine flags .symmetricDifference) around rest
    | text => do
      let (members, rest) ← classMember flags text
      classFrom flags fuel (current.add members) around rest

/-- Reads a class after its opening bracket. -/
def bracketed (flags : Flags) (text : List Char) : Outcome (CharClass × List Char) := do
  let (cls, rest) ← openClass flags.spaced text
  classFrom flags (rest.length + 1) cls [] rest

end JavaImports.Written
