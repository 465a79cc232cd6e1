-- SUMMARY: Patterns over text: what they are made of.
import JavaImports.Unicode.CaseFolding
import JavaImports.Unicode.PropertyName

/-! # Patterns

A pattern describes texts. It is made of character classes, of anchors that hold at a place of the
text without taking any of it, and of sequences, choices and repetitions. Flags and groups of the
written form leave no trace. -/

namespace JavaImports

/-- A set of characters, by the way it is written. -/
inductive CharClass where
  | ranges (rs : Unicode.Ranges)
  | union (a b : CharClass)
  | intersection (a b : CharClass)
  | difference (a b : CharClass)
  | symmetricDifference (a b : CharClass)
  | complement (a : CharClass)
  /-- All characters equal to one of `a` when case is ignored. -/
  | anyCase (a : CharClass)
  /-- The same among the letters of ASCII alone. -/
  | anyAsciiCase (a : CharClass)
deriving Inhabited

namespace CharClass

/-- The class without characters. -/
def none : CharClass := ranges []

/-- The class of one character. -/
def single (c : Char) : CharClass := ranges [⟨c.toNat, c.toNat⟩]

/-- The class of all characters. -/
def all : CharClass := ranges [⟨0, 0x10FFFF⟩]

/-- Whether a class holds a character. -/
def contains : CharClass → Char → Bool
  | .ranges rs, c => rs.contains c
  | .union a b, c => a.contains c || b.contains c
  | .intersection a b, c => a.contains c && b.contains c
  | .difference a b, c => a.contains c && !b.contains c
  | .symmetricDifference a b, c => a.contains c != b.contains c
  | .complement a, c => !a.contains c
  | .anyCase a, c => (Unicode.caseVariants c).any fun other => a.contains other
  | .anyAsciiCase a, c => a.contains c || a.contains c.toLower || a.contains c.toUpper

end CharClass

/-- A condition on a place of a text. -/
inductive Anchor where
  | textStart
  | textEnd
  | lineStart
  | lineEnd
  /-- As `lineStart` and `lineEnd`, with a carriage return as a line end of its own, unless a line
      feed follows it. -/
  | lineStartAny
  | lineEndAny
  | wordEdge (ascii : Bool)
  | noWordEdge (ascii : Bool)
  | wordStart (ascii : Bool)
  | wordEnd (ascii : Bool)
  /-- No word character comes before. -/
  | noWordBefore (ascii : Bool)
  /-- No word character comes after. -/
  | noWordAfter (ascii : Bool)
deriving DecidableEq, Repr

/-- A description of texts. -/
inductive Pattern where
  | empty
  | chars (cls : CharClass)
  | anchor (condition : Anchor)
  | sequence (first second : Pattern)
  | choice (first second : Pattern)
  /-- At least `least` times, and at most `most?` times if there is a limit. -/
  | repeated (pattern : Pattern) (least : Nat) (most? : Option Nat)
deriving Inhabited

namespace Pattern

/-- Patterns one after another. -/
def ofSequence : List Pattern → Pattern
  | [] => empty
  | [pattern] => pattern
  | pattern :: more => sequence pattern (ofSequence more)

/-- One of several patterns. -/
def ofChoice : List Pattern → Pattern
  | [] => empty
  | [pattern] => pattern
  | pattern :: more => choice pattern (ofChoice more)

end Pattern

end JavaImports
