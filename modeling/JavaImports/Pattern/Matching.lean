-- SUMMARY: Where in a text a pattern matches.
import JavaImports.Pattern.Basic

/-! # Matching

A place of a text is the number of characters before it. `Pattern.reach` gives the places where a
match can end, for all matches that start at given places at once. -/

namespace JavaImports

/-- Whether the character at an index is there and belongs to words. -/
def isWordAt (ascii : Bool) (char? : Option Char) : Bool :=
  match char? with
  | none => false
  | some c => if ascii then Unicode.asciiWordRanges.contains c else Unicode.isWordChar c

/-- Whether an anchor holds between the character before a place and the one after it. -/
def Anchor.holdsBetween (before? after? : Option Char) : Anchor → Bool
  | .textStart => before?.isNone
  | .textEnd => after?.isNone
  | .lineStart => before?.all (· = '\n')
  | .lineEnd => after?.all (· = '\n')
  | .lineStartAny =>
    before?.all fun c => c = '\n' || (c = '\r' && after? != some '\n')
  | .lineEndAny =>
    after?.all fun c => c = '\r' || (c = '\n' && before? != some '\r')
  | .wordEdge ascii => isWordAt ascii before? != isWordAt ascii after?
  | .noWordEdge ascii => isWordAt ascii before? = isWordAt ascii after?
  | .wordStart ascii => !isWordAt ascii before? && isWordAt ascii after?
  | .wordEnd ascii => isWordAt ascii before? && !isWordAt ascii after?
  | .noWordBefore ascii => !isWordAt ascii before?
  | .noWordAfter ascii => !isWordAt ascii after?

/-- The character before a place. -/
def charBefore? (text : Array Char) (place : Nat) : Option Char :=
  match place with
  | 0 => none
  | n + 1 => text[n]?

/-- Whether an anchor holds at a place of a text. -/
def Anchor.holdsAt (anchor : Anchor) (text : Array Char) (place : Nat) : Bool :=
  anchor.holdsBetween (charBefore? text place) text[place]?

namespace Pattern

/-- The places of both lists, none of them twice if that holds of each list. -/
def unite (a b : List Nat) : List Nat :=
  a ++ b.filter fun place => !a.contains place

/-- `step` taken exactly `n` times. -/
def stepExactly (step : List Nat → List Nat) : (n : Nat) → List Nat → List Nat
  | 0, places => places
  | n + 1, places => if places.isEmpty then [] else stepExactly step n (step places)

/-- The places reached with at most `n` steps: `seen`, and those that `n` steps from `front` add. -/
def stepAtMost (step : List Nat → List Nat) : (n : Nat) → (seen front : List Nat) → List Nat
  | 0, seen, _ => seen
  | n + 1, seen, front =>
    let fresh := (step front).filter fun place => !seen.contains place
    if fresh.isEmpty then seen else stepAtMost step n (seen ++ fresh) fresh

/-- The places where a match of the pattern can end that starts at one of `places`. A repetition
    without a limit needs no more rounds than the text has places. -/
def reach (text : Array Char) : Pattern → List Nat → List Nat
  | .empty, places => places
  | .chars cls, places => places.filterMap fun place =>
      match text[place]? with
      | some c => if cls.contains c then some (place + 1) else none
      | none => none
  | .anchor condition, places => places.filter fun place => condition.holdsAt text place
  | .sequence first second, places => reach text second (reach text first places)
  | .choice first second, places => unite (reach text first places) (reach text second places)
  | .repeated pattern least most?, places =>
    let after := stepExactly (reach text pattern) least places
    let rounds := match most? with
      | some most => most - least
      | none => text.size + 1
    stepAtMost (reach text pattern) rounds after after

/-- Whether a pattern matches anywhere in a text. -/
def isFoundIn (pattern : Pattern) (text : String) : Bool :=
  let chars := text.toList.toArray
  !(pattern.reach chars (List.range (chars.size + 1))).isEmpty

end Pattern

end JavaImports
