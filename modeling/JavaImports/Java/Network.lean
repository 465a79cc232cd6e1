-- SUMMARY: The grammar as a network of nodes to walk through.
import JavaImports.Java.Grammar

/-! # The network of the grammar

Each category becomes a small network: walking from its entry to its end spells one text of the
category, where a terminal is passed by reading a lexeme and a category by walking through its own
network. -/

namespace JavaImports.Java

/-- One place in the network and the ways on from there. -/
inductive Stop where
  /-- Reads a lexeme. -/
  | read (t : Terminal) (next : Nat)
  /-- Walks through the network of a category. -/
  | enter (c : Category) (next : Nat)
  /-- Goes on at any of several places. -/
  | fork (nexts : List Nat)
  /-- The end of a category. -/
  | leave (c : Category)
deriving Inhabited, Repr

/-- The places of all categories, and the place where each category starts. -/
structure Network where
  stops : Array Stop
  entries : Array Nat

namespace Network

mutual

/-- Adds the places of a phrase in front of the place `next`; gives the place where it starts. -/
def addPhrase (stops : Array Stop) (next : Nat) : Phrase → Nat × Array Stop
  | .terminal t => (stops.size, stops.push (.read t next))
  | .category c => (stops.size, stops.push (.enter c next))
  | .sequence phrases => addSequence stops next phrases
  | .choice phrases =>
    let (entries, stops) := addEach stops next phrases
    (stops.size, stops.push (.fork entries))
  | .optional phrase =>
    let (entry, stops) := addPhrase stops next phrase
    (stops.size, stops.push (.fork [entry, next]))
  | .many phrase =>
    let loop := stops.size
    let (entry, stops) := addPhrase (stops.push (.fork [])) loop phrase
    (loop, stops.setIfInBounds loop (.fork [entry, next]))

/-- Adds the places of phrases one after another. -/
def addSequence (stops : Array Stop) (next : Nat) : List Phrase → Nat × Array Stop
  | [] => (next, stops)
  | phrase :: more =>
    let (middle, stops) := addSequence stops next more
    addPhrase stops middle phrase

/-- Adds the places of phrases side by side; gives the place where each starts. -/
def addEach (stops : Array Stop) (next : Nat) : List Phrase → List Nat × Array Stop
  | [] => ([], stops)
  | phrase :: more =>
    let (entry, stops) := addPhrase stops next phrase
    let (entries, stops) := addEach stops next more
    (entry :: entries, stops)

end

/-- Adds the network of a category. -/
def addCategory (network : Network) (c : Category) : Network :=
  let (entry, stops) :=
    addPhrase (network.stops.push (.leave c)) network.stops.size (grammar c)
  ⟨stops, network.entries.setIfInBounds c.ctorIdx entry⟩

/-- Every category, in the order of its number. -/
def categories : List Category :=
  (List.range (Category.string.ctorIdx + 1)).map Category.ofNat

/-- The network of the whole grammar. -/
def ofGrammar : Network :=
  categories.foldl addCategory ⟨#[], Array.replicate categories.length 0⟩

/-- The place where the network of a category starts. -/
def entry (network : Network) (c : Category) : Nat :=
  network.entries.getD c.ctorIdx 0

/-- What can be done at a place. -/
def stop (network : Network) (place : Nat) : Stop :=
  network.stops.getD place (.fork [])

end Network

end JavaImports.Java
