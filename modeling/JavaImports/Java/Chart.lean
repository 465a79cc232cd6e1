-- SUMMARY: Reading source text of a category, all ways at once.
import JavaImports.Java.Network
import Std.Data.HashSet

/-! # Charts

A chart holds, for every position of the text where a lexeme ends, the items that are alive there.
An item is a place in the network together with the position where its category began. The items at
a position are closed under entering and leaving categories; the lexemes at the position then carry
some of them to later positions.

At a position the longest lexeme that any item can read wins. A word that some item reads as a
reserved word is one; any other word is an identifier. Only the sign that closes type arguments is
always read by itself. -/

namespace JavaImports.Java

/-- A place in the network, within a category that began at a position. -/
structure Item where
  place : Nat
  origin : Nat
deriving BEq, Hashable, Repr

/-- The items at every position up to the last one where a lexeme ends. -/
abbrev Chart := Array (Array Item)

namespace Chart

/-- The items that an item at the position `here` leads to without reading anything. `current` are
    the items known at this position. -/
def successors (network : Network) (chart : Chart) (here : Nat) (current : Array Item)
    (item : Item) : List Item :=
  match network.stop item.place with
  | .read _ _ => []
  | .fork nexts => nexts.map fun next => ⟨next, item.origin⟩
  | .enter c _ => [⟨network.entry c, here⟩]
  | .leave c =>
    let waiting := if item.origin < here then chart.getD item.origin #[] else current
    waiting.toList.filterMap fun outer =>
      match network.stop outer.place with
      | .enter inner next => if inner = c then some ⟨next, outer.origin⟩ else none
      | _ => none

/-- Adds the items not seen before. -/
def addNew (items : Array Item) (seen : Std.HashSet Item) :
    List Item → Array Item × Std.HashSet Item
  | [] => (items, seen)
  | item :: more =>
    if seen.contains item then addNew items seen more
    else addNew (items.push item) (seen.insert item) more

/-- Works through the items from index `next` on, each of which may add more at the end. -/
def closeFrom (network : Network) (chart : Chart) (here : Nat) :
    (fuel next : Nat) → Array Item → Std.HashSet Item → Array Item
  | 0, _, items, _ => items
  | fuel + 1, next, items, seen =>
    match items[next]? with
    | none => items
    | some item =>
      let (items, seen) := addNew items seen (successors network chart here items item)
      closeFrom network chart here fuel (next + 1) items seen

/-- All items alive at the position `here`, given those that lexemes carried there. There are at
    most as many as places times positions so far. -/
def close (network : Network) (chart : Chart) (here : Nat) (kernel : List Item) : Array Item :=
  let (items, seen) := addNew #[] {} kernel
  closeFrom network chart here (network.stops.size * (here + 1)) 0 items seen

/-- What the items at a position read, each with the item it leads to. -/
def readings (network : Network) (items : Array Item) : List (Terminal × Item) :=
  items.toList.filterMap fun item =>
    match network.stop item.place with
    | .read t next => some (t, ⟨next, item.origin⟩)
    | _ => none

/-- How many characters of the text a terminal takes, the gap in front of it included. `reserved`
    tells whether the word at the front is a reserved one. -/
def extent? (text : List Char) (gap : Nat) (rest : List Char) (word? : Option String)
    (reserved : Bool) (t : Terminal) : Option Nat :=
  if t.isInside then t.scan text
  else match t with
    | .word expected => if word? = some expected then some (gap + expected.length) else none
    | .identifier => if reserved then none else (t.scan rest).map (gap + ·)
    | _ => (t.scan rest).map (gap + ·)

/-- The items that the lexemes at the front of a text carry on, with the number of characters each
    of them takes. -/
def advances (network : Network) (items : Array Item) (text : List Char) : List (Nat × Item) :=
  let gap := gapLength 0 text
  let rest := text.drop gap
  let word? := (splitWord? rest).map fun (word, _) => String.ofList word
  let reads := readings network items
  let reserved := reads.any fun (t, _) =>
    match t with
    | .word expected => word? = some expected
    | _ => false
  let found := reads.filterMap fun (t, item) =>
    (extent? text gap rest word? reserved t).map fun n => (n, t, item)
  let longest := (found.filter fun (_, t, _) => t != .closeAngle).foldl (fun n m => max n m.1) 0
  (found.filter fun (n, t, _) => n = longest || t = .closeAngle).map fun (n, _, item) => (n, item)

end Chart

/-- How far a text could be read. -/
structure Reading where
  chart : Chart
  /-- The last position at which the text read so far makes up the category. -/
  complete? : Option Nat
  /-- The last position where a lexeme ends, and the text from there on. -/
  reach : Nat
  rest : List Char

namespace Reading

/-- Whether a category that began at the front of the text can end with these items. -/
def isComplete (network : Network) (c : Category) (items : Array Item) : Bool :=
  items.any fun item =>
    item.origin = 0 && match network.stop item.place with
      | .leave ended => ended = c
      | _ => false

/-- Goes on reading at the position `here`. `pending` are the items that lexemes carry to this
    position and later ones. -/
def extend (network : Network) (c : Category) (here : Nat) (pending : List (Nat × Item))
    (reading : Reading) (text : List Char) : Reading :=
  let kernel := (pending.filter fun entry => entry.1 = here).map (·.2)
  let later := pending.filter fun entry => here < entry.1
  let items := if kernel.isEmpty then #[] else Chart.close network reading.chart here kernel
  let moved := if kernel.isEmpty then []
    else (Chart.advances network items text).map fun (n, item) => (here + n, item)
  let chart := reading.chart.push items
  let now : Reading :=
    if kernel.isEmpty then { reading with chart }
    else
      { chart
        complete? := if isComplete network c items then some here else reading.complete?
        reach := here
        rest := text }
  match later ++ moved, text with
  | [], _ => now
  | _, [] => now
  | pending, _ :: text => extend network c (here + 1) pending now text

/-- Reads a text of a category from the front of `text`, as far as it goes. -/
def ofText (network : Network) (c : Category) (text : List Char) : Reading :=
  extend network c 0 [(0, ⟨network.entry c, 0⟩)] ⟨#[], none, 0, text⟩ text

/-- The ends of categories that an item reaches over at most `fuel` forks. -/
def endsOf (network : Network) : (fuel : Nat) → Item → List Item
  | 0, _ => []
  | fuel + 1, item =>
    match network.stop item.place with
    | .leave _ => [item]
    | .fork nexts => nexts.flatMap fun next => endsOf network fuel ⟨next, item.origin⟩
    | _ => []

/-- Whether some lexeme can start a text of the category. -/
def starts (network : Network) (c : Category) (text : List Char) : Bool :=
  !(Chart.advances network (Chart.close network #[] 0 [⟨network.entry c, 0⟩]) text).isEmpty

/-- Whether reading could go on where it stopped if a terminal were there that ends some category:
    with the text that follows, with another text of category `c`, or with nothing at all. -/
def lacksTerminal (network : Network) (c : Category) (reading : Reading) : Bool :=
  let reads := Chart.readings network (reading.chart.back?.getD #[])
  let terminals := (reads.map (·.1)).eraseDups
  let atEnd := (splitGap reading.rest).2.isEmpty
  terminals.any fun t =>
    let kernel := (reads.filter fun entry => entry.1 = t).map (·.2)
    let items := Chart.close network reading.chart reading.chart.size
      (kernel.flatMap (endsOf network network.stops.size))
    !(Chart.advances network items reading.rest).isEmpty ||
      (isComplete network c items && (atEnd || starts network c reading.rest))

end Reading

end JavaImports.Java
