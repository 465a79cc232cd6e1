-- SUMMARY: Where the fault lies in a package or import declaration that breaks the grammar.
import JavaImports.Java.Grammar

/-! # Broken headers

A package or import declaration that breaks the grammar can be mended in several ways: the one
lexeme that is missing can be put in, or some lexemes around the place where reading stopped can be
left out. The cheapest way tells where the fault lies: right after the last lexeme read, or at the
first lexeme left out. -/

namespace JavaImports.Java

/-- What has been read of a declaration. -/
inductive HeaderPlace where
  | start
  | lead (isImport : Bool)
  | static
  | name (isImport : Bool)
  | dot (isImport : Bool)
  | asterisk
  | finish
deriving DecidableEq, Repr

/-- Whether a lexeme is a word. -/
def isWord (lexeme : List Char) : Bool :=
  lexeme.head?.any startsWord

/-- What has been read after one more lexeme, if the declaration can go on with it. -/
def HeaderPlace.after? (lexeme : List Char) : HeaderPlace → Option HeaderPlace
  | start =>
    if lexeme = "import".toList then some (lead true)
    else if lexeme = "package".toList then some (lead false)
    else none
  | lead isImport =>
    if isImport && lexeme = "static".toList then some static
    else if isWord lexeme then some (name isImport)
    else none
  | static => if isWord lexeme then some (name true) else none
  | name isImport =>
    if lexeme = ['.'] then some (dot isImport) else if lexeme = [';'] then some finish else none
  | dot isImport =>
    if isWord lexeme then some (name isImport)
    else if isImport && lexeme = ['*'] then some asterisk
    else none
  | asterisk => if lexeme = [';'] then some finish else none
  | finish => none

/-! ## Lexemes -/

/-- A lexeme and where it stands in a text. -/
structure Placed where
  first : Nat
  lexeme : List Char
deriving Repr

/-- Where the text after a lexeme starts. -/
def Placed.past (placed : Placed) : Nat :=
  placed.first + placed.lexeme.length

/-- The length of the lexeme at the front of a text that starts with no gap, whatever is expected
    there. -/
def anyLexeme (text : List Char) : Nat :=
  match splitWord? text with
  | some (word, _) => word.length
  | none =>
    let signs := infixSigns ++ assignSigns ++ ["->", "::", "...", "++", "--"]
    let scans := numberLiteral :: characterLiteral :: signs.map Scan.exactly
    max 1 ((Scan.longest scans text).getD 1)

/-- The lexemes of a text up to the first semicolon, at most `bound` of them. `first` is the place
    of the text. -/
def lexemes : (bound first : Nat) → List Char → List Placed
  | 0, _, _ => []
  | bound + 1, first, text =>
    let (gap, rest) := splitGap text
    if rest.isEmpty then []
    else
      let (lexeme, after) := rest.splitAt (anyLexeme rest)
      let placed : Placed := ⟨first + gap.length, lexeme⟩
      if lexeme = [';'] then [placed] else placed :: lexemes bound placed.past after

/-! ## Reading -/

/-- A part of a declaration that has been read: a lexeme or a whole name, with what had been read
    before it. -/
structure HeaderPart where
  before : HeaderPlace
  first : Nat
deriving Repr

/-- How far a declaration has been read. -/
structure HeaderReading where
  place : HeaderPlace
  /-- The parts, the latest first. -/
  parts : List HeaderPart
  /-- The last segment of a qualified name and the dot before it, the segment first. -/
  segment : List HeaderPart
  /-- Where the text after the last lexeme starts. -/
  past : Nat

/-- The parts after one more lexeme. A segment after a dot becomes part of the name before it. -/
def HeaderReading.add (reading : HeaderReading) (placed : Placed) (place : HeaderPlace) :
    HeaderReading :=
  let part : HeaderPart := ⟨reading.place, placed.first⟩
  match place, reading.place, reading.parts with
  | .name _, .dot _, dot :: name :: parts => ⟨place, name :: parts, [part, dot], placed.past⟩
  | _, _, parts => ⟨place, part :: parts, [], placed.past⟩

/-- Reads lexemes as far as the declaration goes on with them. -/
def HeaderReading.extend (reading : HeaderReading) : List Placed → HeaderReading × List Placed
  | [] => (reading, [])
  | placed :: more =>
    match reading.place.after? placed.lexeme with
    | none => (reading, placed :: more)
    | some place => extend (reading.add placed place) more

/-- Whether lexemes complete a declaration of which something has been read. -/
def HeaderPlace.completes (place : HeaderPlace) : List Placed → Bool
  | [] => place = .finish
  | placed :: more =>
    place = .finish || match place.after? placed.lexeme with
      | none => false
      | some next => completes next more

/-! ## Repairs -/

/-- A way to mend a declaration: what it costs and where the fault is then. -/
structure Repair where
  cost : Nat
  isMissing : Bool
  fault : Nat
deriving Repr

/-- What it costs to put in a lexeme. -/
def missingCost : Nat := 610

/-- What it costs to go on with text that is faulty itself. -/
def faultyCost : Nat := 600

/-- What it costs to leave out a text that makes up some parts and lexemes. -/
def omissionCost (text : List Char) (count : Nat) : Nat :=
  500 + (String.ofList text).utf8ByteSize + 30 * text.count '\n' + 100 * count

/-- Whether the lexeme that is missing is a segment of a name, before a dot or a semicolon. -/
def lacksSegment (reading : HeaderReading) (rest : List Placed) : Bool :=
  match reading.place with
  | .lead isImport | .dot isImport => isNext isImport
  | .static => isNext true
  | _ => false
where
  isNext (isImport : Bool) : Bool :=
    rest.head?.any fun placed => ((HeaderPlace.name isImport).after? placed.lexeme).isSome

/-- The repair that puts in one lexeme. `follow` tells what it costs to go on after a declaration
    with a text, if that is possible. -/
def insertion? (follow : List Char → Option Nat) (text : List Char) (reading : HeaderReading)
    (rest : List Placed) : Option Repair :=
  match reading.place with
  | .name _ | .asterisk =>
    (follow (text.drop reading.past)).map fun cost => ⟨missingCost + cost, true, reading.past⟩
  | _ => if lacksSegment reading rest then some ⟨missingCost, true, reading.past⟩ else none

/-- What it costs to go on at a place with the text after some lexemes, if that is possible. -/
def goOn? (follow : List Char → Option Nat) (text : List Char) (past : Nat) (rest : List Placed) :
    HeaderPlace → Option Nat
  | .start => follow (text.drop past)
  | place => if place.completes rest then some 0 else none

/-- The places that leaving out parts at the end leads back to, with the number of parts and the
    place of the first of them; no part is left out at the first. -/
def HeaderReading.returns (reading : HeaderReading) : List (HeaderPlace × Nat × Option Nat) :=
  let counted (parts : List HeaderPart) : List (HeaderPlace × Nat × Option Nat) :=
    parts.zipIdx.map fun (part, n) => (part.before, n + 1, some part.first)
  (reading.place, 0, none) :: (counted reading.segment ++ counted reading.parts)

/-- The repair that leaves out parts at the end and the next `skipped` lexemes. -/
def omission? (follow : List Char → Option Nat) (text : List Char) (reading : HeaderReading)
    (rest : List Placed) (back : HeaderPlace × Nat × Option Nat) (skipped : Nat) :
    Option Repair :=
  let (place, count, first?) := back
  let past := ((rest.take skipped).getLast?.map Placed.past).getD reading.past
  match first?.or (if skipped = 0 then none else rest.head?.map fun placed => placed.first) with
  | none => none
  | some first =>
    (goOn? follow text past (rest.drop skipped) place).map fun cost =>
      ⟨omissionCost ((text.drop first).take (past - first)) (count + skipped) + cost, false, first⟩

/-- The cheaper of two repairs; of two at the same cost the one with the later fault. -/
def Repair.better (a b : Repair) : Repair :=
  if a.cost < b.cost || (a.cost = b.cost && b.fault ≤ a.fault) then a else b

/-- How many lexemes a repair may leave out, and how many are looked at. -/
def repairLimit : Nat := 8

/-- The cheapest repair of the declaration at the front of a text, if there is any. -/
def repair? (follow : List Char → Option Nat) (text : List Char) : Option Repair :=
  let all := lexemes text.length 0 text
  let (reading, rest) := HeaderReading.extend ⟨.start, [], [], 0⟩ all
  let counts := List.range (min repairLimit rest.length + 1)
  let omissions := reading.returns.flatMap fun back =>
    counts.filterMap (omission? follow text reading rest back)
  match (insertion? follow text reading rest).toList ++ omissions with
  | [] => none
  | repair :: more => some (more.foldl Repair.better repair)

end JavaImports.Java
