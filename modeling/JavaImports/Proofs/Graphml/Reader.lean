-- SUMMARY: Reading the elements of a graph back from the text of a document.
import JavaImports.Graphml
import JavaImports.Proofs.Text.Split

/-! # Reading graphs

A graph is read element by element. The value of an attribute ends at the first quote, and what
stands for itself in it has been told apart from what an entity stands for by then. Reading a graph
that was rendered gives the short names of its nodes and, with their numbers, of its edges, whatever
characters the names hold. -/

namespace JavaImports.Graphml

/-- What the element of an edge says. -/
structure EdgeEntry where
  id : String
  source : String
  target : String
deriving DecidableEq, Repr

/-- What the elements of a graph say, in their order. -/
structure Content where
  nodes : List String
  edges : List EdgeEntry
deriving DecidableEq, Repr

/-! ## Values of attributes -/

/-- The text that the value of an attribute stands for. -/
def unescape : List Char → List Char
  | '&' :: 'a' :: 'm' :: 'p' :: ';' :: rest => '&' :: unescape rest
  | '&' :: 'l' :: 't' :: ';' :: rest => '<' :: unescape rest
  | '&' :: 'g' :: 't' :: ';' :: rest => '>' :: unescape rest
  | '&' :: 'q' :: 'u' :: 'o' :: 't' :: ';' :: rest => '"' :: unescape rest
  | '&' :: 'a' :: 'p' :: 'o' :: 's' :: ';' :: rest => '\'' :: unescape rest
  | c :: rest => c :: unescape rest
  | [] => []

/-- Whether a character stands for itself in the value of an attribute. -/
def IsPlain (c : Char) : Prop :=
  c ≠ '&' ∧ c ≠ '<' ∧ c ≠ '>' ∧ c ≠ '"' ∧ c ≠ '\''

theorem escapeChar_of_isPlain {c : Char} (h : IsPlain c) : escapeChar c = [c] := by
  obtain ⟨hAmp, hLess, hGreater, hQuote, hApostrophe⟩ := h
  unfold escapeChar
  split <;> simp_all

theorem unescape_cons {c : Char} (h : c ≠ '&') (rest : List Char) :
    unescape (c :: rest) = c :: unescape rest := by
  rw [unescape] <;> simp [h]

theorem unescape_escapeChar (c : Char) (rest : List Char) :
    unescape (escapeChar c ++ rest) = c :: unescape rest := by
  by_cases hAmp : c = '&'
  · subst hAmp; rfl
  by_cases hLess : c = '<'
  · subst hLess; rfl
  by_cases hGreater : c = '>'
  · subst hGreater; rfl
  by_cases hQuote : c = '"'
  · subst hQuote; rfl
  by_cases hApostrophe : c = '\''
  · subst hApostrophe; rfl
  rw [escapeChar_of_isPlain ⟨hAmp, hLess, hGreater, hQuote, hApostrophe⟩]
  exact unescape_cons hAmp rest

theorem unescape_flatMap (text : List Char) : unescape (text.flatMap escapeChar) = text := by
  induction text with
  | nil => rfl
  | cons c rest ih => rw [List.flatMap_cons, unescape_escapeChar, ih]

/-- No quote is left in the value of an attribute. -/
theorem quote_not_mem_escapeChar (c : Char) : '"' ∉ escapeChar c := by
  unfold escapeChar
  split <;> simp_all [eq_comm]

theorem quote_not_mem_escape (text : String) : '"' ∉ (escape text).toList := by
  simp [escape, quote_not_mem_escapeChar]

/-- A text without ampersands stands for itself. -/
theorem unescape_of_not_mem {text : List Char} (h : '&' ∉ text) : unescape text = text := by
  induction text with
  | nil => rfl
  | cons c rest ih =>
    have hHead : c ≠ '&' := fun heq => h (heq ▸ List.mem_cons_self ..)
    rw [unescape_cons hHead, ih fun hMem => h (List.mem_cons_of_mem _ hMem)]

/-! ## Reading elements -/

/-- The text after a fixed text at its front. -/
def readFixed? (fixed : String) (text : List Char) : Option (List Char) :=
  if fixed.toList.isPrefixOf text then some (text.drop fixed.toList.length) else none

/-- The text that a value stands for, up to the quote that ends it, and the text after that. -/
def readValue? (text : List Char) : Option (String × List Char) :=
  (Text.splitFirst? ['"'] text).map fun (value, rest) => (String.ofList (unescape value), rest)

/-- The identifier in the element of a node, and the text after the element. -/
def readNode? (text : List Char) : Option (String × List Char) := do
  let text ← readFixed? "    <node id=\"" text
  let (id, text) ← readValue? text
  let text ← readFixed? "/>\n" text
  return (id, text)

/-- What follows the last attribute in the element of an edge. -/
def edgeBody : String :=
  ">\n" ++ "      <data key=\"d1\">1.0</data>\n" ++ "    </edge>\n"

/-- What the element of an edge says, and the text after the element. -/
def readEdge? (text : List Char) : Option (EdgeEntry × List Char) := do
  let text ← readFixed? "    <edge id=\"" text
  let (id, text) ← readValue? text
  let text ← readFixed? " source=\"" text
  let (source, text) ← readValue? text
  let text ← readFixed? " target=\"" text
  let (target, text) ← readValue? text
  let text ← readFixed? edgeBody text
  return (⟨id, source, target⟩, text)

/-- Reads elements as long as there is one, at most `fuel` of them. -/
def readAll (read? : List Char → Option (α × List Char)) : (fuel : Nat) → List Char →
    List α × List Char
  | 0, text => ([], text)
  | fuel + 1, text =>
    match read? text with
    | none => ([], text)
    | some (element, rest) =>
      let (more, rest) := readAll read? fuel rest
      (element :: more, rest)

/-- What the elements of a graph say: first nodes, then edges, and nothing else. -/
def readGraph? (text : List Char) : Option Content := do
  let text ← readFixed? graphStart text
  let (nodes, text) := readAll readNode? text.length text
  let (edges, text) := readAll readEdge? text.length text
  let text ← readFixed? graphEnd text
  if text.isEmpty then return ⟨nodes, edges⟩ else none

/-! ## Reading what was rendered -/

@[simp] theorem readFixed?_append (fixed : String) (rest : List Char) :
    readFixed? fixed (fixed.toList ++ rest) = some rest := by
  simp [readFixed?, List.isPrefixOf_iff_prefix]

theorem readValue?_escape (text : String) (rest : List Char) :
    readValue? ((escape text).toList ++ '"' :: rest) = some (text, rest) := by
  have hFirst := Text.standsFirstAfter_singleton.2 (quote_not_mem_escape text)
  have hCut := Text.splitFirst?_append hFirst rest
  rw [List.append_assoc, List.singleton_append] at hCut
  rw [readValue?, hCut]
  simp [escape, unescape_flatMap]

theorem readValue?_plain {text : String} (hQuote : '"' ∉ text.toList) (hAmp : '&' ∉ text.toList)
    (rest : List Char) : readValue? (text.toList ++ '"' :: rest) = some (text, rest) := by
  have hCut := Text.splitFirst?_append (Text.standsFirstAfter_singleton.2 hQuote) rest
  rw [List.append_assoc, List.singleton_append] at hCut
  simp [readValue?, hCut, unescape_of_not_mem hAmp]

theorem readNode?_nodeElement (name : String) (rest : List Char) :
    readNode? ((nodeElement name).toList ++ rest) = some (DottedName.shorten name, rest) := by
  have hText : (nodeElement name).toList ++ rest = "    <node id=\"".toList ++
      ((escape (DottedName.shorten name)).toList ++ '"' :: ("/>\n".toList ++ rest)) := by
    have hEnd : "\"/>\n".toList = '"' :: "/>\n".toList := by simp
    unfold nodeElement nodeId
    simp only [String.toList_append]
    rw [hEnd]
    simp only [List.append_assoc, List.cons_append]
  rw [hText]
  simp only [readNode?, readFixed?_append, readValue?_escape, Option.bind_eq_bind,
    Option.bind_some, Option.pure_def]

/-- The identifier of the edge with a given number. -/
def edgeId (number : Nat) : String :=
  "e" ++ toString number

/-- What the element of an edge with a given number says. -/
def edgeEntry (number : Nat) (edge : Edge) : EdgeEntry :=
  ⟨edgeId number, DottedName.shorten edge.source, DottedName.shorten edge.target⟩

theorem not_mem_edgeId {c : Char} (hLetter : c ≠ 'e') (hDigit : c.isDigit = false)
    (number : Nat) : c ∉ (edgeId number).toList := by
  intro h
  have hMem : c ∈ Nat.toDigits 10 number := by
    simpa [edgeId, hLetter, Nat.toString_eq_repr] using h
  have := Nat.isDigit_of_mem_toDigits (by decide) (by decide) hMem
  simp [hDigit] at this

theorem toList_edgeElement_append (number : Nat) (edge : Edge) (rest : List Char) :
    (edgeElement number edge).toList ++ rest = "    <edge id=\"".toList ++
      ((edgeId number).toList ++ '"' :: (" source=\"".toList ++
        ((escape (DottedName.shorten edge.source)).toList ++ '"' :: (" target=\"".toList ++
          ((escape (DottedName.shorten edge.target)).toList ++ '"' ::
            (edgeBody.toList ++ rest)))))) := by
  have hId : "    <edge id=\"e".toList = "    <edge id=\"".toList ++ "e".toList := by simp
  have hSource : "\" source=\"".toList = '"' :: " source=\"".toList := by simp
  have hTarget : "\" target=\"".toList = '"' :: " target=\"".toList := by simp
  have hBody : "\">\n".toList = '"' :: ">\n".toList := by simp
  unfold edgeElement edgeId edgeBody nodeId
  simp only [String.toList_append]
  rw [hId, hSource, hTarget, hBody]
  simp only [List.append_assoc, List.cons_append]

theorem readEdge?_edgeElement (number : Nat) (edge : Edge) (rest : List Char) :
    readEdge? ((edgeElement number edge).toList ++ rest) = some (edgeEntry number edge, rest) := by
  have hQuote := not_mem_edgeId (c := '"') (by decide) (by decide) number
  have hAmp := not_mem_edgeId (c := '&') (by decide) (by decide) number
  rw [toList_edgeElement_append]
  simp only [readEdge?, readFixed?_append, readValue?_plain hQuote hAmp, readValue?_escape,
    Option.bind_eq_bind, Option.bind_some, Option.pure_def, edgeEntry]

theorem readNode?_edgeElement (number : Nat) (edge : Edge) (rest : List Char) :
    readNode? ((edgeElement number edge).toList ++ rest) = none := by
  have hOther (text : List Char) : readFixed? "    <node id=\"" ("    <edge id=\"".toList ++ text)
      = none := by
    simp [readFixed?]
  rw [toList_edgeElement_append, readNode?, hOther]
  rfl

theorem readNode?_graphEnd : readNode? graphEnd.toList = none := by
  have hOther : readFixed? "    <node id=\"" graphEnd.toList = none := by
    simp [readFixed?, graphEnd]
  rw [readNode?, hOther]
  rfl

theorem readEdge?_graphEnd : readEdge? graphEnd.toList = none := by
  have hOther : readFixed? "    <edge id=\"" graphEnd.toList = none := by
    simp [readFixed?, graphEnd]
  rw [readEdge?, hOther]
  rfl

/-! ## Reading what was rendered as a whole -/

section Elements

variable {read? : List Char → Option (α × List Char)} {print : β → List Char} {value : β → α}

theorem length_le_length_flatMap (hPrint : ∀ b, 1 ≤ (print b).length) (items : List β) :
    items.length ≤ (items.flatMap print).length := by
  induction items with
  | nil => simp
  | cons item more ih =>
    have := hPrint item
    simp only [List.flatMap_cons, List.length_append, List.length_cons]
    omega

theorem readAll_of_length_le (hRead : ∀ b rest, read? (print b ++ rest) = some (value b, rest))
    {rest : List Char} (hRest : read? rest = none) {items : List β} {fuel : Nat}
    (hFuel : items.length ≤ fuel) :
    readAll read? fuel (items.flatMap print ++ rest) = (items.map value, rest) := by
  induction items generalizing fuel with
  | nil => cases fuel <;> simp [readAll, hRest]
  | cons item more ih =>
    cases fuel with
    | zero => simp at hFuel
    | succ fuel =>
      have hMore := ih (by simpa using hFuel : more.length ≤ fuel)
      simp [readAll, hRead, hMore]

/-- Elements that are read one by one are all read, up to a text that does not start with one. -/
theorem readAll_flatMap (hRead : ∀ b rest, read? (print b ++ rest) = some (value b, rest))
    (hPrint : ∀ b, 1 ≤ (print b).length) {rest : List Char} (hRest : read? rest = none)
    (items : List β) :
    readAll read? (items.flatMap print ++ rest).length (items.flatMap print ++ rest) =
      (items.map value, rest) := by
  have := length_le_length_flatMap hPrint items
  exact readAll_of_length_le hRead hRest (by rw [List.length_append]; omega)

end Elements

theorem one_le_length_edgeElement (number : Nat) (edge : Edge) :
    1 ≤ (edgeElement number edge).toList.length := by
  have hText := toList_edgeElement_append number edge []
  have hFront : "    <edge id=\"".toList.length = 14 := by simp
  rw [List.append_nil] at hText
  rw [hText, List.length_append]
  omega

theorem one_le_length_nodeElement (name : String) : 1 ≤ (nodeElement name).toList.length := by
  have hFront : "    <node id=\"".toList.length = 14 := by simp
  unfold nodeElement
  simp only [String.toList_append, List.length_append]
  omega

theorem toList_nodeElements (nodes : List String) : (nodeElements nodes).toList =
    (nodes.filter fun node => !Unicode.isBlankText node).flatMap
      fun node => (nodeElement node).toList := by
  simp [nodeElements, String.toList_join, List.flatMap_map]

theorem toList_edgeElements (number : Nat) (edges : List Edge) :
    (edgeElements number edges).toList =
      (edges.zipIdx number).flatMap fun item => (edgeElement item.2 item.1).toList := by
  induction edges generalizing number with
  | nil => rfl
  | cons edge more ih => simp [edgeElements, ih]

/-- Where the nodes end, no node is read. -/
theorem readNode?_edgeElements (number : Nat) (edges : List Edge) :
    readNode? ((edgeElements number edges).toList ++ graphEnd.toList) = none := by
  cases edges with
  | nil => exact readNode?_graphEnd
  | cons edge more =>
    rw [edgeElements, String.toList_append, List.append_assoc]
    exact readNode?_edgeElement ..

/-- The content of a graph with given nodes and edges: blank names are no nodes, all names are
    shortened, and the edges are numbered. -/
def contentOf (nodes : List String) (edges : List Edge) : Content where
  nodes := (nodes.filter fun node => !Unicode.isBlankText node).map DottedName.shorten
  edges := edges.zipIdx.map fun item => edgeEntry item.2 item.1

/-- Reading gives back what was rendered, whatever names there are. -/
theorem readGraph?_graph (nodes : List String) (edges : List Edge) :
    readGraph? (graph nodes edges).toList = some (contentOf nodes edges) := by
  have hEdges := readAll_flatMap (fun item : Edge × Nat => readEdge?_edgeElement item.2 item.1)
    (fun item => one_le_length_edgeElement item.2 item.1) readEdge?_graphEnd edges.zipIdx
  rw [← toList_edgeElements] at hEdges
  have hNodes := readAll_flatMap readNode?_nodeElement one_le_length_nodeElement
    (readNode?_edgeElements 0 edges) (nodes.filter fun node => !Unicode.isBlankText node)
  rw [← toList_nodeElements] at hNodes
  have hEnd := readFixed?_append graphEnd []
  rw [List.append_nil] at hEnd
  have hText : (graph nodes edges).toList = graphStart.toList ++ ((nodeElements nodes).toList ++
      ((edgeElements 0 edges).toList ++ graphEnd.toList)) := by
    simp only [graph, String.toList_append, List.append_assoc]
  rw [hText, readGraph?, readFixed?_append]
  simp only [Option.bind_eq_bind, Option.bind_some, hNodes, hEdges, hEnd, List.isEmpty_nil,
    if_true, Option.pure_def, contentOf]

end JavaImports.Graphml
