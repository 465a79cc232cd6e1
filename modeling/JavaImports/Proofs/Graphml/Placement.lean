-- SUMMARY: When the graph stands at the end of the root element, and where it stands otherwise.
import JavaImports.Proofs.Graphml.Composition

/-! # The place of the graph

The graph belongs at the end of the root. It is put in front of the last text that looks like the
closing tag, so it gets to its place if there is no white space in that tag and no comment behind
the root mentions it. A closing tag with white space in it is not found, and a comment that mentions
the tag is where the graph ends up. -/

namespace JavaImports.Graphml

/-! ## Templates as documents -/

/-- The white space of markup. -/
def isSpace (c : Char) : Bool :=
  c == ' ' || c == '\t' || c == '\n' || c == '\r'

/-- What can stand behind the root element of a document. -/
inductive Trailing where
  | space (text : List Char) (all : text.all isSpace)
  /-- A comment holds no two dashes in a row, those of its own end included. -/
  | comment (body : List Char) (noDashes : ¬ ['-', '-'] <:+: body ++ ['-'])

namespace Trailing

def text : Trailing → List Char
  | space text _ => text
  | comment body _ => "<!--".toList ++ body ++ "-->".toList

/-- Whether this is a comment that mentions the closing tag of the root. -/
def MentionsClosing : Trailing → Prop
  | space .. => False
  | comment body _ => closingTag.toList <:+: body

instance : (piece : Trailing) → Decidable piece.MentionsClosing
  | space .. => inferInstanceAs (Decidable False)
  | comment body _ => inferInstanceAs (Decidable (closingTag.toList <:+: body))

end Trailing

/-- A template in which a tag closes the root, with white space in front of its bracket or without,
    and only white space and comments stand behind that. -/
structure Layout where
  /-- The text up to the closing tag of the root. -/
  head : List Char
  space : List Char
  allSpace : space.all isSpace
  trailing : List Trailing

namespace Layout

/-- The closing tag of the root. -/
def closing (layout : Layout) : List Char :=
  "</graphml".toList ++ layout.space ++ ['>']

/-- The text from the closing tag of the root on. -/
def tail (layout : Layout) : List Char :=
  layout.closing ++ layout.trailing.flatMap Trailing.text

def text (layout : Layout) : List Char :=
  layout.head ++ layout.tail

/-- Whether the closing tag of the root has no white space in it, and no comment behind the root
    mentions this tag. -/
def ClosesPlainly (layout : Layout) : Prop :=
  layout.space = [] ∧ ∀ piece ∈ layout.trailing, ¬ piece.MentionsClosing

end Layout

/-! ## Closing tags behind the root -/

theorem closingTag_eq_cons : closingTag.toList = '<' :: "/graphml>".toList := by
  decide

theorem not_mem_closingTag_of_isSpace {c : Char} (h : isSpace c) : c ∉ closingTag.toList := by
  simp only [isSpace, Bool.or_eq_true, beq_iff_eq] at h
  rcases h with ((rfl | rfl) | rfl) | rfl <;> decide

theorem closingTag_infix_space_append {space rest : List Char} (h : space.all isSpace) :
    closingTag.toList <:+: space ++ rest ↔ closingTag.toList <:+: rest := by
  induction space with
  | nil => rfl
  | cons c space ih =>
    obtain ⟨hHead, hSpace⟩ := Bool.and_eq_true_iff.1 h
    rw [List.cons_append, ← List.nil_append (c :: _),
      Text.infix_append_cons_iff (not_mem_closingTag_of_isSpace hHead), ih hSpace]
    simp [closingTag]

theorem closingTag_infix_bracket_cons {rest : List Char} :
    closingTag.toList <:+: '>' :: rest ↔ closingTag.toList <:+: rest := by
  rw [List.infix_cons_iff, or_iff_right]
  rintro ⟨after, hAfter⟩
  rw [closingTag_eq_cons] at hAfter
  exact absurd (List.cons.inj hAfter).1 (by decide)

/-- The dashes of a comment keep a closing tag in it from reaching over its ends. -/
theorem closingTag_infix_comment_append {body rest : List Char} :
    closingTag.toList <:+: "<!--".toList ++ body ++ "-->".toList ++ rest ↔
      closingTag.toList <:+: body ∨ closingTag.toList <:+: rest := by
  have hDash : '-' ∉ closingTag.toList := by decide
  have hFront : ¬ closingTag.toList <:+: "<!".toList := by decide
  have hNone : ¬ closingTag.toList <:+: [] := by decide
  have hText : "<!--".toList ++ body ++ "-->".toList ++ rest =
      "<!".toList ++ '-' :: ([] ++ '-' :: (body ++ '-' :: ([] ++ '-' :: '>' :: rest))) := by
    simp
  rw [hText]
  simp only [Text.infix_append_cons_iff hDash, closingTag_infix_bracket_cons, hFront, hNone,
    false_or]

theorem closingTag_infix_trailing_iff {trailing : List Trailing} :
    closingTag.toList <:+: trailing.flatMap Trailing.text ↔
      ∃ piece ∈ trailing, piece.MentionsClosing := by
  induction trailing with
  | nil => simp [closingTag]
  | cons piece more ih =>
    rw [List.flatMap_cons, List.exists_mem_cons_iff, ← ih]
    cases piece with
    | space text all =>
      simp only [Trailing.text, Trailing.MentionsClosing, closingTag_infix_space_append all,
        false_or]
    | comment body noDashes =>
      simp only [Trailing.text, Trailing.MentionsClosing, closingTag_infix_comment_append]

namespace Layout

variable {layout : Layout}

/-- A closing tag of the root without white space is the last one unless a comment mentions it. -/
theorem isLastPlace_iff :
    Text.IsLastPlace closingTag.toList layout.head layout.tail ↔ layout.ClosesPlainly := by
  unfold ClosesPlainly tail closing
  rcases hSpace : layout.space with _ | ⟨c, space⟩
  · have hTag : "</graphml".toList ++ [] ++ ['>'] = '<' :: "/graphml>".toList := by decide
    rw [hTag, closingTag_eq_cons, Text.isLastPlace_append_iff (by decide), ← closingTag_eq_cons,
      closingTag_infix_trailing_iff]
    simp
  · -- white space stands where the bracket of the tag would
    have hAll := layout.allSpace
    rw [hSpace] at hAll
    have hChar : isSpace c := (Bool.and_eq_true_iff.1 hAll).1
    constructor
    · rintro ⟨⟨after, hAfter⟩, -⟩
      have hTag : closingTag.toList = "</graphml".toList ++ ['>'] := by decide
      simp only [hTag, List.append_assoc, List.append_cancel_left_eq, List.cons_append,
        List.cons.injEq] at hAfter
      rw [← hAfter.1] at hChar
      exact absurd hChar (by decide)
    · rintro ⟨hNil, -⟩
      cases hNil

/-- Where a closing tag can be found in a template. -/
theorem closingTag_infix_text_iff : closingTag.toList <:+: layout.text ↔
    layout.space = [] ∨ closingTag.toList <:+: layout.head ∨
      ∃ piece ∈ layout.trailing, piece.MentionsClosing := by
  unfold text tail closing
  rcases hSpace : layout.space with _ | ⟨c, space⟩
  · have hTag : "</graphml".toList ++ [] ++ ['>'] = closingTag.toList := by decide
    rw [hTag, eq_self, true_or, iff_true]
    exact ⟨layout.head, _, List.append_assoc ..⟩
  · have hAll := layout.allSpace
    rw [hSpace] at hAll
    obtain ⟨hChar, hMore⟩ := Bool.and_eq_true_iff.1 hAll
    have hText : layout.head ++ ("</graphml".toList ++ c :: space ++ ['>'] ++
        layout.trailing.flatMap Trailing.text) = (layout.head ++ "</graphml".toList) ++
          c :: (space ++ '>' :: layout.trailing.flatMap Trailing.text) := by
      simp
    have hTag : closingTag.toList = "</graphml".toList ++ ['>'] := by decide
    have hHead : closingTag.toList <:+: layout.head ++ "</graphml".toList ↔
        closingTag.toList <:+: layout.head := by
      rw [hTag]
      exact Text.infix_append_iff_of_not_mem (by decide)
    rw [hText, Text.infix_append_cons_iff (not_mem_closingTag_of_isSpace hChar), hHead,
      closingTag_infix_space_append hMore, closingTag_infix_bracket_cons,
      closingTag_infix_trailing_iff]
    simp

/-- The last closing tag in a comment behind the root is the last one of the template if no later
    comment mentions it. -/
theorem isLastPlace_of_comment {after : List Trailing} {front back : List Char}
    (hLast : Text.IsLastPlace closingTag.toList front back)
    (hAfter : ∀ piece ∈ after, ¬ piece.MentionsClosing) (start : List Char) :
    Text.IsLastPlace closingTag.toList start
      (back ++ "-->".toList ++ after.flatMap Trailing.text) := by
  have hDash : '-' ∉ closingTag.toList := by decide
  have hNone : ¬ closingTag.toList <:+: [] := by decide
  have hRest : ¬ closingTag.toList <:+: '-' :: '>' :: after.flatMap Trailing.text := by
    rw [← List.nil_append ('-' :: _), Text.infix_append_cons_iff hDash,
      closingTag_infix_bracket_cons, closingTag_infix_trailing_iff]
    simpa [hNone] using hAfter
  have hText : back ++ "-->".toList ++ after.flatMap Trailing.text =
      back ++ '-' :: '-' :: '>' :: after.flatMap Trailing.text := by
    simp
  rw [hText]
  exact (hLast.append_cons hDash hRest).behind start

end Layout

/-- Of the comments behind the root that mention the closing tag one is the last. -/
theorem exists_last_mention {trailing : List Trailing}
    (h : ∃ piece ∈ trailing, piece.MentionsClosing) :
    ∃ before body noDashes after, trailing = before ++ .comment body noDashes :: after ∧
      closingTag.toList <:+: body ∧ ∀ piece ∈ after, ¬ piece.MentionsClosing := by
  induction trailing with
  | nil => simp at h
  | cons piece more ih =>
    by_cases hMore : ∃ piece ∈ more, piece.MentionsClosing
    · obtain ⟨before, body, noDashes, after, rfl, hBody, hAfter⟩ := ih hMore
      exact ⟨piece :: before, body, noDashes, after, rfl, hBody, hAfter⟩
    · have hHere : piece.MentionsClosing :=
        ((List.exists_mem_cons_iff ..).1 h).resolve_right hMore
      cases piece with
      | space => exact absurd hHere id
      | comment body noDashes =>
        exact ⟨[], body, noDashes, more, rfl, hHere, fun other hOther hMention =>
          hMore ⟨other, hOther, hMention⟩⟩

/-! ## The place of what is put in -/

/-- What starts with no angle bracket cannot be put in front of one and further behind as well. -/
theorem eq_nil_of_inserted {head between rest added otherAdded : List Char}
    (hBracket : (between ++ rest).head? = some '<') (hAdded : ∃ c more, added = c :: more ∧ c ≠ '<')
    (h : head ++ added ++ (between ++ rest) = head ++ between ++ otherAdded ++ rest) :
    between = [] := by
  obtain ⟨c, more, rfl, hc⟩ := hAdded
  cases between with
  | nil => rfl
  | cons d between =>
    simp only [List.append_assoc, List.append_cancel_left_eq, List.cons_append,
      List.cons.injEq] at h
    simp only [List.cons_append, List.head?_cons, Option.some.injEq] at hBracket
    exact absurd (h.1.trans hBracket) hc

/-- What is put into a text in front of an angle bracket, and starts with none itself, tells its
    place. -/
theorem eq_of_inserted {head tail other rest added otherAdded : List Char}
    (hWhole : head ++ tail = other ++ rest)
    (hTail : tail.head? = some '<') (hRest : rest.head? = some '<')
    (hAdded : ∃ c more, added = c :: more ∧ c ≠ '<')
    (hOther : ∃ c more, otherAdded = c :: more ∧ c ≠ '<')
    (h : head ++ added ++ tail = other ++ otherAdded ++ rest) : head = other := by
  rcases List.append_eq_append_iff.1 hWhole with ⟨between, rfl, rfl⟩ | ⟨between, rfl, rfl⟩
  · rw [eq_nil_of_inserted hTail hAdded h, List.append_nil]
  · rw [eq_nil_of_inserted hRest hOther h.symm, List.append_nil]

/-- Whether a text ends within a line depends on its last part. -/
theorem missingFeed_append {more : List Char} (h : more ≠ []) (text : List Char) :
    missingFeed (text ++ more) = missingFeed more := by
  simp [missingFeed, h, List.getLast?_append_of_ne_nil text h]

/-- A graph starts with white space. -/
theorem exists_missingFeed_append_graphOf (text : List Char) (separator : String)
    (nodes records : List String) :
    ∃ c more, missingFeed text ++ (graphOf separator nodes records).toList = c :: more ∧
      c ≠ '<' := by
  unfold missingFeed
  split
  · exact ⟨'\n', _, rfl, by decide⟩
  · have hStart : graphStart.toList.head? = some ' ' := by decide
    have hHead : (graphOf separator nodes records).toList.head? = some ' ' := by
      simp [graphOf, graph, hStart]
    obtain ⟨more, hMore⟩ := List.head?_eq_some_iff.1 hHead
    exact ⟨' ', more, hMore, by decide⟩

/-! ## Documents -/

namespace Layout

/-- Whether a document has a graph as the last thing in the root of the template, on a line of its
    own, and is the template otherwise. -/
def EndsRootWith (layout : Layout) (graph document : String) : Prop :=
  document.toList = layout.head ++ missingFeed layout.head ++ graph.toList ++ layout.tail

/-- Whether a document has a graph in the middle of a comment behind the root, in front of a closing
    tag that the comment mentions, and is the template otherwise. -/
def HidesInComment (layout : Layout) (graph document : String) : Prop :=
  ∃ before front back noDashes after,
    layout.trailing = before ++ .comment (front ++ back) noDashes :: after ∧
    closingTag.toList <+: back ∧
    document.toList = layout.head ++ layout.closing ++ before.flatMap Trailing.text ++
      "<!--".toList ++ front ++ missingFeed ("<!--".toList ++ front) ++ graph.toList ++
      back ++ "-->".toList ++ after.flatMap Trailing.text

end Layout

namespace Style

variable {style : Style} {layout : Layout} {nodes records : List String} {edgeTable : String}

/-- If no malformed record is reported, the graph is put in front of the last closing tag. -/
theorem exists_document_of_isLastPlace {head tail : List Char}
    (hTemplate : style.template.toList = head ++ tail)
    (hLast : Text.IsLastPlace closingTag.toList head tail)
    (hRecords : ∀ line record,
      style.document nodes records edgeTable ≠ .error (.malformedRecord edgeTable line record)) :
    ∃ document, style.document nodes records edgeTable = .ok document ∧
      document.toList = head ++ missingFeed head ++
        (graphOf style.edgeSeparator nodes records).toList ++ tail := by
  cases hDocument : style.document nodes records edgeTable with
  | ok document =>
    exact ⟨document, rfl, ((document_eq_ok_iff_graphOf hTemplate hLast).1 hDocument).2⟩
  | error failure =>
    rcases document_eq_error_iff.1 hDocument with ⟨hNone, -⟩ | ⟨-, line, record, -, rfl⟩
    · refine absurd ?_ hNone
      rw [hTemplate]
      exact hLast.stands.isInfix.trans (List.suffix_append ..).isInfix
    · exact absurd hDocument (hRecords line record)

theorem exists_endsRootWith_iff (hTemplate : style.template.toList = layout.text)
    (hRecords : ∀ line record,
      style.document nodes records edgeTable ≠ .error (.malformedRecord edgeTable line record)) :
    (∃ document, style.document nodes records edgeTable = .ok document ∧
      layout.EndsRootWith (graphOf style.edgeSeparator nodes records) document) ↔
        layout.ClosesPlainly := by
  rw [← Layout.isLastPlace_iff]
  constructor
  · rintro ⟨document, hDocument, hEnds⟩
    obtain ⟨head, tail, hCut⟩ := exists_cutLast?_of_document hDocument
    obtain ⟨hText, hLast⟩ := Text.cutLast?_eq_some_iff.1 hCut
    obtain ⟨-, hPlaced⟩ := (document_eq_ok_iff_graphOf hText hLast).1 hDocument
    have hTag {rest : List Char} (hRest : closingTag.toList <+: rest) : rest.head? = some '<' := by
      obtain ⟨more, rfl⟩ := hRest
      rw [closingTag_eq_cons]
      rfl
    have hWhole : head ++ tail = layout.head ++ layout.tail := hText.symm.trans hTemplate
    -- the graph tells the place it was put at
    have hHead : head = layout.head := by
      refine eq_of_inserted hWhole (hTag hLast.stands) rfl
        (exists_missingFeed_append_graphOf head style.edgeSeparator nodes records)
        (exists_missingFeed_append_graphOf layout.head style.edgeSeparator nodes records) ?_
      simpa only [List.append_assoc] using hPlaced.symm.trans hEnds
    subst hHead
    obtain rfl : tail = layout.tail := List.append_cancel_left hWhole
    exact hLast
  · intro hLast
    exact exists_document_of_isLastPlace hTemplate hLast hRecords

/-- A template is refused exactly if the closing tag of its root has white space in it and is
    mentioned nowhere. -/
theorem document_eq_unclosedTemplate_iff (hTemplate : style.template.toList = layout.text) :
    style.document nodes records edgeTable = .error (.unclosedTemplate style.templatePath?) ↔
      layout.space ≠ [] ∧ ¬ closingTag.toList <:+: layout.head ∧
        ∀ piece ∈ layout.trailing, ¬ piece.MentionsClosing := by
  rw [document_eq_error_iff, hTemplate, Layout.closingTag_infix_text_iff]
  simp

/-- A comment that mentions the closing tag gets the graph. -/
theorem exists_hidesInComment (hTemplate : style.template.toList = layout.text)
    (hRecords : ∀ line record,
      style.document nodes records edgeTable ≠ .error (.malformedRecord edgeTable line record))
    (h : ∃ piece ∈ layout.trailing, piece.MentionsClosing) :
    ∃ document, style.document nodes records edgeTable = .ok document ∧
      layout.HidesInComment (graphOf style.edgeSeparator nodes records) document := by
  obtain ⟨before, body, noDashes, after, hTrailing, hBody, hAfter⟩ := exists_last_mention h
  obtain ⟨front, back, hCut⟩ := Text.exists_cutLast? hBody
  obtain ⟨rfl, hLast⟩ := Text.cutLast?_eq_some_iff.1 hCut
  let above := layout.head ++ layout.closing ++ before.flatMap Trailing.text
  let start := "<!--".toList ++ front
  have hText : style.template.toList =
      above ++ start ++ (back ++ "-->".toList ++ after.flatMap Trailing.text) := by
    rw [hTemplate, Layout.text, Layout.tail, hTrailing]
    simp [above, start, Trailing.text]
  have hFeed : missingFeed (above ++ start) = missingFeed start :=
    missingFeed_append (by simp [start]) above
  obtain ⟨document, hDocument, hPlaced⟩ := exists_document_of_isLastPlace hText
    (Layout.isLastPlace_of_comment hLast hAfter (above ++ start)) hRecords
  refine ⟨document, hDocument, before, front, back, noDashes, after, hTrailing, hLast.stands, ?_⟩
  rw [hPlaced, hFeed]
  simp [above, start]

/-- The graph ends the root of the template exactly if the closing tag of the root has no white
    space in it and no comment behind the root mentions this tag. If there is white space in the tag
    and it is mentioned nowhere, the template is refused. If a comment behind the root mentions the
    tag, the graph gets into such a comment. -/
theorem graph_endsRoot_iff (hTemplate : style.template.toList = layout.text)
    (hRecords : ∀ line record,
      style.document nodes records edgeTable ≠ .error (.malformedRecord edgeTable line record)) :
    ((∃ document, style.document nodes records edgeTable = .ok document ∧
      layout.EndsRootWith (graphOf style.edgeSeparator nodes records) document) ↔
        layout.space = [] ∧ ∀ piece ∈ layout.trailing, ¬ piece.MentionsClosing) ∧
    (style.document nodes records edgeTable = .error (.unclosedTemplate style.templatePath?) ↔
      layout.space ≠ [] ∧ ¬ closingTag.toList <:+: layout.head ∧
        ∀ piece ∈ layout.trailing, ¬ piece.MentionsClosing) ∧
    ((∃ piece ∈ layout.trailing, piece.MentionsClosing) →
      ∃ document, style.document nodes records edgeTable = .ok document ∧
        layout.HidesInComment (graphOf style.edgeSeparator nodes records) document) :=
  ⟨exists_endsRootWith_iff hTemplate hRecords, document_eq_unclosedTemplate_iff hTemplate,
    exists_hidesInComment hTemplate hRecords⟩

private def remarkedLayout : Layout where
  head := "<graphml><!-- </graphml> -->".toList
  space := []
  allSpace := rfl
  trailing := [.space ['\n'] rfl, .comment " </graphml > ".toList (by decide)]

private def remarkedStyle : Style :=
  { template := "<graphml><!-- </graphml> --></graphml>\n<!-- </graphml > -->" }

private def remarkedDocument : String :=
  "<graphml><!-- </graphml> -->\n" ++ graphStart ++ "    <node id=\"a.B\"/>\n" ++ graphEnd ++
    "</graphml>\n<!-- </graphml > -->"

/-- A comment in the root may mention the closing tag, and one behind it may hold what is almost this
    tag. -/
theorem graph_endsRoot_iff_remarked :
    remarkedStyle.template.toList = remarkedLayout.text ∧
    (∀ line record, remarkedStyle.document ["a.B"] [] "edges.csv" ≠
      .error (.malformedRecord "edges.csv" line record)) ∧
    (∀ piece ∈ remarkedLayout.trailing, ¬ piece.MentionsClosing) ∧
    ∃ document, remarkedStyle.document ["a.B"] [] "edges.csv" = .ok document ∧
      remarkedLayout.EndsRootWith (graphOf ";" ["a.B"] []) document := by
  have hTemplate : remarkedStyle.template.toList = remarkedLayout.text := by decide +kernel
  have hDocument : remarkedStyle.document ["a.B"] [] "edges.csv" = .ok remarkedDocument := by
    decide +kernel
  have hRecords : ∀ line record, remarkedStyle.document ["a.B"] [] "edges.csv" ≠
      .error (.malformedRecord "edges.csv" line record) := by
    rw [hDocument]
    nofun
  have hNone : ∀ piece ∈ remarkedLayout.trailing, ¬ piece.MentionsClosing := by decide +kernel
  exact ⟨hTemplate, hRecords, hNone, (graph_endsRoot_iff hTemplate hRecords).1.2 ⟨rfl, hNone⟩⟩

private def mentioningLayout : Layout where
  head := "<graphml>".toList
  space := []
  allSpace := rfl
  trailing := [.comment " </graphml> ".toList (by decide)]

private def mentioningStyle : Style :=
  { template := "<graphml></graphml><!-- </graphml> -->" }

private def spacedLayout : Layout where
  head := "<graphml>".toList
  space := [' ']
  allSpace := rfl
  trailing := []

private def spacedStyle : Style :=
  { template := "<graphml></graphml >" }

/-- With a closing tag in a comment behind the root the graph gets into the comment, and a closing
    tag with white space in it is not found. -/
theorem graph_misses_root :
    mentioningStyle.template.toList = mentioningLayout.text ∧
    (∃ document, mentioningStyle.document ["a.B"] [] "edges.csv" = .ok document ∧
      document = "<graphml></graphml><!-- \n" ++ graphStart ++ "    <node id=\"a.B\"/>\n" ++
        graphEnd ++ "</graphml> -->" ∧
      ¬ mentioningLayout.EndsRootWith (graphOf ";" ["a.B"] []) document) ∧
    spacedStyle.template.toList = spacedLayout.text ∧
    spacedStyle.document ["a.B"] [] "edges.csv" = .error (.unclosedTemplate none) := by
  have hTemplate : mentioningStyle.template.toList = mentioningLayout.text := by decide +kernel
  have hDocument : mentioningStyle.document ["a.B"] [] "edges.csv" =
      .ok ("<graphml></graphml><!-- \n" ++ graphStart ++ "    <node id=\"a.B\"/>\n" ++
        graphEnd ++ "</graphml> -->") := by
    decide +kernel
  have hRecords : ∀ line record, mentioningStyle.document ["a.B"] [] "edges.csv" ≠
      .error (.malformedRecord "edges.csv" line record) := by
    rw [hDocument]
    nofun
  have hMention : ¬ ∀ piece ∈ mentioningLayout.trailing, ¬ piece.MentionsClosing := by
    decide +kernel
  refine ⟨hTemplate, ⟨_, hDocument, rfl, fun hEnds => ?_⟩, by decide +kernel, by decide +kernel⟩
  exact hMention ((exists_endsRootWith_iff hTemplate hRecords).1 ⟨_, hDocument, hEnds⟩).2

end Style

end JavaImports.Graphml
