-- SUMMARY: The names in the declarations of a source file.
import JavaImports.Proofs.Java.Syntax
import JavaImports.Proofs.Unicode.Ranges
import Mathlib.Data.List.TakeDrop

/-! # Declared names

A name is taken from the text of a declaration as it is written, with comments that stand inside it,
and only loses its blanks. So little is known of it: it has a character, and none is blank. -/

namespace JavaImports

/-- The name that a declaration is about. -/
def Declaration.name : Declaration → String
  | package name => name
  | imports symbol => symbol

/-- Names with a character, none of which is blank. -/
structure IsBare (name : String) : Prop where
  nonempty : name.toList ≠ []
  noBlank : ∀ c ∈ name.toList, Unicode.isBlank c = false

theorem IsBare.notBlank {name : String} (h : IsBare name) : Unicode.isBlankText name = false := by
  obtain ⟨c, hMem⟩ := List.exists_mem_of_ne_nil _ h.nonempty
  rw [Unicode.isBlankText, List.all_eq_false]
  exact ⟨c, hMem, by simp [h.noBlank c hMem]⟩

theorem IsBare.not_mem {name : String} (h : IsBare name) {c : Char}
    (hBlank : Unicode.isBlank c = true) : c ∉ name.toList := by
  intro hMem
  rw [h.noBlank c hMem] at hBlank
  cases hBlank

namespace Java

/-! ## Words -/

/-- What starts a word may stand inside it. -/
theorem continuesWord_of_startsWord {c : Char} (h : startsWord c) : continuesWord c := by
  unfold startsWord at h
  unfold continuesWord
  split at h
  · next hAscii =>
    rw [if_pos hAscii]
    simp only [Bool.or_eq_true, Char.isAlphanum] at h ⊢
    rcases h with (hAlpha | hBar) | hDollar
    · exact .inl (.inl (.inl hAlpha))
    · exact .inl (.inr hBar)
    · exact .inr hDollar
  · next hAscii =>
    rw [if_neg hAscii, Unicode.Ranges.contains_of_includes
      Unicode.includes_identifierContinue_identifierStart h, Bool.or_true]

/-- No character of ASCII behind the space is blank. -/
theorem isBlank_of_isAscii {c : Char} (hFirst : 0x20 < c.toNat) (hLast : c.toNat < 0x80) :
    Unicode.isBlank c = false := by
  rw [Bool.eq_false_iff]
  intro hBlank
  obtain ⟨range, hRange, hIn⟩ := Unicode.Ranges.contains_iff.1 hBlank
  have hOutside : ∀ range ∈ Unicode.blanks, range.last ≤ 0x20 ∨ 0x80 ≤ range.first := by decide
  rcases hOutside range hRange with hBefore | hBehind <;> omega

/-- What may stand inside a word is not blank. -/
theorem isBlank_of_continuesWord {c : Char} (h : continuesWord c) : Unicode.isBlank c = false := by
  by_cases hAscii : c.toNat < 0x80
  · refine isBlank_of_isAscii (Nat.lt_of_not_le fun hLow => ?_) hAscii
    have hNone : ∀ n < 0x21, continuesWord (Char.ofNat n) = false := by decide
    have hOther := hNone c.toNat (Nat.lt_succ_of_le hLow)
    rw [Char.ofNat_toNat, h] at hOther
    cases hOther
  · unfold continuesWord at h
    rw [if_neg hAscii, Bool.or_eq_true, decide_eq_true_eq] at h
    rcases h with rfl | hContinue
    · decide
    · exact Unicode.Ranges.contains_eq_false_of_areApart
        Unicode.areApart_identifierContinue_blanks hContinue

/-- Whether a text starts a word. -/
def StartsWord (text : List Char) : Prop :=
  ∃ c rest, text = c :: rest ∧ startsWord c

theorem StartsWord.append {text : List Char} (h : StartsWord text) (more : List Char) :
    StartsWord (text ++ more) := by
  obtain ⟨c, rest, rfl, hStarts⟩ := h
  exact ⟨c, rest ++ more, rfl, hStarts⟩

/-- Without its blanks a text that starts a word is bare. -/
theorem StartsWord.isBare {text : List Char} (h : StartsWord text) :
    IsBare (String.ofList (Unicode.withoutBlanks text)) := by
  obtain ⟨c, rest, rfl, hStarts⟩ := h
  refine ⟨?_, ?_⟩
  · simp [Unicode.withoutBlanks, isBlank_of_continuesWord (continuesWord_of_startsWord hStarts)]
  · simp [Unicode.withoutBlanks]

theorem startsWord_of_splitWord? {text word rest : List Char}
    (h : splitWord? text = some (word, rest)) : StartsWord word := by
  cases text with
  | nil => cases h
  | cons c more =>
    simp only [splitWord?] at h
    split at h
    · next hStarts =>
      simp only [List.span_eq_takeWhile_dropWhile, Option.some.injEq, Prod.mk.injEq] at h
      obtain ⟨rfl, -⟩ := h
      rw [List.takeWhile_cons_of_pos (continuesWord_of_startsWord hStarts)]
      exact ⟨c, _, rfl, hStarts⟩
    · cases h

/-! ## Declarations -/

theorem startsWord_of_splitName? {text name rest : List Char}
    (h : splitName? text = some (name, rest)) : StartsWord name := by
  unfold splitName? at h
  obtain ⟨⟨word, after⟩, hWord, heq⟩ := Option.map_eq_some_iff.1 h
  obtain ⟨rfl, -⟩ := Prod.mk.inj heq
  exact (startsWord_of_splitWord? hWord).append _

theorem startsWord_of_splitHeaderLine? {text rest : List Char} {line : HeaderLine}
    (h : splitHeaderLine? text = some (line, rest)) : StartsWord line.name := by
  simp only [splitHeaderLine?, bind, pure, Option.bind_eq_some_iff, Prod.exists] at h
  obtain ⟨word, afterWord, -, h⟩ := h
  split at h
  · cases h
  · obtain ⟨⟨name, afterName⟩, hName, h⟩ := Option.bind_eq_some_iff.1 h
    obtain ⟨⟨after, afterEnd⟩, -, heq⟩ := Option.bind_eq_some_iff.1 h
    obtain ⟨rfl, -⟩ := Prod.mk.inj (Option.some.inj heq)
    exact startsWord_of_splitName? hName

/-- Whether the names among the children of a tree start a word. -/
def NamesStartWords (tree : SyntaxTree) : Prop :=
  ∀ child ∈ tree.children, child.kind = .name → StartsWord child.text

theorem namesStartWords_of_headerPiece? {start : Position} {text : List Char} {piece : Piece}
    (h : headerPiece? start text = some piece) : NamesStartWords piece.tree := by
  unfold headerPiece? at h
  obtain ⟨⟨line, rest⟩, hLine, rfl⟩ := Option.map_eq_some_iff.1 h
  intro child hChild _
  obtain rfl := List.mem_singleton.1 hChild
  exact startsWord_of_splitHeaderLine? hLine

/-- What the grammar reads has no names. -/
theorem children_grammarPiece (start : Position) (text : List Char) :
    (grammarPiece start text).tree.children = [] := by
  have hFault (reading : Reading) : (faultAt start text reading).children = [] := by
    unfold faultAt
    dsimp only
    split <;> rfl
  unfold grammarPiece
  dsimp only
  split
  · cases hHeader : headerFault? start text with
    | none => exact hFault _
    | some tree =>
      obtain ⟨repair, -, rfl⟩ := Option.map_eq_some_iff.1 hHeader
      rfl
  · split
    · split
      · exact hFault _
      · rfl
    · exact hFault _

theorem namesStartWords_piece (start : Position) (text : List Char) :
    NamesStartWords (piece start text).tree := by
  unfold piece
  split
  · exact nofun
  · cases hHeader : headerPiece? start text with
    | none =>
      intro child hChild
      rw [Option.getD_none, children_grammarPiece] at hChild
      cases hChild
    | some found => exact namesStartWords_of_headerPiece? hHeader

theorem namesStartWords_of_mem_pieces {fuel : Nat} {position : Position} {text : List Char}
    {tree : SyntaxTree} (h : tree ∈ pieces fuel position text) : NamesStartWords tree := by
  induction fuel generalizing position text with
  | zero => cases h
  | succ fuel ih =>
    simp only [pieces] at h
    split at h
    · cases h
    · rcases List.mem_cons.1 h with rfl | hMore
      · exact namesStartWords_piece _ _
      · exact ih hMore

theorem isBare_of_declaration? {tree : SyntaxTree} (hNames : NamesStartWords tree)
    {declaration : Declaration} (h : declaration? tree = some declaration) :
    IsBare declaration.name := by
  unfold declaration? at h
  split at h
  · cases h
  · next name hName =>
    have hKind := List.find?_some hName
    have hStarts := hNames name (List.mem_of_find?_eq_some hName) (by simpa using hKind)
    dsimp only at h
    split at h
    · cases h
      exact hStarts.isBare
    · cases h
      exact hStarts.isBare
    · cases h

/-- The names that a source file declares are bare. -/
theorem isBare_of_mem_declarations {source : String} {declarations : List Declaration}
    (h : Java.declarations source = .ok declarations) :
    ∀ declaration ∈ declarations, IsBare declaration.name := by
  obtain ⟨-, rfl⟩ := SyntaxTree.declarations_eq_ok_iff.1 h
  intro declaration hMem
  obtain ⟨tree, hTree, hDeclaration⟩ := List.mem_filterMap.1 hMem
  exact isBare_of_declaration? (namesStartWords_of_mem_pieces hTree) hDeclaration

end Java

end JavaImports
