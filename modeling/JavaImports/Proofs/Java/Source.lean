-- SUMMARY: The pieces a source file is read as, and the declarations they make.
import JavaImports.Java.Source
import JavaImports.Proofs.Java.Headers
import JavaImports.Proofs.Java.Syntax

/-! # Source files

A source file without faults is made of pieces with gaps in between: package and import declarations
that have a layout, and other text. The declarations it makes are those of the layouts, in order. A
name is reported as it is written but for its blanks, so it is the identifiers joined by dots if and
only if no comment stands inside it. -/

namespace JavaImports.Java

/-! ## Pieces -/

/-- Whether a tree is that of a package or import declaration with a layout: its text ends with the
    declaration, and the name in it has the text from the first identifier to the last. -/
structure SyntaxTree.IsLaidOutAs (tree : SyntaxTree) (layout : HeaderLayout) : Prop where
  kind : tree.kind = if layout.form.isImport then .imports else .package
  text : layout.text <:+ tree.text
  name : (tree.children.find? fun child => child.kind = .name).map SyntaxTree.text =
    some layout.name.text

theorem isLaidOutAs_tree (start : Position) (annotations : List Char) (layout : HeaderLayout) :
    (layout.line.tree start annotations).IsLaidOutAs layout :=
  ⟨rfl, List.suffix_append annotations layout.text, rfl⟩

/-- What a piece can be: a declaration with a layout, other text that fits the grammar, or a
    fault. -/
inductive IsPiece (text : List Char) : Piece → Prop where
  | header (start : Position) (annotations : List Char) (layout : HeaderLayout) (rest : List Char)
      (hText : text = annotations ++ (layout.text ++ rest)) :
      IsPiece text ⟨layout.line.tree start annotations, annotations ++ layout.text, rest⟩
  | other (start : Position) {read rest : List Char} (hText : text = read ++ rest)
      (hRead : read ≠ []) : IsPiece text ⟨.node .other start read [], read, rest⟩
  | fault {piece : Piece} (hFault : piece.tree.kind.isFault) : IsPiece text piece

theorem prefix_of_packageAnnotations? {text annotations : List Char}
    (h : packageAnnotations? text = some annotations) : annotations <+: text := by
  unfold packageAnnotations? at h
  split at h
  · split at h
    · cases h
    · dsimp only at h
      split at h
      · split at h
        · cases h
          exact List.take_prefix _ _
        · cases h
      · cases h
  · cases h

theorem isPiece_of_headerPiece? {start : Position} {text : List Char} {piece : Piece}
    (h : headerPiece? start text = some piece) : IsPiece text piece := by
  unfold headerPiece? at h
  obtain ⟨⟨line, rest⟩, hLine, rfl⟩ := Option.map_eq_some_iff.1 h
  obtain ⟨layout, hText, rfl⟩ := exists_of_splitHeaderLine? hLine
  refine .header start _ layout rest ?_
  rw [← hText]
  have hFront : (packageAnnotations? text).getD [] <+: text := by
    cases hAnnotations : packageAnnotations? text with
    | none => exact List.nil_prefix
    | some annotations => exact prefix_of_packageAnnotations? hAnnotations
  exact (List.prefix_iff_eq_append.1 hFront).symm

theorem isFault_faultAt (start : Position) (text : List Char) (reading : Reading) :
    (faultAt start text reading).kind.isFault := by
  unfold faultAt
  dsimp only
  split <;> rfl

theorem isPiece_grammarPiece (start : Position) {text : List Char} (hText : text ≠ []) :
    IsPiece text (grammarPiece start text) := by
  unfold grammarPiece
  dsimp only
  split
  · refine .fault ?_
    cases hHeader : headerFault? start text with
    | none => exact isFault_faultAt start text _
    | some tree =>
      obtain ⟨repair, -, rfl⟩ := Option.map_eq_some_iff.1 hHeader
      cases repair.isMissing <;> rfl
  · split
    · next n hComplete =>
      split
      · exact .fault (isFault_faultAt start text _)
      · next hSome =>
        refine .other start (List.take_append_drop n text).symm ?_
        rw [Ne, List.take_eq_nil_iff]
        exact not_or.2 ⟨hSome, hText⟩
    · exact .fault (isFault_faultAt start text _)

theorem isPiece_piece (start : Position) {text : List Char} (hText : text ≠ []) :
    IsPiece text (piece start text) := by
  unfold piece
  split
  · next rest => exact .other start rfl (by simp)
  · cases hHeader : headerPiece? start text with
    | none => exact isPiece_grammarPiece start hText
    | some found => exact isPiece_of_headerPiece? hHeader

/-- What the gaps of a text leave over is made of the texts of trees. -/
inductive Covers : List Char → List SyntaxTree → Prop where
  | done {text : List Char} (hGap : (splitGap text).2 = []) : Covers text []
  | piece {text gap rest : List Char} {tree : SyntaxTree} {trees : List SyntaxTree}
      (hGap : splitGap text = (gap, tree.text ++ rest)) (hRest : Covers rest trees) :
      Covers text (tree :: trees)

/-- Trees of other text than declarations. -/
def SyntaxTree.IsOther (tree : SyntaxTree) : Prop :=
  tree.kind = .other ∧ tree.children = []

/-- Trees at the top of source text without faults. -/
def IsSound (tree : SyntaxTree) : Prop :=
  (∃ layout, tree.IsLaidOutAs layout) ∨ tree.kind = .other

theorem IsPiece.isSound {text : List Char} {piece : Piece} (h : IsPiece text piece)
    (hSound : piece.tree.hasFault = false) :
    IsSound piece.tree ∧ text = piece.tree.text ++ piece.rest ∧ piece.tree.text ≠ [] := by
  cases h with
  | header start annotations layout rest hText =>
    refine ⟨.inl ⟨layout, isLaidOutAs_tree start annotations layout⟩, ?_, ?_⟩
    · rw [hText, ← List.append_assoc]
      rfl
    · exact List.append_ne_nil_of_right_ne_nil annotations layout.text_ne_nil
  | other start hText hRead => exact ⟨.inr rfl, hText, hRead⟩
  | fault hFault =>
    obtain ⟨⟨kind, start, text, children⟩, read, rest⟩ := piece
    rw [SyntaxTree.hasFault, Bool.or_eq_false_iff] at hSound
    rw [show kind.isFault = true from hFault] at hSound
    cases hSound.1

theorem sound_pieces {fuel : Nat} {position : Position} {text : List Char}
    (hFuel : text.length ≤ fuel)
    (hSound : ∀ tree ∈ pieces fuel position text, tree.hasFault = false) :
    Covers text (pieces fuel position text) ∧ ∀ tree ∈ pieces fuel position text, IsSound tree := by
  induction fuel generalizing position text with
  | zero =>
    rw [List.eq_nil_of_length_eq_zero (Nat.eq_zero_of_le_zero hFuel)]
    exact ⟨.done rfl, List.forall_mem_nil _⟩
  | succ fuel ih =>
    rw [pieces] at hSound ⊢
    generalize hGap : splitGap text = parts at hSound ⊢
    obtain ⟨gap, rest⟩ := parts
    dsimp only at hSound ⊢
    split at hSound
    · next hEmpty =>
      rw [if_pos hEmpty]
      exact ⟨.done (by rw [hGap]; exact List.isEmpty_iff.1 hEmpty), List.forall_mem_nil _⟩
    · next hSome =>
      rw [if_neg hSome]
      rw [List.forall_mem_cons] at hSound
      have hPiece := isPiece_piece (position.afterAll gap) (mt List.isEmpty_iff.2 hSome)
      obtain ⟨hTree, hText, hRead⟩ := hPiece.isSound hSound.1
      have hShort : (piece (position.afterAll gap) rest).rest.length ≤ fuel := by
        have hWhole := congrArg List.length (append_of_splitGap hGap)
        have hRest := congrArg List.length hText
        have hSome := List.length_pos_iff.2 hRead
        simp only [List.length_append] at hWhole hRest
        omega
      obtain ⟨hCovers, hTrees⟩ := ih hShort hSound.2
      have hCut := hGap.trans (congrArg (Prod.mk gap) hText)
      exact ⟨.piece hCut hCovers, List.forall_mem_cons.2 ⟨hTree, hTrees⟩⟩

/-! ## Declarations -/

theorem kind_of_isLaidOutAs {tree : SyntaxTree} {layout : HeaderLayout}
    (h : tree.IsLaidOutAs layout) : tree.kind ≠ .other := by
  rw [h.kind]
  cases layout.form.isImport <;> decide

theorem declaration?_of_isLaidOutAs {tree : SyntaxTree} {layout : HeaderLayout}
    (h : tree.IsLaidOutAs layout) : declaration? tree = some layout.declaration := by
  obtain ⟨name, hName, hText⟩ := Option.map_eq_some_iff.1 h.name
  rw [declaration?, hName, HeaderLayout.declaration, declarationOf, ← hText]
  cases hImport : layout.form.isImport <;> simp [h.kind, hImport]

theorem declaration?_of_kind_other {tree : SyntaxTree} (h : tree.kind = .other) :
    declaration? tree = none := by
  unfold declaration?
  split
  · rfl
  · rw [h]

/-- The trees of package and import declarations. -/
def headerTrees (trees : List SyntaxTree) : List SyntaxTree :=
  trees.filter fun tree => tree.kind ≠ .other

theorem headerTrees_cons (tree : SyntaxTree) (more : List SyntaxTree) :
    headerTrees (tree :: more) =
      if tree.kind = .other then headerTrees more else tree :: headerTrees more := by
  rw [headerTrees, List.filter_cons]
  by_cases hKind : tree.kind = .other <;> simp [hKind, headerTrees]

/-- The layouts of the package and import declarations at the top of a tree, in order. -/
def SyntaxTree.HasLayouts (tree : SyntaxTree) (layouts : List HeaderLayout) : Prop :=
  List.Forall₂ SyntaxTree.IsLaidOutAs (headerTrees tree.children) layouts

/-- The layouts of the package and import declarations at the top of a source file, in order. -/
def HasLayouts (source : String) (layouts : List HeaderLayout) : Prop :=
  (parse source).HasLayouts layouts

theorem exists_layouts {trees : List SyntaxTree} (hSound : ∀ tree ∈ trees, IsSound tree) :
    ∃ layouts, List.Forall₂ SyntaxTree.IsLaidOutAs (headerTrees trees) layouts := by
  induction trees with
  | nil => exact ⟨[], .nil⟩
  | cons tree more ih =>
    rw [List.forall_mem_cons] at hSound
    obtain ⟨layouts, hMore⟩ := ih hSound.2
    rcases hSound.1 with ⟨layout, hLayout⟩ | hKind
    · rw [headerTrees_cons, if_neg (kind_of_isLaidOutAs hLayout)]
      exact ⟨layout :: layouts, .cons hLayout hMore⟩
    · rw [headerTrees_cons, if_pos hKind]
      exact ⟨layouts, hMore⟩

/-- The trees of a source file make the declarations of their layouts. -/
theorem filterMap_declaration? {trees : List SyntaxTree} {layouts : List HeaderLayout}
    (hSound : ∀ tree ∈ trees, IsSound tree)
    (h : List.Forall₂ SyntaxTree.IsLaidOutAs (headerTrees trees) layouts) :
    trees.filterMap declaration? = layouts.map HeaderLayout.declaration := by
  induction trees generalizing layouts with
  | nil =>
    cases h
    rfl
  | cons tree more ih =>
    rw [List.forall_mem_cons] at hSound
    rcases hSound.1 with ⟨layout, hLayout⟩ | hKind
    · rw [headerTrees_cons, if_neg (kind_of_isLaidOutAs hLayout)] at h
      cases h with
      | cons hFirst hMore =>
        rw [List.filterMap_cons_some (declaration?_of_isLaidOutAs hFirst), ih hSound.2 hMore,
          List.map_cons]
    · rw [headerTrees_cons, if_pos hKind] at h
      rw [List.filterMap_cons_none (declaration?_of_kind_other hKind)]
      exact ih hSound.2 h

/-- The text of a source file without a byte order mark at its very front. -/
def unmarked (source : String) : List Char :=
  match source.toList with
  | '\ufeff' :: text => text
  | text => text

theorem length_unmarked_le (source : String) :
    (unmarked source).length ≤ source.toList.length := by
  unfold unmarked
  split
  · next text hText => simp [hText]
  · exact Nat.le_refl _

theorem exists_children_parse (source : String) : ∃ start,
    (parse source).children = pieces source.toList.length start (unmarked source) := by
  let mark := source.toList.takeWhile (· = '\ufeff') |>.take 1
  have hText : source.toList.drop mark.length = unmarked source := by
    simp only [mark, unmarked]
    split
    · next text hText => simp [hText]
    · next hNone =>
      cases hText : source.toList with
      | nil => rfl
      | cons c rest =>
        have hOther : c ≠ '\ufeff' := fun hMark => hNone rest (hText.trans (hMark ▸ rfl))
        simp [hOther]
  exact ⟨_, congrArg (pieces source.toList.length (Position.front.afterAll mark)) hText⟩

theorem hasFault_parse_eq_false_iff (source : String) :
    (parse source).hasFault = false ↔
      ∀ tree ∈ (parse source).children, tree.hasFault = false := by
  rw [← SyntaxTree.anyFault_eq_false_iff]
  rfl

theorem sound_parse {source : String} (h : (parse source).hasFault = false) :
    Covers (unmarked source) (parse source).children ∧
      ∀ tree ∈ (parse source).children, IsSound tree := by
  obtain ⟨start, hChildren⟩ := exists_children_parse source
  rw [hasFault_parse_eq_false_iff] at h
  rw [hChildren] at h ⊢
  exact sound_pieces (length_unmarked_le source) h

theorem HeaderLayout.name_declaration (layout : HeaderLayout) :
    layout.declaration.name = String.ofList (Unicode.withoutBlanks layout.name.text) := by
  rw [HeaderLayout.declaration, declarationOf]
  cases layout.form.isImport <;> rfl

theorem map_declaration_eq_iff (layouts : List HeaderLayout) :
    layouts.map HeaderLayout.declaration = layouts.map (fun layout => layout.tokens.declaration) ↔
      ∀ layout ∈ layouts, layout.name.IsPlain := by
  rw [List.map_inj_left]
  exact forall₂_congr fun layout _ => layout.declaration_eq_iff

/-! ## Parsers that lay out declarations -/

/-- Parsers with a node for each package and import declaration of the files they accept, in which
    the text of the name runs from the first identifier to the last. -/
def Parser.LaysOut (parser : Parser) : Prop :=
  ∀ {source tree}, parser source = .ok tree → tree.hasFault = false →
    ∀ child ∈ tree.children, IsSound child

theorem laysOut_java : Java.parser.LaysOut := by
  intro source tree hTree hSound
  cases hTree
  exact (sound_parse hSound).2

namespace Parser.LaysOut

variable {parser : Parser} (hParser : parser.LaysOut) {source : String} {tree : SyntaxTree}
  (hTree : parser source = .ok tree) {declarations : List Declaration}
  (h : tree.declarations = .ok declarations)
include hParser hTree h

theorem exists_hasLayouts : ∃ layouts, tree.HasLayouts layouts :=
  exists_layouts (hParser hTree (SyntaxTree.declarations_eq_ok_iff.1 h).1)

theorem declarations_eq_map {layouts : List HeaderLayout} (hLayouts : tree.HasLayouts layouts) :
    declarations = layouts.map HeaderLayout.declaration := by
  obtain ⟨hSound, rfl⟩ := SyntaxTree.declarations_eq_ok_iff.1 h
  exact filterMap_declaration? (hParser hTree hSound) hLayouts

/-- What is declared by the layouts that a parser finds. The names are reported as they are laid out
    but for their blanks. -/
theorem names_of_layouts {layouts : List HeaderLayout} (hLayouts : tree.HasLayouts layouts) :
    declarations = layouts.map HeaderLayout.declaration ∧
    -- they are the identifiers joined by dots exactly if no comment stands inside a name
    (declarations = layouts.map (fun layout => layout.tokens.declaration) ↔
      ∀ layout ∈ layouts, layout.name.IsPlain) ∧
    -- and then nothing but dots and identifiers is reported
    ((∀ declaration ∈ declarations, ∀ c ∈ declaration.name.toList, c = '.' ∨ continuesWord c) ↔
      ∀ layout ∈ layouts, layout.name.IsPlain) ∧
    -- so among sources without such comments the tokens alone decide
    ∀ source' tree' declarations' layouts', parser source' = .ok tree' →
      tree'.declarations = .ok declarations' → tree'.HasLayouts layouts' →
      layouts.map HeaderLayout.tokens = layouts'.map HeaderLayout.tokens →
      (∀ layout ∈ layouts ++ layouts', layout.name.IsPlain) → declarations = declarations' := by
  obtain rfl := hParser.declarations_eq_map hTree h hLayouts
  refine ⟨rfl, map_declaration_eq_iff layouts, ?_, ?_⟩
  · rw [List.forall_mem_map]
    refine forall₂_congr fun layout _ => ?_
    rw [layout.name_declaration, String.toList_ofList, forall_withoutBlanks_text_iff]
  · intro source' tree' declarations' layouts' hTree' h' hLayouts' hTokens hPlain
    rw [List.forall_mem_append] at hPlain
    rw [hParser.declarations_eq_map hTree' h' hLayouts',
      (map_declaration_eq_iff layouts).2 hPlain.1, (map_declaration_eq_iff layouts').2 hPlain.2]
    have hSame := congrArg (List.map HeaderTokens.declaration) hTokens
    rw [List.map_map, List.map_map] at hSame
    exact hSame

end Parser.LaysOut

/-! ## Declarations one after another -/

/-- A declaration with the gap in front of it. -/
structure PlacedHeader where
  gap : Gap
  layout : HeaderLayout

/-- The text of a declaration and the gap in front of it. -/
def PlacedHeader.text (header : PlacedHeader) : List Char :=
  header.gap.text ++ header.layout.text

theorem PlacedHeader.text_ne_nil (header : PlacedHeader) : header.text ≠ [] :=
  List.append_ne_nil_of_right_ne_nil _ header.layout.text_ne_nil

theorem packageAnnotations?_eq_none {text : List Char} (h : StartsWord text) :
    packageAnnotations? text = none := by
  obtain ⟨c, rest, rfl, hStarts⟩ := h
  unfold packageAnnotations?
  split
  · next heq =>
    obtain ⟨rfl, -⟩ := List.cons.inj heq
    exact absurd hStarts (by decide)
  · rfl

theorem piece_eq_of_startsWord {start : Position} {text : List Char} (h : StartsWord text) :
    piece start text = (headerPiece? start text).getD (grammarPiece start text) := by
  obtain ⟨c, rest, rfl, hStarts⟩ := h
  unfold piece
  split
  · next heq =>
    obtain ⟨rfl, -⟩ := List.cons.inj heq
    exact absurd hStarts (by decide)
  · rfl

theorem piece_layout (start : Position) (layout : HeaderLayout) (rest : List Char) :
    piece start (layout.text ++ rest) = ⟨layout.line.tree start [], layout.text, rest⟩ := by
  have hStarts := layout.startsWord rest
  rw [piece_eq_of_startsWord hStarts, headerPiece?, packageAnnotations?_eq_none hStarts]
  simp only [Option.getD_none, List.length_nil, List.drop_zero, List.nil_append,
    splitHeaderLine?_append, Option.map_some, Option.getD_some]
  rfl

theorem pieces_of_isSpace {fuel : Nat} (position : Position) {text : List Char}
    (h : ∀ c ∈ text, isSpace c) : pieces fuel position text = [] := by
  have hGap := @splitGap_append text [] (isGap_of_isSpace h) rfl
  rw [List.append_nil] at hGap
  cases fuel with
  | zero => rfl
  | succ fuel => simp [pieces, hGap]

theorem HeaderLine.hasFault_tree (line : HeaderLine) (start : Position)
    (annotations : List Char) : (line.tree start annotations).hasFault = false := by
  cases hImport : line.isImport <;>
    simp [HeaderLine.tree, SyntaxTree.hasFault, SyntaxTree.anyFault, SyntaxKind.isFault, hImport]

theorem SyntaxTree.IsOther.hasFault {tree : SyntaxTree} (h : tree.IsOther) :
    tree.hasFault = false := by
  obtain ⟨kind, start, text, children⟩ := tree
  obtain ⟨rfl, rfl⟩ := h
  rfl

/-- A declaration at the front of a text is read as one piece. -/
theorem pieces_header (fuel : Nat) (position : Position) (header : PlacedHeader)
    (rest : List Char) : ∃ tree next, tree.IsLaidOutAs header.layout ∧ tree.hasFault = false ∧
      pieces (fuel + 1) position (header.text ++ rest) = tree :: pieces fuel next rest := by
  have hStarts := header.layout.startsWord rest
  let start := position.afterAll header.gap.text
  refine ⟨_, start.afterAll header.layout.text, isLaidOutAs_tree start [] header.layout,
    header.layout.line.hasFault_tree start [], ?_⟩
  rw [PlacedHeader.text, List.append_assoc, pieces, splitGap_gap header.gap hStarts.startsLexeme]
  simp only [hStarts.isEmpty, piece_layout, Bool.false_eq_true, if_false, start]

/-- So are the declarations at the front of a text, one after another. -/
theorem pieces_headers {fuel : Nat} (position : Position) {headers : List PlacedHeader}
    (rest : List Char) (hFuel : headers.length ≤ fuel) : ∃ trees next,
      List.Forall₂ SyntaxTree.IsLaidOutAs trees (headers.map PlacedHeader.layout) ∧
      (∀ tree ∈ trees, tree.hasFault = false) ∧
      pieces fuel position (headers.flatMap PlacedHeader.text ++ rest) =
        trees ++ pieces (fuel - headers.length) next rest := by
  induction headers generalizing fuel position with
  | nil => exact ⟨[], position, .nil, List.forall_mem_nil _, rfl⟩
  | cons header more ih =>
    obtain ⟨fuel, rfl⟩ := Nat.exists_eq_add_one.2 (Nat.lt_of_lt_of_le (by simp) hFuel)
    obtain ⟨tree, next, hTree, hSound, hFirst⟩ :=
      pieces_header fuel position header (more.flatMap PlacedHeader.text ++ rest)
    obtain ⟨trees, last, hTrees, hAllSound, hMore⟩ := ih next (Nat.le_of_succ_le_succ hFuel)
    refine ⟨tree :: trees, last, .cons hTree hTrees, List.forall_mem_cons.2 ⟨hSound, hAllSound⟩, ?_⟩
    rw [List.flatMap_cons, List.append_assoc, hFirst, hMore, List.length_cons,
      Nat.add_sub_add_right, List.cons_append]

theorem headerTrees_append_others {trees others : List SyntaxTree} {layouts : List HeaderLayout}
    (h : List.Forall₂ SyntaxTree.IsLaidOutAs trees layouts)
    (hOthers : ∀ tree ∈ others, tree.IsOther) : headerTrees (trees ++ others) = trees := by
  induction h with
  | nil => exact List.filter_eq_nil_iff.2 fun tree hMem => by simp [(hOthers tree hMem).1]
  | cons hTree _ ih =>
    rw [List.cons_append, headerTrees_cons, if_neg (kind_of_isLaidOutAs hTree), ih]

/-- A source file of declarations, with text behind them that makes none, is read as laid out. -/
theorem parse_of_headers {source : String} {headers : List PlacedHeader} {rest : List Char}
    (hText : unmarked source = headers.flatMap PlacedHeader.text ++ rest)
    (hRest : ∀ fuel position, rest.length ≤ fuel →
      ∀ tree ∈ pieces fuel position rest, tree.IsOther) :
    (parse source).hasFault = false ∧ HasLayouts source (headers.map PlacedHeader.layout) := by
  obtain ⟨start, hChildren⟩ := exists_children_parse source
  have hLength : headers.length + rest.length ≤ source.toList.length := by
    have hSource := length_unmarked_le source
    have hHeaders := length_le_flatMap PlacedHeader.text_ne_nil headers
    rw [hText, List.length_append] at hSource
    omega
  obtain ⟨trees, next, hTrees, hSound, hPieces⟩ :=
    pieces_headers start rest (Nat.le_of_add_right_le hLength)
  have hOthers := hRest (source.toList.length - headers.length) next (by omega)
  rw [hText, hPieces] at hChildren
  constructor
  · rw [hasFault_parse_eq_false_iff, hChildren, List.forall_mem_append]
    exact ⟨hSound, fun tree hMem => (hOthers tree hMem).hasFault⟩
  · rw [HasLayouts, SyntaxTree.HasLayouts, hChildren, headerTrees_append_others hTrees hOthers]
    exact hTrees

/-- No white space and no comment. -/
def noGap : Gap := ⟨[], .nil⟩

/-- A source file of one declaration. -/
theorem declarations_of_one {source : String} (layout : HeaderLayout)
    (hText : unmarked source = layout.text) :
    HasLayouts source [layout] ∧ Java.declarations source = .ok [layout.declaration] := by
  have hNone (fuel : Nat) (position : Position) (_ : ([] : List Char).length ≤ fuel) :
      ∀ tree ∈ pieces fuel position [], tree.IsOther := by
    rw [pieces_of_isSpace position (List.forall_mem_nil _)]
    exact nofun
  have hOne : unmarked source = [PlacedHeader.mk noGap layout].flatMap PlacedHeader.text ++ [] := by
    simp [hText, PlacedHeader.text, noGap]
  obtain ⟨hSound, hLayouts⟩ := parse_of_headers hOne hNone
  refine ⟨hLayouts, SyntaxTree.declarations_eq_ok_iff.2 ⟨hSound, ?_⟩⟩
  exact filterMap_declaration? (sound_parse hSound).2 hLayouts

/-- Which names a source file declares. Pieces cover its text, and those of the package and import
    declarations have layouts. The names reported are those of the layouts, in order, as written but
    for their blanks. -/
theorem declarations_of_layouts {source : String} {declarations : List Declaration}
    (h : Java.declarations source = .ok declarations) :
    Covers (unmarked source) (parse source).children ∧ (∃ layouts, HasLayouts source layouts) ∧
    (∀ declaration ∈ declarations, ∀ c ∈ declaration.name.toList, Unicode.isBlank c = false) ∧
    ∀ layouts, HasLayouts source layouts →
      declarations = layouts.map HeaderLayout.declaration ∧
      -- they are the identifiers joined by dots exactly if no comment stands inside a name
      (declarations = layouts.map (fun layout => layout.tokens.declaration) ↔
        ∀ layout ∈ layouts, layout.name.IsPlain) ∧
      -- and then nothing but dots and identifiers is reported
      ((∀ declaration ∈ declarations, ∀ c ∈ declaration.name.toList, c = '.' ∨ continuesWord c) ↔
        ∀ layout ∈ layouts, layout.name.IsPlain) ∧
      -- so among sources without such comments the tokens alone decide
      ∀ source' declarations' layouts', Java.declarations source' = .ok declarations' →
        HasLayouts source' layouts' →
        layouts.map HeaderLayout.tokens = layouts'.map HeaderLayout.tokens →
        (∀ layout ∈ layouts ++ layouts', layout.name.IsPlain) → declarations = declarations' := by
  have hSound := (SyntaxTree.declarations_eq_ok_iff.1 h).1
  refine ⟨(sound_parse hSound).1, laysOut_java.exists_hasLayouts rfl h,
    fun declaration hMem => ?_, fun layouts hLayouts => ?_⟩
  · exact (isBare_of_mem_declarations h declaration hMem).noBlank
  · obtain ⟨hNames, hTokens, hSigns, hSame⟩ := laysOut_java.names_of_layouts rfl h hLayouts
    exact ⟨hNames, hTokens, hSigns, fun source' declarations' layouts' =>
      hSame source' (parse source') declarations' layouts' rfl⟩

/-- A single space. -/
def oneSpace : Gap := ⟨[' '], isGap_of_isSpace (List.forall_mem_singleton.2 (by decide))⟩

/-- A single space that keeps two words apart. -/
def wideSpace : WideGap := ⟨oneSpace, by decide⟩

/-- An import of `a.b` with gaps around the dot. -/
def importOfTwo (beforeDot afterDot : Gap) : HeaderLayout where
  form := .imports none none
  lead := wideSpace
  name := ⟨⟨['a'], isWord_cons (by decide) rfl⟩,
    [⟨beforeDot, afterDot, ⟨['b'], isWord_cons (by decide) rfl⟩⟩]⟩
  last := ⟨[], .nil⟩
  first_ne := fun _ _ => by
    change ['a'] ≠ "static".toList
    decide

/-- A comment. -/
def comment : Gap where
  text := "/* c; */".toList
  isGap := @IsGap.block " c; ".toList [] (by decide) (by decide) .nil

/-- White space inside a name does not show. -/
theorem declarations_of_layouts_spaced :
    Java.declarations "import a . b;" = .ok [.imports "a.b"] ∧
    HasLayouts "import a . b;" [importOfTwo oneSpace oneSpace] ∧
    [Declaration.imports "a.b"] = [(importOfTwo oneSpace oneSpace).tokens.declaration] ∧
    ∀ source' declarations' layouts', Java.declarations source' = .ok declarations' →
      HasLayouts source' layouts' →
      [(importOfTwo oneSpace oneSpace).tokens] = layouts'.map HeaderLayout.tokens →
      (∀ layout ∈ layouts', layout.name.IsPlain) → [Declaration.imports "a.b"] = declarations' := by
  obtain ⟨hLayouts, hDeclarations⟩ :=
    @declarations_of_one "import a . b;" (importOfTwo oneSpace oneSpace) rfl
  have hPlain : ∀ layout ∈ [importOfTwo oneSpace oneSpace], layout.name.IsPlain :=
    List.forall_mem_singleton.2 (by decide)
  obtain ⟨-, hIff, -, hSame⟩ := (declarations_of_layouts hDeclarations).2.2.2 _ hLayouts
  refine ⟨hDeclarations, hLayouts, hIff.2 hPlain, fun source' declarations' layouts' h' hLayouts'
    hTokens hPlain' => ?_⟩
  exact hSame source' declarations' layouts' h' hLayouts' hTokens
    (List.forall_mem_append.2 ⟨hPlain, hPlain'⟩)

/-- A comment inside a name is reported with it, so the same tokens make different declarations. -/
theorem declarations_keep_comment :
    (HasLayouts "import a.b;" [importOfTwo noGap noGap] ∧
      Java.declarations "import a.b;" = .ok [.imports "a.b"]) ∧
    (HasLayouts "import a./* c; */b;" [importOfTwo noGap comment] ∧
      Java.declarations "import a./* c; */b;" = .ok [.imports "a./*c;*/b"]) ∧
    (importOfTwo noGap comment).tokens = (importOfTwo noGap noGap).tokens ∧
    (importOfTwo noGap comment).tokens.declaration = .imports "a.b" := by
  exact ⟨declarations_of_one _ rfl, declarations_of_one _ rfl, rfl, rfl⟩

end JavaImports.Java
