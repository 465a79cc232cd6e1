-- SUMMARY: Reading a Java file undoes writing its package, its imports and an empty class.
import JavaImports.Java.Language
import JavaImports.Proofs.Java.Lexing
import JavaImports.Proofs.Java.Source

/-! # Reading what was written

A file that declares a package and imports, in any layout without comments inside the names, and
maybe an empty class, stands for the unit and imports the symbols that were written. -/

namespace JavaImports.Java

/-! ## Empty classes -/

/-- A class without members: the gaps between its words and braces, and its name, which is no word
    of the grammar. -/
structure ClassLayout where
  afterWord : WideGap
  name : Identifier
  beforeOpen : Gap
  beforeClose : Gap
  notGrammarWord : ∀ c, Terminal.word (String.ofList name.text) ∉ (grammar c).terminals

namespace ClassLayout

/-- The text of a class. -/
def text (layout : ClassLayout) : List Char :=
  "class".toList ++ (layout.afterWord.text ++ (layout.name.text ++ (layout.beforeOpen.text ++
    '\x7b' :: (layout.beforeClose.text ++ ['\x7d']))))

/-- Classes with white space alone between their words and braces. -/
def IsPlain (layout : ClassLayout) : Prop :=
  layout.afterWord.IsPlain ∧ layout.beforeOpen.IsPlain ∧ layout.beforeClose.IsPlain

end ClassLayout

/-- The word of a class. -/
def classWord : Identifier where
  text := "class".toList
  isWord := @isWord_cons 'c' "lass".toList (by decide) (by decide)

section EmptyClass

variable {network : Network} (layout : ClassLayout) {rest : List Char}

namespace ClassLayout

/-- The text of a class up to its name. -/
def throughName : List Char :=
  "class".toList ++ (layout.afterWord.text ++ layout.name.text)

/-- The text of a class up to the brace that opens it. -/
def throughOpen : List Char :=
  layout.throughName ++ (layout.beforeOpen.text ++ ['\x7b'])

theorem text_append : layout.text ++ rest =
    "class".toList ++ (layout.afterWord.text ++ (layout.name.text ++ (layout.beforeOpen.text ++
      '\x7b' :: (layout.beforeClose.text ++ '\x7d' :: rest)))) := by
  unfold text
  simp only [List.append_assoc, List.cons_append, List.nil_append]

theorem text_append_throughName : layout.text ++ rest = layout.throughName ++
    (layout.beforeOpen.text ++ '\x7b' :: (layout.beforeClose.text ++ '\x7d' :: rest)) := by
  unfold throughName
  rw [text_append, List.append_assoc, List.append_assoc]

theorem text_append_throughOpen : layout.text ++ rest =
    layout.throughOpen ++ (layout.beforeClose.text ++ '\x7d' :: rest) := by
  unfold throughOpen
  rw [text_append_throughName]
  simp only [List.append_assoc, List.cons_append, List.nil_append]

theorem text_ne_nil : layout.text ≠ [] := by
  unfold text
  simp

end ClassLayout

/-- The grammar derives an empty class at the front of a text. -/
theorem derives_class {pending : List (Nat × Item)} {start final : Reading}
    (h : Reading.Grown network .topLevel (layout.text ++ rest) 0 pending start final) :
    Derives (Reading.Carries network final) (grammar .topLevel) 0 layout.text.length := by
  have hClass : Reading.Carries network final (.word "class") 0 "class".toList.length := by
    have hDash : '-' ∉ (layout.afterWord.text ++ (layout.name.text ++ (layout.beforeOpen.text ++
        '\x7b' :: (layout.beforeClose.text ++ '\x7d' :: rest)))).head? :=
      layout.afterWord.isGap.not_mem_head? (by decide) (by decide)
        ((layout.name.isWord.startsWord _).not_mem_head? (by decide))
    exact carries_word h noGap classWord (layout.afterWord.endsWord _) hDash
      (show _ = [] ++ _ from layout.text_append)
  have hName : Reading.Carries network final .identifier "class".toList.length
      layout.throughName.length := by
    have hDash : '-' ∉ (layout.beforeOpen.text ++
        '\x7b' :: (layout.beforeClose.text ++ '\x7d' :: rest)).head? :=
      layout.beforeOpen.isGap.not_mem_head? (by decide) (by decide) (by simp)
    have hEnds := layout.beforeOpen.endsWord <|
      endsWord_cons (c := '\x7b') (by decide) (layout.beforeClose.text ++ '\x7d' :: rest)
    unfold ClassLayout.throughName
    rw [List.length_append, List.length_append]
    exact carries_identifier h layout.afterWord.toGap layout.name hEnds hDash
      layout.notGrammarWord layout.text_append
  have hOpen : Reading.Carries network final (.sign "\x7b") layout.throughName.length
      layout.throughOpen.length := by
    rw [ClassLayout.throughOpen, List.length_append, List.length_append]
    exact carries_brace h layout.beforeOpen (.inl rfl) rfl layout.text_append_throughName
  have hClose : Reading.Carries network final (.sign "\x7d") layout.throughOpen.length
      layout.text.length := by
    have hText := congrArg List.length (@ClassLayout.text_append_throughOpen layout [])
    rw [List.append_nil, List.length_append, List.length_append] at hText
    rw [hText]
    exact carries_brace h layout.beforeClose (.inr rfl) rfl layout.text_append_throughOpen
  have hBody : Derives (Reading.Carries network final) (grammar .classBody)
      layout.throughName.length layout.text.length :=
    .cons (.terminal hOpen) (.cons .done (.cons (.terminal hClose) .nil))
  have hBodySome : layout.throughName.length < layout.text.length := by
    have hText := congrArg List.length (@ClassLayout.text_append_throughName layout [])
    simp only [List.append_nil, List.length_append, List.length_cons] at hText
    omega
  have hDeclaration : Derives (Reading.Carries network final) (grammar .classDeclaration) 0
      layout.text.length :=
    .cons .omitted <| .cons (.terminal hClass) <| .cons (.terminal hName) <| .cons .omitted <|
      .cons .omitted <| .cons .omitted <| .cons .omitted <| .cons (.category hBodySome hBody) .nil
  have hSome : 0 < layout.text.length := Nat.zero_lt_of_lt hBodySome
  have hAny : Derives (Reading.Carries network final) (grammar .declaration) 0
      layout.text.length := .choice (by simp) (.category hSome hDeclaration)
  have hStatement : Derives (Reading.Carries network final) (grammar .statement) 0
      layout.text.length := .choice (List.mem_cons_self ..) (.category hSome hAny)
  exact .choice (List.mem_cons_self ..) (.category hSome hStatement)

end EmptyClass

/-! ## What is read behind the declarations -/

theorem not_mem_of_isPlain {gap : Gap} (h : gap.IsPlain) : '"' ∉ gap.text := fun hMem =>
  absurd (h _ hMem) (by decide)

namespace ClassLayout

variable {layout : ClassLayout} {rest : List Char}

theorem not_mem_text (h : layout.IsPlain) : '"' ∉ layout.text := by
  obtain ⟨hWord, hOpen, hClose⟩ := h
  have hName : '"' ∉ layout.name.text := fun hMem =>
    absurd (layout.name.isWord.continuesWord hMem) (by decide)
  unfold text
  simp only [List.mem_append, List.mem_cons, List.not_mem_nil, or_false, not_or]
  exact ⟨by decide, not_mem_of_isPlain hWord, hName, not_mem_of_isPlain hOpen, by decide,
    not_mem_of_isPlain hClose, by decide⟩

theorem splitWord?_text (layout : ClassLayout) (rest : List Char) :
    ∃ after, splitWord? (layout.text ++ rest) = some ("class".toList, after) := by
  rw [layout.text_append]
  exact ⟨_, splitWord?_append classWord.isWord (layout.afterWord.endsWord _)⟩

theorem startsWord (layout : ClassLayout) (rest : List Char) :
    StartsWord (layout.text ++ rest) := by
  rw [layout.text_append]
  exact classWord.isWord.startsWord _

end ClassLayout

variable {layout : ClassLayout} {rest : List Char}

theorem complete?_class (hQuote : '"' ∉ layout.text ++ rest) : ∃ n ≥ layout.text.length,
    (Reading.ofText network .topLevel (layout.text ++ rest)).complete? = some n :=
  Reading.complete?_of_derives isOutside_entry spellsCategory_ofGrammar hQuote <|
    derives_class layout (Reading.grown_ofText isOutside_entry .topLevel hQuote)

theorem headerPiece?_class (start : Position) (layout : ClassLayout) (rest : List Char) :
    headerPiece? start (layout.text ++ rest) = none := by
  obtain ⟨after, hWord⟩ := layout.splitWord?_text rest
  have hHeader : splitHeaderLine? (layout.text ++ rest) = none := by
    rw [splitHeaderLine?, hWord]
    rfl
  rw [headerPiece?, packageAnnotations?_eq_none (layout.startsWord rest)]
  simp only [Option.getD_none, List.length_nil, List.drop_zero, hHeader, Option.map_none]

/-- A class at the front of a text is read as one piece, maybe with some of the text behind it. -/
theorem piece_class (start : Position) (hQuote : '"' ∉ layout.text ++ rest) :
    ∃ n ≥ layout.text.length, piece start (layout.text ++ rest) =
      ⟨.node .other start ((layout.text ++ rest).take n) [], (layout.text ++ rest).take n,
        (layout.text ++ rest).drop n⟩ := by
  obtain ⟨after, hWord⟩ := layout.splitWord?_text rest
  obtain ⟨n, hLong, hComplete⟩ := complete?_class hQuote
  have hStarts : startsHeaderLine (layout.text ++ rest) = false := by
    rw [startsHeaderLine, hWord]
    rfl
  have hSome : n ≠ 0 := by
    have hText := List.length_pos_iff.2 layout.text_ne_nil
    omega
  refine ⟨n, hLong, ?_⟩
  rw [piece_eq_of_startsWord (layout.startsWord rest), headerPiece?_class, Option.getD_none,
    grammarPiece]
  simp only [hStarts, hComplete, hSome, Bool.false_eq_true, if_false]

/-- A class with white space around it makes no declaration. -/
theorem pieces_class {fuel : Nat} {position : Position} (gap : Gap) {last : Gap}
    (hClass : layout.IsPlain) (hLast : last.IsPlain) :
    ∀ tree ∈ pieces fuel position (gap.text ++ (layout.text ++ last.text)), tree.IsOther := by
  cases fuel with
  | zero => exact nofun
  | succ fuel =>
    have hStarts := layout.startsWord last.text
    have hQuote : '"' ∉ layout.text ++ last.text := by
      rw [List.mem_append, not_or]
      exact ⟨ClassLayout.not_mem_text hClass, not_mem_of_isPlain hLast⟩
    obtain ⟨n, hLong, hPiece⟩ := piece_class (position.afterAll gap.text) hQuote
    have hRest : ∀ c ∈ (layout.text ++ last.text).drop n, isSpace c := by
      rw [List.drop_append, List.drop_eq_nil_of_le hLong, List.nil_append]
      exact fun c hMem => hLast c (List.mem_of_mem_drop hMem)
    rw [pieces, splitGap_gap gap hStarts.startsLexeme]
    simp only [hStarts.isEmpty, hPiece, Bool.false_eq_true, if_false, pieces_of_isSpace _ hRest]
    exact List.forall_mem_singleton.2 ⟨rfl, rfl⟩

/-! ## Source files -/

/-- A source file that declares a package, or none, and imports; behind them a class without members
    or nothing. -/
structure SourceLayout where
  package? : Option PlacedHeader
  imports : List PlacedHeader
  /-- The class, and the gap in front of it. -/
  class? : Option (Gap × ClassLayout)
  last : Gap
  package_form : ∀ header ∈ package?, header.layout.form.isImport = false
  imports_form : ∀ header ∈ imports, header.layout.form.isImport

/-- The name in a declaration: its identifiers joined by dots. -/
def PlacedHeader.name (header : PlacedHeader) : String :=
  String.ofList header.layout.name.dotted

namespace SourceLayout

variable (layout : SourceLayout)

/-- The declarations of a file. -/
def headers : List PlacedHeader :=
  layout.package?.toList ++ layout.imports

/-- The text behind the declarations. -/
def behind : List Char :=
  match layout.class? with
  | none => layout.last.text
  | some (gap, found) => gap.text ++ (found.text ++ layout.last.text)

/-- The text of a file. -/
def text : List Char :=
  layout.headers.flatMap PlacedHeader.text ++ layout.behind

/-- Files with white space alone inside the names and in the class and behind it. -/
structure IsPlain : Prop where
  names : ∀ header ∈ layout.headers, header.layout.name.IsPlain
  body : ∀ gap found, layout.class? = some (gap, found) → found.IsPlain
  last : layout.last.IsPlain

variable {layout}

theorem isOther_of_mem_pieces (h : layout.IsPlain) (fuel : Nat) (position : Position) :
    ∀ tree ∈ pieces fuel position layout.behind, tree.IsOther := by
  rw [behind]
  split
  · rw [pieces_of_isSpace position h.last]
    exact nofun
  · next gap found hClass => exact pieces_class gap (h.body gap found hClass) h.last

/-- No file starts with a byte order mark. -/
theorem not_mem_head?_text (layout : SourceLayout) : '\ufeff' ∉ layout.text.head? := by
  have hGap (gap : Gap) {rest : List Char} (hRest : '\ufeff' ∉ rest.head?) :
      '\ufeff' ∉ (gap.text ++ rest).head? :=
    gap.isGap.not_mem_head? (by decide) (by decide) hRest
  have hHeader (found : HeaderLayout) (rest : List Char) :
      '\ufeff' ∉ (found.text ++ rest).head? := by
    rw [found.text_append]
    cases found.form.isImport <;> simp [headerWord]
  have hClass (found : ClassLayout) (rest : List Char) : '\ufeff' ∉ (found.text ++ rest).head? := by
    rw [found.text_append]
    simp
  rw [text]
  cases layout.headers with
  | nil =>
    rw [List.flatMap_nil, List.nil_append, behind]
    split
    · have hLast := hGap layout.last (show '\ufeff' ∉ [].head? from nofun)
      rwa [List.append_nil] at hLast
    · next gap found _ => exact hGap gap (hClass found _)
  | cons header more =>
    rw [List.flatMap_cons, List.append_assoc, PlacedHeader.text, List.append_assoc]
    exact hGap header.gap (hHeader header.layout _)

end SourceLayout

theorem unmarked_ofList {text : List Char} (h : '\ufeff' ∉ text.head?) :
    unmarked (String.ofList text) = text := by
  unfold unmarked
  rw [String.toList_ofList]
  split
  · exact absurd rfl h
  · rfl

theorem ofDeclarations_append (path : String) (package? : Option String) (imports : List String) :
    SourceUnit.ofDeclarations path
        ((package?.map Declaration.package).toList ++ imports.map .imports) =
      ⟨unitName package? path, imports⟩ := by
  have hPackage : declaredPackage? (imports.map .imports) = none := by
    induction imports with
    | nil => rfl
    | cons symbol more ih => exact ih
  have hImports : declaredImports (imports.map .imports) = imports := by
    simp [declaredImports, List.filterMap_map]
  cases package? <;> simp_all [SourceUnit.ofDeclarations, declaredPackage?, declaredImports]

namespace SourceLayout

variable {layout : SourceLayout}

theorem map_declaration (h : layout.IsPlain) :
    (layout.headers.map fun header => header.layout.declaration) =
      ((layout.package?.map PlacedHeader.name).map Declaration.package).toList ++
        (layout.imports.map PlacedHeader.name).map .imports := by
  have hNames (header : PlacedHeader) (hMem : header ∈ layout.headers) :
      header.layout.declaration =
        declarationOf header.layout.form.isImport header.layout.name.dotted :=
    header.layout.declaration_eq_iff.2 (h.names header hMem)
  rw [List.map_congr_left hNames, headers, List.map_append, List.map_map]
  congr 1
  · cases hPackage : layout.package? with
    | none => rfl
    | some header =>
      have hForm := layout.package_form header hPackage
      simp [declarationOf, hForm, PlacedHeader.name]
  · refine List.map_congr_left fun header hMem => ?_
    rw [declarationOf, if_pos (layout.imports_form header hMem)]
    rfl

end SourceLayout

/-- Parsers that accept files as they are laid out, with one node for each declaration. -/
def Parser.ReadsLayouts (parser : Parser) : Prop :=
  ∀ layout : SourceLayout, layout.IsPlain → ∃ tree,
    parser (String.ofList layout.text) = .ok tree ∧ tree.hasFault = false ∧
      tree.HasLayouts (layout.headers.map PlacedHeader.layout)

theorem readsLayouts_java : Java.parser.ReadsLayouts := by
  intro layout hPlain
  have hText := unmarked_ofList layout.not_mem_head?_text
  exact ⟨parse (String.ofList layout.text), rfl,
    parse_of_headers hText fun fuel position _ => layout.isOther_of_mem_pieces hPlain fuel position⟩

namespace SourceLayout

/-- Reading a file gives back what was written: the unit within the package declared, and the names
    imported, in order and as often as they are, whatever marks stand next to them. Any parser that
    accepts such files will do, and the one here does. -/
theorem unit_text (layout : SourceLayout) (path : String) (h : layout.IsPlain) :
    (∀ parser : Parser, parser.LaysOut → parser.ReadsLayouts →
      parser.language.unit path (String.ofList layout.text) =
        .ok ⟨unitName (layout.package?.map PlacedHeader.name) path,
          layout.imports.map PlacedHeader.name⟩) ∧
    Language.java.unit path (String.ofList layout.text) =
      .ok ⟨unitName (layout.package?.map PlacedHeader.name) path,
        layout.imports.map PlacedHeader.name⟩ := by
  have hUnit (parser : Parser) (hParser : parser.LaysOut) (hReads : parser.ReadsLayouts) :
      parser.language.unit path (String.ofList layout.text) =
        .ok ⟨unitName (layout.package?.map PlacedHeader.name) path,
          layout.imports.map PlacedHeader.name⟩ := by
    obtain ⟨tree, hTree, hSound, hLayouts⟩ := hReads layout h
    have hRead : parser.declarations path (String.ofList layout.text) =
        .ok (layout.headers.map fun header => header.layout.declaration) := by
      refine Parser.declarations_eq_ok_iff.2 ⟨tree, hTree, ?_⟩
      refine SyntaxTree.declarations_eq_ok_iff.2 ⟨hSound, ?_⟩
      rw [filterMap_declaration? (hParser hTree hSound) hLayouts, List.map_map]
      rfl
    rw [map_declaration h] at hRead
    rw [← ofDeclarations_append]
    simp only [Language.unit, Parser.language, hRead]
    rfl
  exact ⟨hUnit, hUnit Java.parser laysOut_java readsLayouts_java⟩

/-- A line feed. -/
def lineFeed : Gap := ⟨['\n'], isGap_of_isSpace (List.forall_mem_singleton.2 (by decide))⟩

/-- An import of everything static in `a.b`. -/
def staticImportOfTwo : HeaderLayout :=
  { importOfTwo noGap noGap with
    form := .imports (some wideSpace) (some (noGap, oneSpace))
    first_ne := nofun }

/-- The class `X`. -/
def classX : ClassLayout where
  afterWord := wideSpace
  name := ⟨['X'], isWord_cons (by decide) rfl⟩
  beforeOpen := oneSpace
  beforeClose := noGap
  notGrammarWord := fun c => by cases c <;> decide

/-- A file with a package, imports of which two name the same, and a class. -/
def exampleFile : SourceLayout where
  package? := some ⟨noGap, { importOfTwo oneSpace noGap with form := .package, first_ne := nofun }⟩
  imports := [⟨lineFeed, importOfTwo noGap lineFeed⟩, ⟨lineFeed, staticImportOfTwo⟩]
  class? := some (lineFeed, classX)
  last := lineFeed
  package_form := by simp [HeaderForm.isImport]
  imports_form := by decide

/-- Names are reported once for each import. -/
theorem unit_text_twice : exampleFile.IsPlain ∧ Language.java.unit "src/F.java"
      "package a .b;\nimport a.\nb;\nimport static a.b. *;\nclass X \x7b\x7d\n" =
    .ok ⟨"a.b.F", ["a.b", "a.b"]⟩ := by
  have hPlain : exampleFile.IsPlain := by
    refine ⟨by decide, ?_, by decide⟩
    rintro gap found ⟨⟩
    exact ⟨by decide, by decide, by decide⟩
  exact ⟨hPlain, (exampleFile.unit_text "src/F.java" hPlain).2⟩

end SourceLayout

end JavaImports.Java
