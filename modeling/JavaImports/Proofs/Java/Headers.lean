-- SUMMARY: The package and import declarations of Java as they can be laid out.
import JavaImports.Java.Header
import JavaImports.Proofs.Java.Gaps
import JavaImports.Unicode.Blank
import JavaImports.Unit

/-! # Layouts of headers

A layout of a declaration says which words and signs it consists of and which gap stands in front of
each. A gap has to keep two words apart. The declarations that are split off at the front of a text
are the ones with a layout, and the text is the one that the layout spells. -/

namespace JavaImports.Java

/-! ## Layouts -/

/-- White space and comments, as written. -/
structure Gap where
  text : List Char
  isGap : IsGap text

/-- A gap that keeps two words apart. -/
structure WideGap extends Gap where
  nonempty : text ≠ []

/-- An identifier, as written. -/
structure Identifier where
  text : List Char
  isWord : IsWord text

/-- A dot and the identifier after it, with the gaps in front of both. -/
structure Qualifier where
  beforeDot : Gap
  afterDot : Gap
  segment : Identifier

/-- The text of a dot and an identifier. -/
def Qualifier.text (qualifier : Qualifier) : List Char :=
  qualifier.beforeDot.text ++ '.' :: (qualifier.afterDot.text ++ qualifier.segment.text)

/-- Identifiers with dots in between. -/
structure QualifiedName where
  first : Identifier
  qualifiers : List Qualifier

namespace QualifiedName

/-- The text of a name. -/
def text (name : QualifiedName) : List Char :=
  name.first.text ++ name.qualifiers.flatMap Qualifier.text

/-- The identifiers of a name. -/
def identifiers (name : QualifiedName) : List (List Char) :=
  name.first.text :: name.qualifiers.map fun qualifier => qualifier.segment.text

/-- The identifiers of a name, joined by single dots. -/
def dotted (name : QualifiedName) : List Char :=
  ['.'].intercalate name.identifiers

end QualifiedName

/-- The word `static`, for an import declaration that has one; a gap keeps it apart from the
    name. -/
def staticMark : Option WideGap → List Char
  | none => []
  | some gap => "static".toList ++ gap.text

theorem staticMark_none : staticMark none = [] := by
  unfold staticMark
  rfl

theorem staticMark_some (gap : WideGap) : staticMark (some gap) = "static".toList ++ gap.text := by
  unfold staticMark
  rfl

/-- The dot and the asterisk, for an import declaration that has them, with the gaps in front of
    both. -/
def onDemandMark : Option (Gap × Gap) → List Char
  | none => []
  | some (dot, asterisk) => dot.text ++ '.' :: (asterisk.text ++ ['*'])

/-- The two kinds of declarations, and the marks an import declaration may have. -/
inductive HeaderForm where
  | package
  | imports (static? : Option WideGap) (onDemand? : Option (Gap × Gap))

namespace HeaderForm

/-- Whether the form is that of an import declaration. -/
def isImport : HeaderForm → Bool
  | package => false
  | imports _ _ => true

/-- The gap after the word `static`. -/
def static? : HeaderForm → Option WideGap
  | package => none
  | imports static? _ => static?

/-- The gaps in front of the dot and the asterisk. -/
def onDemand? : HeaderForm → Option (Gap × Gap)
  | package => none
  | imports _ onDemand? => onDemand?

end HeaderForm

/-- The word that starts a declaration. -/
def headerWord (isImport : Bool) : List Char :=
  if isImport then "import".toList else "package".toList

/-- A package or import declaration with all that stands between its words and signs. -/
structure HeaderLayout where
  form : HeaderForm
  lead : WideGap
  name : QualifiedName
  /-- The gap in front of the semicolon. -/
  last : Gap
  /-- The first identifier of an imported name is no mark. -/
  first_ne : form.isImport → form.static? = none → name.first.text ≠ "static".toList

namespace HeaderLayout

/-- The declaration that a layout spells. -/
def line (layout : HeaderLayout) : HeaderLine where
  isImport := layout.form.isImport
  before := headerWord layout.form.isImport ++ (layout.lead.text ++ staticMark layout.form.static?)
  name := layout.name.text
  after := onDemandMark layout.form.onDemand? ++ (layout.last.text ++ [';'])

/-- The text that a layout spells. -/
def text (layout : HeaderLayout) : List Char :=
  layout.line.text

end HeaderLayout

/-! ## Signs and words -/

theorem splitGap_gap (gap : Gap) {rest : List Char} (h : StartsLexeme rest) :
    splitGap (gap.text ++ rest) = (gap.text, rest) :=
  splitGap_append gap.isGap (gapLength_of_startsLexeme h)

theorem Gap.endsWord (gap : Gap) {rest : List Char} (h : EndsWord rest) :
    EndsWord (gap.text ++ rest) :=
  gap.isGap.endsWord h

theorem splitSign?_append (gap : Gap) {sign : Char} (rest : List Char)
    (h : StartsLexeme (sign :: rest)) :
    splitSign? sign (gap.text ++ sign :: rest) = some (gap.text ++ [sign], rest) := by
  rw [splitSign?, splitGap_gap gap h]
  exact if_pos rfl

theorem splitSign?_eq_none (gap : Gap) {sign c : Char} {rest : List Char}
    (h : StartsLexeme (c :: rest)) (hOther : c ≠ sign) :
    splitSign? sign (gap.text ++ c :: rest) = none := by
  rw [splitSign?, splitGap_gap gap h]
  exact if_neg hOther

theorem exists_of_splitSign? {sign : Char} {text front rest : List Char}
    (hSign : ∀ rest, StartsLexeme (sign :: rest))
    (h : splitSign? sign text = some (front, rest)) :
    ∃ gap : Gap, front = gap.text ++ [sign] ∧ text = gap.text ++ sign :: rest := by
  unfold splitSign? at h
  split at h
  · next gap c after hGap =>
    split at h
    · next hFound =>
      subst hFound
      obtain ⟨rfl, rfl⟩ := Prod.mk.inj (Option.some.inj h)
      exact ⟨⟨gap, isGap_of_splitGap hGap (hSign _)⟩, rfl, append_of_splitGap hGap⟩
    · cases h
  · cases h

theorem startsLexeme_dot (rest : List Char) : StartsLexeme ('.' :: rest) :=
  startsLexeme_cons (by decide) rest

theorem startsLexeme_asterisk (rest : List Char) : StartsLexeme ('*' :: rest) :=
  startsLexeme_cons (by decide) rest

theorem startsLexeme_semicolon (rest : List Char) : StartsLexeme (';' :: rest) :=
  startsLexeme_cons (by decide) rest

theorem splitGapWord?_append (gap : Gap) (word : Identifier) {rest : List Char}
    (h : EndsWord rest) :
    splitGapWord? (gap.text ++ (word.text ++ rest)) = some (gap.text, word.text, rest) := by
  rw [splitGapWord?, splitGap_gap gap (word.isWord.startsWord rest).startsLexeme]
  simp only [splitWord?_append word.isWord h, Option.map_some]

theorem splitGapWord?_eq_none (gap : Gap) {c : Char} {rest : List Char}
    (h : StartsLexeme (c :: rest)) (hStarts : startsWord c = false) :
    splitGapWord? (gap.text ++ c :: rest) = none := by
  rw [splitGapWord?, splitGap_gap gap h]
  simp [splitWord?, hStarts]

theorem exists_of_splitGapWord? {text front found rest : List Char}
    (h : splitGapWord? text = some (front, found, rest)) : ∃ (gap : Gap) (word : Identifier),
      front = gap.text ∧ found = word.text ∧ text = gap.text ++ (word.text ++ rest) ∧
        EndsWord rest := by
  rw [splitGapWord?] at h
  obtain ⟨⟨word, after⟩, hWord, heq⟩ := Option.map_eq_some_iff.1 h
  obtain ⟨hGap, hRest⟩ := Prod.mk.inj heq
  obtain ⟨rfl, rfl⟩ := Prod.mk.inj hRest
  obtain ⟨hSplit, hIsWord, hEnds⟩ := exists_of_splitWord? hWord
  have hStarts := (hIsWord.startsWord after).startsLexeme
  rw [← hSplit] at hStarts
  have hCut : splitGap text = (front, (splitGap text).2) := Prod.ext hGap rfl
  refine ⟨⟨front, isGap_of_splitGap hCut hStarts⟩, ⟨word, hIsWord⟩, rfl, rfl, ?_, hEnds⟩
  rw [← hSplit]
  exact append_of_splitGap hCut

/-! ## Names -/

/-- Texts that do not go on with a name: no word does, and no dot with a word after it. -/
def EndsName (text : List Char) : Prop :=
  EndsWord text ∧ ∀ dot rest, splitSign? '.' text = some (dot, rest) → splitGapWord? rest = none

theorem endsWord_qualifiers (qualifiers : List Qualifier) {rest : List Char} (h : EndsWord rest) :
    EndsWord (qualifiers.flatMap Qualifier.text ++ rest) := by
  cases qualifiers with
  | nil => exact h
  | cons qualifier more =>
    simp only [List.flatMap_cons, Qualifier.text, List.append_assoc, List.cons_append]
    exact qualifier.beforeDot.endsWord (endsWord_cons (by decide) _)

theorem splitQualifiers_append {bound rest : List Char} {qualifiers : List Qualifier}
    (hBound : qualifiers.length ≤ bound.length) (hRest : EndsName rest) :
    splitQualifiers bound (qualifiers.flatMap Qualifier.text ++ rest) =
      (qualifiers.flatMap Qualifier.text, rest) := by
  induction qualifiers generalizing bound with
  | nil =>
    cases bound with
    | nil => rfl
    | cons c bound =>
      rw [List.flatMap_nil, List.nil_append, splitQualifiers]
      split
      · rfl
      · next dot after hDot => rw [hRest.2 dot after hDot]
  | cons qualifier more ih =>
    obtain ⟨c, bound, rfl⟩ := List.exists_cons_of_length_pos (Nat.lt_of_lt_of_le (by simp) hBound)
    have hMore : EndsWord (more.flatMap Qualifier.text ++ rest) :=
      endsWord_qualifiers more hRest.1
    have hWord := splitGapWord?_append qualifier.afterDot qualifier.segment hMore
    have hDot := splitSign?_append qualifier.beforeDot
      (qualifier.afterDot.text ++ (qualifier.segment.text ++ (more.flatMap Qualifier.text ++ rest)))
      (startsLexeme_dot _)
    simp only [List.flatMap_cons, Qualifier.text, List.append_assoc, List.cons_append] at hDot ⊢
    rw [splitQualifiers, hDot]
    simp only [hWord, ih (Nat.le_of_succ_le_succ hBound), List.append_assoc, List.cons_append,
      List.nil_append]

theorem exists_of_splitQualifiers {bound text front rest : List Char}
    (h : splitQualifiers bound text = (front, rest)) : ∃ qualifiers : List Qualifier,
      front = qualifiers.flatMap Qualifier.text ∧ text = front ++ rest := by
  induction bound generalizing text front with
  | nil =>
    obtain ⟨rfl, rfl⟩ := Prod.mk.inj h
    exact ⟨[], rfl, rfl⟩
  | cons c bound ih =>
    rw [splitQualifiers] at h
    split at h
    · obtain ⟨rfl, rfl⟩ := Prod.mk.inj h
      exact ⟨[], rfl, rfl⟩
    · next dot afterDot hDot =>
      split at h
      · obtain ⟨rfl, rfl⟩ := Prod.mk.inj h
        exact ⟨[], rfl, rfl⟩
      · next gap word afterWord hWord =>
        obtain ⟨rfl, rfl⟩ := Prod.mk.inj h
        obtain ⟨before, rfl, rfl⟩ := exists_of_splitSign? startsLexeme_dot hDot
        obtain ⟨between, segment, rfl, rfl, rfl, -⟩ := exists_of_splitGapWord? hWord
        obtain ⟨more, hFront, hText⟩ := ih (Prod.ext rfl rfl)
        refine ⟨⟨before, between, segment⟩ :: more, ?_, ?_⟩
        · simp [Qualifier.text, hFront]
        · conv_lhs => rw [hText]
          simp

/-- Texts that are not empty are at most as many as they have characters together. -/
theorem length_le_flatMap {α : Type} {text : α → List Char} (h : ∀ a, text a ≠ [])
    (items : List α) : items.length ≤ (items.flatMap text).length := by
  induction items with
  | nil => exact Nat.le_refl 0
  | cons item more ih =>
    have hSome := List.length_pos_iff.2 (h item)
    rw [List.flatMap_cons, List.length_append, List.length_cons]
    omega

theorem Qualifier.text_ne_nil (qualifier : Qualifier) : qualifier.text ≠ [] := by
  simp [text]

theorem splitName?_append (name : QualifiedName) {rest : List Char} (h : EndsName rest) :
    splitName? (name.text ++ rest) = some (name.text, rest) := by
  have hBound : name.qualifiers.length ≤
      (name.qualifiers.flatMap Qualifier.text ++ rest).length := by
    rw [List.length_append]
    exact Nat.le_add_right_of_le (length_le_flatMap Qualifier.text_ne_nil _)
  rw [splitName?, QualifiedName.text, List.append_assoc,
    splitWord?_append name.first.isWord (endsWord_qualifiers _ h.1)]
  simp only [Option.map_some, splitQualifiers_append hBound h]

theorem exists_of_splitName? {text front rest : List Char}
    (h : splitName? text = some (front, rest)) : ∃ name : QualifiedName,
      front = name.text ∧ text = name.text ++ rest ∧
        ∃ afterFirst, splitWord? text = some (name.first.text, afterFirst) := by
  rw [splitName?] at h
  obtain ⟨⟨word, afterWord⟩, hWord, heq⟩ := Option.map_eq_some_iff.1 h
  obtain ⟨rfl, rfl⟩ := Prod.mk.inj heq
  obtain ⟨hSplit, hIsWord, -⟩ := exists_of_splitWord? hWord
  obtain ⟨qualifiers, hFront, hText⟩ := exists_of_splitQualifiers (Prod.ext rfl rfl)
  refine ⟨⟨⟨word, hIsWord⟩, qualifiers⟩, by rw [QualifiedName.text, ← hFront], ?_, _, hWord⟩
  rw [QualifiedName.text, ← hFront, List.append_assoc, ← hText, hSplit]

theorem QualifiedName.startsWord (name : QualifiedName) (rest : List Char) :
    StartsWord (name.text ++ rest) := by
  rw [text, List.append_assoc]
  exact name.first.isWord.startsWord _

/-! ## What stands around a name -/

theorem WideGap.endsWord (gap : WideGap) (rest : List Char) : EndsWord (gap.text ++ rest) :=
  gap.isGap.endsWord_of_ne_nil gap.nonempty rest

/-- The word `static`. -/
def staticWord : Identifier where
  text := "static".toList
  isWord := @isWord_cons 's' "tatic".toList (by decide) (by decide)

theorem splitLead_false (text : List Char) : splitLead false text = splitGap text := by
  rw [splitLead]
  split
  · exact if_neg (by simp)
  · rfl

theorem splitLead_of_word {isImport : Bool} (lead : Gap) (word : Identifier) {rest : List Char}
    (hRest : EndsWord rest) (hOther : isImport → word.text ≠ "static".toList) :
    splitLead isImport (lead.text ++ (word.text ++ rest)) = (lead.text, word.text ++ rest) := by
  have hGap := splitGap_gap lead (word.isWord.startsWord rest).startsLexeme
  cases isImport with
  | false => rw [splitLead_false, hGap]
  | true =>
    have hWord : decide (word.text = "static".toList) = false := decide_eq_false (hOther rfl)
    rw [splitLead, splitGapWord?_append lead word hRest]
    simp only [hWord, Bool.and_false, Bool.false_eq_true, if_false, hGap]

theorem splitLead_static (lead : Gap) (gap : WideGap) {rest : List Char} (h : StartsLexeme rest) :
    splitLead true (lead.text ++ ("static".toList ++ (gap.text ++ rest))) =
      (lead.text ++ ("static".toList ++ gap.text), rest) := by
  have hWord : splitGapWord? (lead.text ++ ("static".toList ++ (gap.text ++ rest))) =
      some (lead.text, "static".toList, gap.text ++ rest) :=
    splitGapWord?_append lead staticWord (gap.endsWord rest)
  rw [splitLead, hWord]
  simp only [decide_true, Bool.and_self, if_true, splitGap_gap gap.toGap h, List.append_assoc]

theorem splitLead_append (layout : HeaderLayout) {rest : List Char} (h : EndsWord rest) :
    splitLead layout.form.isImport
        (layout.lead.text ++ (staticMark layout.form.static? ++ (layout.name.text ++ rest))) =
      (layout.lead.text ++ staticMark layout.form.static?, layout.name.text ++ rest) := by
  have hFirst := layout.first_ne
  have hRest := endsWord_qualifiers layout.name.qualifiers h
  cases hStatic : layout.form.static? with
  | none =>
    have hOther (hImport : layout.form.isImport) := hFirst hImport hStatic
    have hLead := splitLead_of_word layout.lead.toGap layout.name.first hRest hOther
    rw [staticMark_none, List.nil_append, List.append_nil, QualifiedName.text, List.append_assoc]
    exact hLead
  | some gap =>
    have hImport : layout.form.isImport = true := by
      cases hForm : layout.form with
      | package => rw [hForm] at hStatic; cases hStatic
      | imports => rfl
    rw [hImport, staticMark_some, List.append_assoc]
    exact splitLead_static layout.lead.toGap gap (layout.name.startsWord rest).startsLexeme

theorem splitEnd?_append (form : HeaderForm) (last : Gap) (rest : List Char) :
    splitEnd? form.isImport (onDemandMark form.onDemand? ++ (last.text ++ ';' :: rest)) =
      some (onDemandMark form.onDemand? ++ (last.text ++ [';']), rest) := by
  have hLast := splitSign?_append last rest (startsLexeme_semicolon rest)
  cases hOnDemand : form.onDemand? with
  | none =>
    rw [onDemandMark, List.nil_append, List.nil_append, splitEnd?,
      splitSign?_eq_none last (startsLexeme_semicolon rest) (by decide)]
    exact hLast
  | some gaps =>
    obtain ⟨dot, asterisk⟩ := gaps
    have hImport : form.isImport = true := by
      cases form with
      | package => cases hOnDemand
      | imports => rfl
    have hDot := splitSign?_append dot (asterisk.text ++ '*' :: (last.text ++ ';' :: rest))
      (startsLexeme_dot _)
    have hAsterisk := splitSign?_append asterisk (last.text ++ ';' :: rest)
      (startsLexeme_asterisk _)
    simp only [onDemandMark, List.append_assoc, List.cons_append, List.nil_append] at hDot ⊢
    rw [splitEnd?, hDot, hImport]
    simp [hAsterisk, hLast]

theorem endsName_end (form : HeaderForm) (last : Gap) (rest : List Char) :
    EndsName (onDemandMark form.onDemand? ++ (last.text ++ ';' :: rest)) := by
  cases form.onDemand? with
  | none =>
    refine ⟨last.endsWord (endsWord_cons (by decide) rest), fun dot afterDot hDot => ?_⟩
    rw [onDemandMark, List.nil_append,
      splitSign?_eq_none last (startsLexeme_semicolon rest) (by decide)] at hDot
    cases hDot
  | some gaps =>
    obtain ⟨dot, asterisk⟩ := gaps
    simp only [onDemandMark, List.append_assoc, List.cons_append, List.nil_append]
    refine ⟨dot.endsWord (endsWord_cons (by decide) _), fun found afterDot hDot => ?_⟩
    rw [splitSign?_append dot _ (startsLexeme_dot _)] at hDot
    obtain ⟨-, rfl⟩ := Prod.mk.inj (Option.some.inj hDot)
    exact splitGapWord?_eq_none asterisk (startsLexeme_asterisk _) (by decide)

/-! ## Declarations -/

/-- The word that starts a declaration. -/
def headerIdentifier (isImport : Bool) : Identifier where
  text := headerWord isImport
  isWord := by
    cases isImport with
    | false => exact @isWord_cons 'p' "ackage".toList (by decide) (by decide)
    | true => exact @isWord_cons 'i' "mport".toList (by decide) (by decide)

theorem decide_headerWord_import (isImport : Bool) :
    decide (headerWord isImport = "import".toList) = isImport := by
  cases isImport <;> decide

theorem HeaderLayout.text_append (layout : HeaderLayout) (rest : List Char) :
    layout.text ++ rest = headerWord layout.form.isImport ++ (layout.lead.text ++
      (staticMark layout.form.static? ++ (layout.name.text ++
        (onDemandMark layout.form.onDemand? ++ (layout.last.text ++ ';' :: rest))))) := by
  simp only [text, HeaderLine.text, line, List.append_assoc, List.cons_append, List.nil_append]

theorem HeaderLayout.startsWord (layout : HeaderLayout) (rest : List Char) :
    StartsWord (layout.text ++ rest) := by
  rw [layout.text_append]
  exact (headerIdentifier layout.form.isImport).isWord.startsWord _

theorem HeaderLayout.text_ne_nil (layout : HeaderLayout) : layout.text ≠ [] := by
  obtain ⟨c, rest, hText, -⟩ := layout.startsWord []
  rw [List.append_nil] at hText
  simp [hText]

theorem splitHeaderLine?_append (layout : HeaderLayout) (rest : List Char) :
    splitHeaderLine? (layout.text ++ rest) = some (layout.line, rest) := by
  have hEnd := splitEnd?_append layout.form layout.last rest
  have hName := splitName?_append layout.name (endsName_end layout.form layout.last rest)
  have hLead := splitLead_append layout (endsName_end layout.form layout.last rest).1
  have hWord := splitWord?_append (headerIdentifier layout.form.isImport).isWord
    (layout.lead.endsWord (staticMark layout.form.static? ++ (layout.name.text ++
      (onDemandMark layout.form.onDemand? ++ (layout.last.text ++ ';' :: rest)))))
  have hStarts : (!layout.form.isImport && headerWord layout.form.isImport != "package".toList) =
      false := by
    cases layout.form.isImport <;> decide
  rw [layout.text_append]
  simp only [headerIdentifier] at hWord
  simp only [splitHeaderLine?, hWord, bind, pure, Option.bind_some, decide_headerWord_import,
    hStarts, Bool.false_eq_true, if_false, hLead, hName, hEnd, HeaderLayout.line]

/-- Either the word `static` is split off as well, or it does not come next. -/
theorem splitLead_cases (isImport : Bool) (text : List Char) :
    (isImport ∧ ∃ gap after, splitGapWord? text = some (gap, "static".toList, after) ∧
      splitLead isImport text =
        (gap ++ "static".toList ++ (splitGap after).1, (splitGap after).2)) ∨
    (splitLead isImport text = splitGap text ∧ (isImport →
      ∀ gap word after, splitGapWord? text = some (gap, word, after) → word ≠ "static".toList)) := by
  rw [splitLead]
  cases hWord : splitGapWord? text with
  | none => exact .inr ⟨rfl, nofun⟩
  | some parts =>
    obtain ⟨gap, word, after⟩ := parts
    dsimp only
    split
    · next hStatic =>
      rw [Bool.and_eq_true, decide_eq_true_eq] at hStatic
      obtain ⟨hImport, rfl⟩ := hStatic
      exact .inl ⟨hImport, gap, after, rfl, rfl⟩
    · next hStatic =>
      refine .inr ⟨rfl, fun hImport _ _ _ hFound hEqual => hStatic ?_⟩
      obtain ⟨-, hParts⟩ := Prod.mk.inj (Option.some.inj hFound)
      obtain ⟨rfl, -⟩ := Prod.mk.inj hParts
      simp [hImport, hEqual]

theorem exists_of_splitLead {isImport : Bool} {text front rest : List Char}
    (h : splitLead isImport text = (front, rest)) (hRest : StartsWord rest) :
    ∃ (lead : Gap) (static? : Option WideGap), (static?.isSome → isImport) ∧
      front = lead.text ++ staticMark static? ∧ text = front ++ rest ∧
      (isImport → static? = none →
        ∀ word after, splitWord? rest = some (word, after) → word ≠ "static".toList) := by
  have hLexeme := hRest.startsLexeme
  obtain ⟨hImport, gap, after, hWord, hLead⟩ | ⟨hLead, hOther⟩ := splitLead_cases isImport text
  · obtain ⟨hFront, hAfter⟩ := Prod.mk.inj (hLead.symm.trans h)
    obtain ⟨lead, word, rfl, hStatic, rfl, hEnds⟩ := exists_of_splitGapWord? hWord
    have hCut : splitGap after = ((splitGap after).1, rest) := Prod.ext rfl hAfter
    have hWide : (splitGap after).1 ≠ [] := by
      intro hEmpty
      rw [append_of_splitGap hCut, hEmpty] at hEnds
      exact hRest.not_endsWord hEnds
    refine ⟨lead, some ⟨⟨_, isGap_of_splitGap hCut hLexeme⟩, hWide⟩, fun _ => hImport, ?_, ?_,
      nofun⟩
    · rw [← hFront, staticMark_some, List.append_assoc]
    · rw [← hFront, ← hStatic, List.append_assoc, List.append_assoc, ← append_of_splitGap hCut]
  · have hGap := hLead.symm.trans h
    refine ⟨⟨front, isGap_of_splitGap hGap hLexeme⟩, none, nofun, (List.append_nil front).symm,
      append_of_splitGap hGap, fun hImport _ word afterWord hWord => ?_⟩
    refine hOther hImport front word afterWord ?_
    simp only [splitGapWord?, hGap, hWord, Option.map_some]

theorem exists_of_splitEnd? {isImport : Bool} {text after rest : List Char}
    (h : splitEnd? isImport text = some (after, rest)) :
    ∃ (onDemand? : Option (Gap × Gap)) (last : Gap), (onDemand?.isSome → isImport) ∧
      after = onDemandMark onDemand? ++ (last.text ++ [';']) ∧ text = after ++ rest := by
  rw [splitEnd?] at h
  split at h
  · obtain ⟨last, rfl, rfl⟩ := exists_of_splitSign? startsLexeme_semicolon h
    exact ⟨none, last, nofun, rfl, by simp⟩
  · next dot afterDot hDot =>
    split at h
    · next hImport =>
      simp only [bind, pure, Option.bind_eq_some_iff, Prod.exists, Option.some.injEq,
        Prod.mk.injEq] at h
      obtain ⟨asterisk, afterAsterisk, hAsterisk, semicolon, afterSemicolon, hSemicolon, rfl, rfl⟩ :=
        h
      obtain ⟨first, rfl, rfl⟩ := exists_of_splitSign? startsLexeme_dot hDot
      obtain ⟨second, rfl, rfl⟩ := exists_of_splitSign? startsLexeme_asterisk hAsterisk
      obtain ⟨last, rfl, rfl⟩ := exists_of_splitSign? startsLexeme_semicolon hSemicolon
      exact ⟨some (first, second), last, fun _ => hImport, by simp [onDemandMark], by simp⟩
    · cases h

theorem HeaderForm.exists_of_marks {isImport : Bool} {static? : Option WideGap}
    {onDemand? : Option (Gap × Gap)} (hStatic : static?.isSome → isImport)
    (hOnDemand : onDemand?.isSome → isImport) : ∃ form : HeaderForm,
      form.isImport = isImport ∧ form.static? = static? ∧ form.onDemand? = onDemand? := by
  cases isImport with
  | true => exact ⟨.imports static? onDemand?, rfl, rfl, rfl⟩
  | false =>
    rw [Option.not_isSome_iff_eq_none.1 (mt hStatic (by decide)),
      Option.not_isSome_iff_eq_none.1 (mt hOnDemand (by decide))]
    exact ⟨.package, rfl, rfl, rfl⟩

theorem eq_headerWord {word : List Char} {isImport : Bool}
    (hImport : decide (word = "import".toList) = isImport)
    (h : ¬(!isImport && word != "package".toList) = true) : word = headerWord isImport := by
  cases isImport with
  | true => exact of_decide_eq_true hImport
  | false =>
    rw [Bool.not_false, Bool.true_and, bne_iff_ne, not_not] at h
    exact h

theorem exists_of_splitHeaderLine? {text rest : List Char} {line : HeaderLine}
    (h : splitHeaderLine? text = some (line, rest)) :
    ∃ layout : HeaderLayout, text = layout.text ++ rest ∧ line = layout.line := by
  simp only [splitHeaderLine?, bind, pure, Option.bind_eq_some_iff, Prod.exists] at h
  obtain ⟨word, afterWord, hWord, h⟩ := h
  generalize hImport : decide (word = "import".toList) = isImport at h
  generalize hLead : splitLead isImport afterWord = parts at h
  obtain ⟨front, afterLead⟩ := parts
  split at h
  · cases h
  next hKind =>
  simp only [Option.bind_eq_some_iff, Prod.exists, Option.some.injEq, Prod.mk.injEq] at h
  obtain ⟨nameText, afterName, hName, after, afterEnd, hEnd, rfl, rfl⟩ := h
  obtain ⟨rfl, -, hEndsWord⟩ := exists_of_splitWord? hWord
  obtain ⟨name, rfl, rfl, afterFirst, hFirst⟩ := exists_of_splitName? hName
  obtain ⟨onDemand?, last, hOnDemand, rfl, rfl⟩ := exists_of_splitEnd? hEnd
  have hStarts := name.startsWord (onDemandMark onDemand? ++ (last.text ++ [';']) ++ afterEnd)
  obtain ⟨lead, static?, hStatic, rfl, rfl, hOther⟩ := exists_of_splitLead hLead hStarts
  obtain ⟨form, rfl, rfl, rfl⟩ := HeaderForm.exists_of_marks hStatic hOnDemand
  have hWide : lead.text ≠ [] := by
    intro hEmpty
    rw [hEmpty, List.nil_append] at hEndsWord
    refine StartsWord.not_endsWord ?_ hEndsWord
    cases form.static? with
    | none => exact hStarts
    | some gap => exact (staticWord.isWord.startsWord gap.text).append _
  refine ⟨⟨form, ⟨lead, hWide⟩, name, last, fun hForm hNone => ?_⟩, ?_, ?_⟩
  · exact hOther hForm hNone _ _ hFirst
  · rw [HeaderLayout.text_append, eq_headerWord hImport hKind]
    simp only [List.append_assoc, List.cons_append, List.nil_append]
  · rw [HeaderLayout.line, eq_headerWord hImport hKind]

/-- The declarations that are split off are the ones with a layout. -/
theorem splitHeaderLine?_eq_some_iff {text rest : List Char} {line : HeaderLine} :
    splitHeaderLine? text = some (line, rest) ↔
      ∃ layout : HeaderLayout, text = layout.text ++ rest ∧ line = layout.line := by
  constructor
  · exact exists_of_splitHeaderLine?
  · rintro ⟨layout, rfl, rfl⟩
    exact splitHeaderLine?_append layout rest

/-! ## Blanks in names -/

theorem IsWord.continuesWord {word : List Char} (h : IsWord word) {c : Char} (hMem : c ∈ word) :
    continuesWord c := by
  obtain ⟨d, rest, rfl, hStarts, hRest⟩ := h
  rcases List.mem_cons.1 hMem with rfl | hMem
  · exact continuesWord_of_startsWord hStarts
  · exact hRest c hMem

theorem withoutBlanks_append (front rest : List Char) : Unicode.withoutBlanks (front ++ rest) =
    Unicode.withoutBlanks front ++ Unicode.withoutBlanks rest :=
  List.filter_append ..

theorem IsWord.withoutBlanks {word : List Char} (h : IsWord word) :
    Unicode.withoutBlanks word = word := by
  refine List.filter_eq_self.2 fun c hMem => ?_
  rw [isBlank_of_continuesWord (h.continuesWord hMem), Bool.not_false]

/-- White space alone. -/
def Gap.IsPlain (gap : Gap) : Prop :=
  ∀ c ∈ gap.text, isSpace c

instance (gap : Gap) : Decidable gap.IsPlain :=
  List.decidableBAll _ gap.text

/-- Names without comments inside them. -/
def QualifiedName.IsPlain (name : QualifiedName) : Prop :=
  ∀ qualifier ∈ name.qualifiers, qualifier.beforeDot.IsPlain ∧ qualifier.afterDot.IsPlain

instance (name : QualifiedName) : Decidable name.IsPlain :=
  List.decidableBAll _ name.qualifiers

theorem Gap.withoutBlanks_eq_nil_iff (gap : Gap) :
    Unicode.withoutBlanks gap.text = [] ↔ gap.IsPlain := by
  obtain ⟨text, hGap⟩ := gap
  simp only [Gap.IsPlain]
  induction hGap with
  | nil => simp [Unicode.withoutBlanks]
  | space hSpace _ ih =>
    simp only [List.forall_mem_cons, hSpace, true_and, ← ih]
    simp [Unicode.withoutBlanks, isBlank_of_isSpace hSpace]
  | line => simp [Unicode.withoutBlanks, show isSpace '/' = false by decide,
      show Unicode.isBlank '/' = false by decide]
  | block => simp [Unicode.withoutBlanks, show isSpace '/' = false by decide,
      show Unicode.isBlank '/' = false by decide]

theorem QualifiedName.dotted_eq (name : QualifiedName) : name.dotted =
    name.first.text ++ name.qualifiers.flatMap fun qualifier => '.' :: qualifier.segment.text := by
  obtain ⟨first, qualifiers⟩ := name
  simp only [dotted, identifiers]
  induction qualifiers generalizing first with
  | nil => simp
  | cons qualifier more ih =>
    rw [List.map_cons, List.intercalate_cons_cons, ih qualifier.segment, List.flatMap_cons]
    simp

theorem Qualifier.withoutBlanks_text (qualifier : Qualifier) :
    Unicode.withoutBlanks qualifier.text = Unicode.withoutBlanks qualifier.beforeDot.text ++
      '.' :: (Unicode.withoutBlanks qualifier.afterDot.text ++ qualifier.segment.text) := by
  have hDot : Unicode.withoutBlanks ['.'] = ['.'] := by decide
  rw [text, ← List.singleton_append, withoutBlanks_append, withoutBlanks_append,
    withoutBlanks_append, hDot, qualifier.segment.isWord.withoutBlanks, List.singleton_append]

theorem Qualifier.withoutBlanks_text_eq_iff (qualifier : Qualifier) :
    Unicode.withoutBlanks qualifier.text = '.' :: qualifier.segment.text ↔
      qualifier.beforeDot.IsPlain ∧ qualifier.afterDot.IsPlain := by
  rw [qualifier.withoutBlanks_text, ← Gap.withoutBlanks_eq_nil_iff, ← Gap.withoutBlanks_eq_nil_iff]
  constructor
  · intro h
    have hLength := congrArg List.length h
    simp only [List.length_append, List.length_cons] at hLength
    exact ⟨List.eq_nil_of_length_eq_zero (by omega), List.eq_nil_of_length_eq_zero (by omega)⟩
  · rintro ⟨hBefore, hAfter⟩
    rw [hBefore, hAfter, List.nil_append, List.nil_append]

/-- No character of a name but blanks is lost. -/
theorem length_le_withoutBlanks_qualifiers (qualifiers : List Qualifier) :
    (qualifiers.flatMap fun qualifier => '.' :: qualifier.segment.text).length ≤
      (Unicode.withoutBlanks (qualifiers.flatMap Qualifier.text)).length := by
  induction qualifiers with
  | nil => exact Nat.le_refl 0
  | cons qualifier more ih =>
    simp only [List.flatMap_cons, withoutBlanks_append, qualifier.withoutBlanks_text,
      List.length_append, List.length_cons] at ih ⊢
    omega

theorem withoutBlanks_qualifiers_eq_iff (qualifiers : List Qualifier) :
    Unicode.withoutBlanks (qualifiers.flatMap Qualifier.text) =
        (qualifiers.flatMap fun qualifier => '.' :: qualifier.segment.text) ↔
      ∀ qualifier ∈ qualifiers, qualifier.beforeDot.IsPlain ∧ qualifier.afterDot.IsPlain := by
  induction qualifiers with
  | nil => simp [Unicode.withoutBlanks]
  | cons qualifier more ih =>
    rw [List.flatMap_cons, List.flatMap_cons, withoutBlanks_append, List.forall_mem_cons, ← ih,
      ← qualifier.withoutBlanks_text_eq_iff]
    constructor
    · intro h
      -- neither part can be longer, as none can be shorter
      have hWhole := congrArg List.length h
      have hMore := length_le_withoutBlanks_qualifiers more
      have hLength : (Unicode.withoutBlanks qualifier.text).length =
          ('.' :: qualifier.segment.text).length := by
        rw [qualifier.withoutBlanks_text] at hWhole ⊢
        simp only [List.length_append, List.length_cons] at hWhole hMore ⊢
        omega
      exact List.append_inj h hLength
    · rintro ⟨hFirst, hMore⟩
      rw [hFirst, hMore]

/-- Without its blanks a name is its identifiers joined by dots exactly if no comment stands inside
    it. -/
theorem withoutBlanks_text_eq_dotted_iff (name : QualifiedName) :
    Unicode.withoutBlanks name.text = name.dotted ↔ name.IsPlain := by
  rw [QualifiedName.dotted_eq, QualifiedName.text, withoutBlanks_append,
    name.first.isWord.withoutBlanks, List.append_cancel_left_eq]
  exact withoutBlanks_qualifiers_eq_iff name.qualifiers

theorem Gap.isPlain_of_not_mem {gap : Gap} (h : '/' ∉ gap.text) : gap.IsPlain := by
  obtain ⟨text, hGap⟩ := gap
  simp only [Gap.IsPlain] at h ⊢
  induction hGap with
  | nil => exact List.forall_mem_nil _
  | space hSpace _ ih =>
    exact List.forall_mem_cons.2 ⟨hSpace, ih fun hMem => h (List.mem_cons_of_mem _ hMem)⟩
  | line => exact absurd (List.mem_cons_self ..) h
  | block => exact absurd (List.mem_cons_self ..) h

theorem QualifiedName.mem_dotted {name : QualifiedName} {c : Char} (h : c ∈ name.dotted) :
    c = '.' ∨ continuesWord c := by
  rw [name.dotted_eq, List.mem_append, List.mem_flatMap] at h
  rcases h with hFirst | ⟨qualifier, -, hMem⟩
  · exact .inr (name.first.isWord.continuesWord hFirst)
  · rcases List.mem_cons.1 hMem with rfl | hSegment
    · exact .inl rfl
    · exact .inr (qualifier.segment.isWord.continuesWord hSegment)

/-- A comment inside a name leaves a character in it that stands in no name. -/
theorem forall_withoutBlanks_text_iff (name : QualifiedName) :
    (∀ c ∈ Unicode.withoutBlanks name.text, c = '.' ∨ continuesWord c) ↔ name.IsPlain := by
  constructor
  · intro h
    have hSlash : '/' ∉ name.text := by
      intro hMem
      have hKept : '/' ∈ Unicode.withoutBlanks name.text := List.mem_filter.2 ⟨hMem, by decide⟩
      exact absurd (h _ hKept) (by decide)
    have hParts (qualifier : Qualifier) (hMem : qualifier ∈ name.qualifiers) :
        '/' ∉ qualifier.text := fun hText =>
      hSlash (List.mem_append_right _ (List.mem_flatMap.2 ⟨qualifier, hMem, hText⟩))
    intro qualifier hMem
    have hText := hParts qualifier hMem
    simp only [Qualifier.text, List.mem_append, List.mem_cons, not_or] at hText
    exact ⟨Gap.isPlain_of_not_mem hText.1, Gap.isPlain_of_not_mem hText.2.2.1⟩
  · intro h c hMem
    rw [(withoutBlanks_text_eq_dotted_iff name).2 h] at hMem
    exact QualifiedName.mem_dotted hMem

/-! ## Declarations of layouts -/

/-- The words and signs of a declaration, whatever stands in between. -/
structure HeaderTokens where
  isImport : Bool
  isStatic : Bool
  identifiers : List (List Char)
  isOnDemand : Bool

/-- The declaration of a package or an import with a name. -/
def declarationOf (isImport : Bool) (name : List Char) : Declaration :=
  if isImport then .imports (String.ofList name) else .package (String.ofList name)

/-- The declaration that tokens make: the identifiers joined by single dots, without the marks. -/
def HeaderTokens.declaration (tokens : HeaderTokens) : Declaration :=
  declarationOf tokens.isImport (['.'].intercalate tokens.identifiers)

namespace HeaderLayout

/-- The tokens of a layout. -/
def tokens (layout : HeaderLayout) : HeaderTokens where
  isImport := layout.form.isImport
  isStatic := layout.form.static?.isSome
  identifiers := layout.name.identifiers
  isOnDemand := layout.form.onDemand?.isSome

/-- The declaration that is reported for a layout: its name as written, without the blanks. -/
def declaration (layout : HeaderLayout) : Declaration :=
  declarationOf layout.form.isImport (Unicode.withoutBlanks layout.name.text)

end HeaderLayout

theorem declarationOf_inj {isImport : Bool} {a b : List Char} :
    declarationOf isImport a = declarationOf isImport b ↔ a = b := by
  cases isImport <;> simp [declarationOf, String.ofList_inj]

/-- The name reported is the one the tokens make exactly if no comment stands inside it. -/
theorem HeaderLayout.declaration_eq_iff (layout : HeaderLayout) :
    layout.declaration = layout.tokens.declaration ↔ layout.name.IsPlain :=
  declarationOf_inj.trans (withoutBlanks_text_eq_dotted_iff layout.name)

end JavaImports.Java
