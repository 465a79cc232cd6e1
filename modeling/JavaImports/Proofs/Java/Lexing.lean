-- SUMMARY: The lexemes that carry the items of a chart on: words and braces.
import JavaImports.Proofs.Java.Chart
import JavaImports.Proofs.Java.Headers

/-! # Lexemes in charts

At a position the longest lexeme wins, and what is read depends on the items alive there. At a word
or a brace all terminals of the grammar that read anything outside of strings read the same text, so
every item that reads one of them is carried behind it. -/

namespace JavaImports.Java

variable {network : Network}

/-! ## The longest lexeme -/

theorem foldl_max_eq {α : Type} {found : List (Nat × α)} {start longest : Nat}
    (hStart : start ≤ longest) (hBound : ∀ entry ∈ found, entry.1 ≤ longest)
    (hMem : start = longest ∨ ∃ entry ∈ found, entry.1 = longest) :
    found.foldl (fun n entry => max n entry.1) start = longest := by
  induction found generalizing start with
  | nil => exact hMem.resolve_right (by simp)
  | cons first more ih =>
    rw [List.forall_mem_cons] at hBound
    have hFirst := hBound.1
    refine ih (Nat.max_le.2 ⟨hStart, hFirst⟩) hBound.2 ?_
    rcases hMem with rfl | ⟨entry, hEntry, rfl⟩
    · exact .inl (Nat.max_eq_left hFirst)
    · rcases List.mem_cons.1 hEntry with rfl | hMore
      · exact .inl (Nat.max_eq_right hStart)
      · exact .inr ⟨entry, hMore, rfl⟩

/-- An item that reads a lexeme goes on behind it if no item reads a longer one. -/
theorem mem_advances {items : Array Item} {text : List Char} {n : Nat} {item : Item}
    (hItem : item ∈ items) {t : Terminal} {next : Nat}
    (hStop : network.stop item.place = .read t next)
    (hExtent : ∀ reserved : Bool, (reserved → ∃ other ∈ items, ∃ expected after,
      network.stop other.place = .read (.word expected) after ∧
        wordAt? (text.drop (gapLength 0 text)) = some expected) →
      extentAt? text reserved t = some n)
    (hAngle : t ≠ .closeAngle)
    (hBound : ∀ other ∈ items, ∀ t after, network.stop other.place = .read t after →
      ∀ reserved m, extentAt? text reserved t = some m → m ≤ n) :
    (n, ⟨next, item.origin⟩) ∈ Chart.advances network items text := by
  have hFound : (n, t, ⟨next, item.origin⟩) ∈ Chart.lexemes network items text :=
    Chart.mem_lexemes.2 ⟨Chart.mem_readings.2 ⟨item, hItem, hStop, rfl⟩,
      hExtent _ Chart.exists_of_isReserved⟩
  have hLongest : Chart.longest network items text = n := by
    have hOther : (n, t, ⟨next, item.origin⟩) ∈
        (Chart.lexemes network items text).filter fun lexeme => lexeme.2.1 != .closeAngle :=
      List.mem_filter.2 ⟨hFound, by simpa using hAngle⟩
    refine foldl_max_eq (Nat.zero_le n) (fun lexeme hMem => ?_) (.inr ⟨_, hOther, rfl⟩)
    obtain ⟨m, t, moved⟩ := lexeme
    obtain ⟨hRead, hLength⟩ := Chart.mem_lexemes.1 (List.mem_filter.1 hMem).1
    obtain ⟨item', hItem', hReads, -⟩ := Chart.mem_readings.1 hRead
    exact hBound item' hItem' t _ hReads _ m hLength
  exact Chart.mem_advances_iff.2 ⟨t, hFound, .inl hLongest.symm⟩

/-- Texts of which no terminal of the grammar reads more than some characters outside of strings. -/
def ReadsUpTo (text : List Char) (n : Nat) : Prop :=
  ∀ t, t.isInside = false → (∃ c, t ∈ (grammar c).terminals) →
    ∀ reserved m, extentAt? text reserved t = some m → m ≤ n

/-- Whether the word at the front of a text is a word of the grammar. -/
def StartsWithGrammarWord (text : List Char) : Prop :=
  ∃ c expected, .word expected ∈ (grammar c).terminals ∧
    wordAt? (text.drop (gapLength 0 text)) = some expected

variable {c : Category} {whole front text rest : List Char} {pending : List (Nat × Item)}
  {start final : Reading}

theorem carries_of_readsUpTo (h : Reading.Grown network c whole 0 pending start final)
    (hWhole : whole = front ++ text) {n : Nat} (hSome : 0 < n) (hWithin : n ≤ text.length)
    {t : Terminal} (hAngle : t ≠ .closeAngle) (hUpTo : ReadsUpTo text n)
    (hExtent : ∀ reserved : Bool, (reserved → StartsWithGrammarWord text) →
      extentAt? text reserved t = some n) :
    Reading.Carries network final t front.length (front.length + n) := by
  intro item hItem next hStop
  have hKnown (other : Item) (hOther : other ∈ final.alive front.length) (t : Terminal)
      (after : Nat) (hReads : network.stop other.place = .read t after) :
      t.isInside = false ∧ ∃ c, t ∈ (grammar c).terminals := by
    have hOutside := (h.fits front.length other hOther).isOutside
    obtain ⟨hInside, hGrammar, -⟩ := hOutside.read (hReads ▸ hOutside.getElem?_stop)
    exact ⟨hInside, hGrammar⟩
  have hLength : front.length + n ≤ whole.length := by
    rw [hWhole, List.length_append]
    omega
  refine h.carried front.length (Nat.zero_le _) (n, ⟨next, item.origin⟩) ?_ hSome hLength
  rw [hWhole, List.drop_left]
  refine mem_advances hItem hStop (fun reserved hReserved => hExtent reserved fun hWord => ?_)
    hAngle fun other hOther t after hReads => ?_
  · obtain ⟨other, hOther, expected, after, hReads, hFront⟩ := hReserved hWord
    obtain ⟨-, c, hMem⟩ := hKnown other hOther _ after hReads
    exact ⟨c, expected, hMem, hFront⟩
  · obtain ⟨hInside, hGrammar⟩ := hKnown other hOther t after hReads
    exact hUpTo t hInside hGrammar

/-! ## Words and braces -/

/-- Whether a sign of the grammar is told apart from words and braces: it starts with no character
    of a word, but for one sign, and no brace is a part of a longer sign. -/
def Terminal.isApart : Terminal → Bool
  | .sign text =>
    match text.toList with
    | [] => false
    | c :: rest => text = "non-sealed" ||
      (!continuesWord c && (rest.isEmpty || (c != '\x7b' && c != '\x7d')))
  | _ => true

theorem isApart_of_mem {c : Category} {t : Terminal} (h : t ∈ (grammar c).terminals) :
    t.isApart := by
  have hAll : (grammar c).terminals.all Terminal.isApart = true := by
    cases c <;> decide +kernel
  exact List.all_eq_true.1 hAll t h

theorem exactly_eq_some_iff {lexeme : String} {text : List Char} {n : Nat} :
    Scan.exactly lexeme text = some n ↔ lexeme.toList <+: text ∧ lexeme.length = n := by
  rw [Scan.exactly, ← List.isPrefixOf_iff_prefix]
  split
  · next hFront => simp [hFront]
  · next hFront => simp [hFront]

/-- Signs do not read a word, unless a dash follows it. -/
theorem exactly_word_eq_none {lexeme : String} (hApart : (Terminal.sign lexeme).isApart)
    (word : Identifier) {rest : List Char} (hRest : EndsWord rest) (hDash : '-' ∉ rest.head?) :
    Scan.exactly lexeme (word.text ++ rest) = none := by
  rw [Option.eq_none_iff_forall_ne_some]
  intro n hRead
  obtain ⟨after, hAfter⟩ := (exactly_eq_some_iff.1 hRead).1
  have hWord := splitWord?_append word.isWord hRest
  rw [Terminal.isApart] at hApart
  split at hApart
  · cases hApart
  · next c more hLexeme =>
    rw [Bool.or_eq_true, decide_eq_true_eq, Bool.and_eq_true] at hApart
    rcases hApart with rfl | ⟨hContinues, -⟩
    · -- its part in front of the dash is a word by itself
      have hNon : IsWord "non".toList := @isWord_cons 'n' "on".toList (by decide) (by decide)
      have hSplit : "non-sealed".toList ++ after =
          "non".toList ++ '-' :: ("sealed".toList ++ after) := rfl
      rw [← hAfter, hSplit, splitWord?_append hNon (endsWord_cons (by decide) _)] at hWord
      obtain ⟨-, rfl⟩ := Prod.mk.inj (Option.some.inj hWord)
      exact hDash rfl
    · obtain ⟨d, others, hText, hStarts, -⟩ := word.isWord
      rw [hLexeme, hText] at hAfter
      obtain ⟨rfl, -⟩ := List.cons.inj hAfter
      rw [continuesWord_of_startsWord hStarts] at hContinues
      cases hContinues

/-- Characters that no number, character or string starts with, nor the end of type arguments. -/
def StartsNoLiteral (c : Char) : Prop :=
  c.isDigit = false ∧ c ≠ '.' ∧ c ≠ '\'' ∧ c ≠ '"' ∧ c ≠ '>'

theorem exactly_cons_eq_none {lexeme : String} {first c : Char} {more rest : List Char}
    (hLexeme : lexeme.toList = first :: more) (h : first ≠ c) :
    Scan.exactly lexeme (c :: rest) = none := by
  rw [Option.eq_none_iff_forall_ne_some]
  intro n hRead
  obtain ⟨after, hAfter⟩ := (exactly_eq_some_iff.1 hRead).1
  rw [hLexeme] at hAfter
  exact h (List.cons.inj hAfter).1

theorem followedBy_eq_none {first second : Scan} {text : List Char} (h : first text = none) :
    first.followedBy second text = none := by
  simp [Scan.followedBy, h]

theorem longest_eq_none {scans : List Scan} {text : List Char}
    (h : ∀ scan ∈ scans, scan text = none) : Scan.longest scans text = none := by
  induction scans with
  | nil => rfl
  | cons scan more ih =>
    rw [List.forall_mem_cons] at h
    rw [Scan.longest, h.1, ih h.2]

theorem digits_eq_none {digit : Char → Bool} {manyBars : Bool} {c : Char} {rest : List Char}
    (h : digit c = false) : digits digit manyBars (c :: rest) = none := by
  simp [digits, digitsLength, h]

theorem numberLiteral_eq_none {c : Char} {rest : List Char} (h : StartsNoLiteral c) :
    numberLiteral (c :: rest) = none := by
  obtain ⟨hDigit, hPoint, -⟩ := h
  have hZero : '0' ≠ c := by
    rintro rfl
    exact absurd hDigit (by decide)
  have hWhole : wholeNumber (c :: rest) = none := by
    unfold wholeNumber
    split
    · next heq => exact absurd (List.cons.inj heq).1.symm hZero
    · next heq =>
      obtain ⟨rfl, rfl⟩ := List.cons.inj heq
      exact if_neg (by simp [hDigit])
    · rfl
  have hNought : Scan.exactly "0" (c :: rest) = none := exactly_cons_eq_none rfl hZero
  have hStart : hexStart (c :: rest) = none := followedBy_eq_none hNought
  have hDecimal : decimalDigits (c :: rest) = none := digits_eq_none hDigit
  have hDot : Scan.exactly "." (c :: rest) = none := exactly_cons_eq_none rfl hPoint.symm
  refine longest_eq_none ?_
  simp only [List.forall_mem_cons]
  refine ⟨?_, ?_, ?_, ?_, ?_, ?_, ?_, ?_, ?_, nofun⟩ <;> apply followedBy_eq_none <;> assumption

/-- Terminals that are neither words nor signs nor pieces of strings read none of these. -/
theorem scan_eq_none {c : Char} {rest : List Char} (h : StartsNoLiteral c) {t : Terminal}
    (hMem : t ∈ [.closeAngle, .number, .character, .openString, .openBlock]) :
    t.scan (c :: rest) = none := by
  obtain ⟨-, -, hSingle, hDouble, hAngle⟩ := id h
  simp only [List.mem_cons, List.not_mem_nil, or_false] at hMem
  rcases hMem with rfl | rfl | rfl | rfl | rfl
  · exact exactly_cons_eq_none rfl hAngle.symm
  · exact numberLiteral_eq_none h
  · exact followedBy_eq_none (exactly_cons_eq_none rfl hSingle.symm)
  · exact exactly_cons_eq_none rfl hDouble.symm
  · exact exactly_cons_eq_none rfl hDouble.symm

theorem isDigit_of_startsWord {c : Char} (h : startsWord c) : c.isDigit = false := by
  rw [Bool.eq_false_iff]
  intro hDigit
  rw [Char.isDigit, Bool.and_eq_true, decide_eq_true_eq, decide_eq_true_eq] at hDigit
  have hFirst : 48 ≤ c.toNat := UInt32.le_iff_toNat_le.1 hDigit.1
  have hLast : c.toNat ≤ 57 := UInt32.le_iff_toNat_le.1 hDigit.2
  have hNone : ∀ n < 58, 48 ≤ n → startsWord (Char.ofNat n) = false := by decide
  have hOther := hNone c.toNat (Nat.lt_succ_of_le hLast) hFirst
  rw [Char.ofNat_toNat, h] at hOther
  cases hOther

theorem startsNoLiteral_of_startsWord {c : Char} (h : startsWord c) : StartsNoLiteral c := by
  refine ⟨isDigit_of_startsWord h, ?_, ?_, ?_, ?_⟩ <;>
    · rintro rfl
      exact absurd h (by decide)

theorem drop_gapLength (gap : Gap) {text : List Char} (h : StartsLexeme text) :
    (gap.text ++ text).drop (gapLength 0 (gap.text ++ text)) = text := by
  rw [gapLength_append gap.isGap (gapLength_of_startsLexeme h), List.drop_left]

theorem extentAt?_append (gap : Gap) {text : List Char} (h : StartsLexeme text) (reserved : Bool)
    (t : Terminal) : extentAt? (gap.text ++ text) reserved t =
      Chart.extent? (gap.text ++ text) gap.text.length text (wordAt? text) reserved t := by
  rw [extentAt?, gapLength_append gap.isGap (gapLength_of_startsLexeme h), List.drop_left]

/-- Outside of strings a text is read up to the end of its word or of the signs it starts with, if
    it starts with nothing else. -/
theorem readsUpTo_of_words_of_signs (gap : Gap) {c : Char} {rest : List Char} {n : Nat}
    (hLexeme : StartsLexeme (c :: rest)) (hLiteral : StartsNoLiteral c)
    (hWords : ∀ word after, splitWord? (c :: rest) = some (word, after) → word.length ≤ n)
    (hSigns : ∀ lexeme : String, (Terminal.sign lexeme).isApart →
      ∀ m, Scan.exactly lexeme (c :: rest) = some m → m ≤ n) :
    ReadsUpTo (gap.text ++ c :: rest) (gap.text.length + n) := by
  intro t hInside hGrammar reserved m hExtent
  obtain ⟨category, hMem⟩ := hGrammar
  rw [extentAt?_append gap hLexeme] at hExtent
  unfold Chart.extent? at hExtent
  rw [if_neg (by simp [hInside])] at hExtent
  cases t with
  | word expected =>
    dsimp only at hExtent
    split at hExtent
    · next hSame =>
      obtain ⟨⟨word, after⟩, hWord, rfl⟩ := Option.map_eq_some_iff.1 hSame
      cases hExtent
      rw [String.length_ofList]
      exact Nat.add_le_add_left (hWords word after hWord) _
    · cases hExtent
  | identifier =>
    dsimp only at hExtent
    split at hExtent
    · cases hExtent
    · obtain ⟨length, hLength, rfl⟩ := Option.map_eq_some_iff.1 hExtent
      obtain ⟨⟨word, after⟩, hWord, rfl⟩ := Option.map_eq_some_iff.1 hLength
      exact Nat.add_le_add_left (hWords word after hWord) _
  | sign lexeme =>
    obtain ⟨length, hLength, rfl⟩ := Option.map_eq_some_iff.1 hExtent
    exact Nat.add_le_add_left (hSigns lexeme (isApart_of_mem hMem) length hLength) _
  | closeAngle | number | character | openString | openBlock =>
    simp [scan_eq_none hLiteral] at hExtent
  | stringPiece | blockPiece | openEmbedded | closeString | closeBlock => cases hInside

section Word

variable (gap : Gap) (word : Identifier) {rest : List Char} (hRest : EndsWord rest)
include hRest

/-- At a word the whole word is read. -/
theorem readsUpTo_word (hDash : '-' ∉ rest.head?) :
    ReadsUpTo (gap.text ++ (word.text ++ rest)) (gap.text.length + word.text.length) := by
  have hWord := splitWord?_append word.isWord hRest
  have hLexeme := (word.isWord.startsWord rest).startsLexeme
  have hSigns (lexeme : String) (hApart : (Terminal.sign lexeme).isApart) :=
    exactly_word_eq_none hApart word hRest hDash
  obtain ⟨c, more, hText, hStarts, -⟩ := word.isWord
  rw [hText] at hWord hLexeme hSigns ⊢
  refine readsUpTo_of_words_of_signs gap hLexeme (startsNoLiteral_of_startsWord hStarts) ?_ ?_
  · intro found after hFound
    obtain ⟨rfl, -⟩ := Prod.mk.inj (Option.some.inj (hWord.symm.trans hFound))
    exact Nat.le_refl _
  · intro lexeme hApart m hRead
    cases (hSigns lexeme hApart).symm.trans hRead

theorem wordAt?_append : wordAt? (word.text ++ rest) = some (String.ofList word.text) := by
  rw [wordAt?, splitWord?_append word.isWord hRest, Option.map_some]

theorem extentAt?_word (reserved : Bool) :
    extentAt? (gap.text ++ (word.text ++ rest)) reserved (.word (String.ofList word.text)) =
      some (gap.text.length + word.text.length) := by
  rw [extentAt?_append gap (word.isWord.startsWord rest).startsLexeme, wordAt?_append word hRest]
  simp [Chart.extent?, Terminal.isInside, String.length_ofList]

theorem extentAt?_identifier :
    extentAt? (gap.text ++ (word.text ++ rest)) false .identifier =
      some (gap.text.length + word.text.length) := by
  rw [extentAt?_append gap (word.isWord.startsWord rest).startsLexeme]
  simp [Chart.extent?, Terminal.isInside, Terminal.scan, splitWord?_append word.isWord hRest]

end Word

section Brace

variable (gap : Gap) {brace : Char} (hBrace : brace = '\x7b' ∨ brace = '\x7d') (rest : List Char)
include hBrace

/-- At a brace the brace alone is read. -/
theorem readsUpTo_brace : ReadsUpTo (gap.text ++ brace :: rest) (gap.text.length + 1) := by
  have hLexeme : StartsLexeme (brace :: rest) := startsLexeme_cons (by
    rcases hBrace with rfl | rfl <;> decide) rest
  have hLiteral : StartsNoLiteral brace := by
    rcases hBrace with rfl | rfl <;> exact ⟨by decide, by decide, by decide, by decide, by decide⟩
  have hStarts : startsWord brace = false := by
    rcases hBrace with rfl | rfl <;> decide
  refine readsUpTo_of_words_of_signs gap hLexeme hLiteral ?_ ?_
  · intro word after hWord
    simp [splitWord?, hStarts] at hWord
  · intro lexeme hApart m hRead
    obtain ⟨⟨after, hAfter⟩, rfl⟩ := exactly_eq_some_iff.1 hRead
    rw [Terminal.isApart] at hApart
    split at hApart
    · cases hApart
    · next c more hText =>
      rw [hText] at hAfter
      obtain ⟨rfl, -⟩ := List.cons.inj hAfter
      have hOther : lexeme ≠ "non-sealed" := by
        rintro rfl
        obtain ⟨rfl, -⟩ := List.cons.inj hText
        exact absurd hBrace (by decide)
      have hAlone : continuesWord c = false ∧ more = [] := by
        rcases hBrace with rfl | rfl <;> simpa [hOther] using hApart
      rw [← String.length_toList, hText, hAlone.2]
      exact Nat.le_refl 1

theorem extentAt?_sign (reserved : Bool) {lexeme : String} (hLexeme : lexeme.toList = [brace]) :
    extentAt? (gap.text ++ brace :: rest) reserved (.sign lexeme) =
      some (gap.text.length + 1) := by
  have hStarts : StartsLexeme (brace :: rest) := startsLexeme_cons (by
    rcases hBrace with rfl | rfl <;> decide) rest
  have hScan : Scan.exactly lexeme (brace :: rest) = some 1 := by
    rw [exactly_eq_some_iff, hLexeme, ← String.length_toList, hLexeme]
    exact ⟨⟨rest, rfl⟩, rfl⟩
  rw [extentAt?_append gap hStarts]
  simp [Chart.extent?, Terminal.isInside, Terminal.scan, hScan]

end Brace

/-! ## What is carried behind them -/

section Carried

variable (h : Reading.Grown network c whole 0 pending start final) (gap : Gap)
include h

theorem carries_word (word : Identifier) (hRest : EndsWord rest) (hDash : '-' ∉ rest.head?)
    (hWhole : whole = front ++ (gap.text ++ (word.text ++ rest))) :
    Reading.Carries network final (.word (String.ofList word.text)) front.length
      (front.length + (gap.text.length + word.text.length)) := by
  have hSome := List.length_pos_iff.2 word.isWord.ne_nil
  refine carries_of_readsUpTo h hWhole (by omega) ?_ nofun (readsUpTo_word gap word hRest hDash)
    fun reserved _ => extentAt?_word gap word hRest reserved
  simp only [List.length_append]
  omega

/-- A word that is no word of the grammar is an identifier. -/
theorem carries_identifier (word : Identifier) (hRest : EndsWord rest) (hDash : '-' ∉ rest.head?)
    (hOther : ∀ c, Terminal.word (String.ofList word.text) ∉ (grammar c).terminals)
    (hWhole : whole = front ++ (gap.text ++ (word.text ++ rest))) :
    Reading.Carries network final .identifier front.length
      (front.length + (gap.text.length + word.text.length)) := by
  have hSome := List.length_pos_iff.2 word.isWord.ne_nil
  refine carries_of_readsUpTo h hWhole (by omega) ?_ nofun (readsUpTo_word gap word hRest hDash)
    fun reserved hReserved => ?_
  · simp only [List.length_append]
    omega
  · have hFree : reserved = false := by
      rw [Bool.eq_false_iff]
      intro hTrue
      obtain ⟨c, expected, hMem, hFront⟩ := hReserved hTrue
      rw [drop_gapLength gap (word.isWord.startsWord rest).startsLexeme,
        wordAt?_append word hRest] at hFront
      exact hOther c (Option.some.inj hFront ▸ hMem)
    rw [hFree]
    exact extentAt?_identifier gap word hRest

theorem carries_brace {brace : Char} (hBrace : brace = '\x7b' ∨ brace = '\x7d') {lexeme : String}
    (hLexeme : lexeme.toList = [brace]) (hWhole : whole = front ++ (gap.text ++ brace :: rest)) :
    Reading.Carries network final (.sign lexeme) front.length
      (front.length + (gap.text.length + 1)) := by
  refine carries_of_readsUpTo h hWhole (Nat.succ_pos _) ?_ nofun
    (readsUpTo_brace gap hBrace rest) fun reserved _ =>
      extentAt?_sign gap hBrace rest reserved hLexeme
  simp only [List.length_append, List.length_cons]
  omega

end Carried

end JavaImports.Java
