-- SUMMARY: The gaps and words of Java source text as they are written.
import JavaImports.Java.Lexeme
import JavaImports.Proofs.Java.Names
import JavaImports.Proofs.Text.Split

/-! # Gaps and words

A gap is made of white space and comments; a comment to the end of its line has the line feed after
it. In front of a lexeme all of a gap is split off, and what is split off there is a gap. A word is
split off up to the first character that cannot go on with it. -/

namespace JavaImports.Java

/-! ## White space -/

/-- The characters of white space. -/
def spaces : List Char :=
  [' ', '\t', '\n', '\x0b', '\x0c', '\r']

theorem mem_spaces {c : Char} (h : isSpace c) : c ∈ spaces := by
  simp only [isSpace, Bool.or_eq_true, Bool.and_eq_true, decide_eq_true_eq] at h
  rcases h with rfl | ⟨hFirst, hLast⟩
  · decide
  · have hFirst : 9 ≤ c.toNat := UInt32.le_iff_toNat_le.1 hFirst
    have hLast : c.toNat ≤ 13 := UInt32.le_iff_toNat_le.1 hLast
    have hTable : ∀ n < 14, 9 ≤ n → Char.ofNat n ∈ spaces := by decide
    have hMem := hTable c.toNat (Nat.lt_succ_of_le hLast) hFirst
    rwa [Char.ofNat_toNat] at hMem

theorem isBlank_of_isSpace {c : Char} (h : isSpace c) : Unicode.isBlank c = true := by
  have hAll : spaces.all Unicode.isBlank = true := by decide
  exact List.all_eq_true.1 hAll c (mem_spaces h)

theorem continuesWord_of_isSpace {c : Char} (h : isSpace c) : continuesWord c = false := by
  have hNone : spaces.any continuesWord = false := by decide
  exact Bool.eq_false_iff.2 (List.any_eq_false.1 hNone c (mem_spaces h))

/-- Texts that start with a lexeme. -/
def StartsLexeme (text : List Char) : Prop :=
  ∃ c rest, text = c :: rest ∧ isSpace c = false ∧ c ≠ '/' ∧ c ≠ '\x00'

theorem startsLexeme_cons {c : Char} (h : isSpace c = false ∧ c ≠ '/' ∧ c ≠ '\x00')
    (rest : List Char) : StartsLexeme (c :: rest) :=
  ⟨c, rest, rfl, h⟩

/-! ## Comments -/

/-- A comment goes up to the first sign that ends it. -/
theorem commentLength?_eq (text : List Char) : commentLength? text =
    (Text.splitFirst? ['*', '/'] text).bind fun (body, _) =>
      if '\x00' ∈ body then none else some (body.length + 2) := by
  fun_induction commentLength? text with
  | case1 => rfl
  | case2 rest => rfl
  | case3 rest hNotEnd =>
    cases hRest : Text.splitFirst? ['*', '/'] rest <;> simp [Text.splitFirst?, hRest]
  | case4 c rest hNotEnd hNul ih =>
    have hFront : ['*', '/'].isPrefixOf (c :: rest) = false := by
      rw [Bool.eq_false_iff, Ne, List.isPrefixOf_iff_prefix]
      rintro ⟨after, hAfter⟩
      obtain ⟨rfl, hRest⟩ := List.cons.inj hAfter
      exact hNotEnd after rfl hRest.symm
    rw [ih, Text.splitFirst?, hFront]
    cases Text.splitFirst? ['*', '/'] rest with
    | none => rfl
    | some parts =>
      have hNul : '\x00' ≠ c := Ne.symm hNul
      by_cases hBody : '\x00' ∈ parts.1 <;> simp [hBody, hNul]

theorem commentLength?_append {body : List Char} (hEnd : Text.StandsFirstAfter ['*', '/'] body)
    (hNul : '\x00' ∉ body) (rest : List Char) :
    commentLength? (body ++ '*' :: '/' :: rest) = some (body.length + 2) := by
  have hCut := Text.splitFirst?_append hEnd rest
  rw [List.append_assoc] at hCut
  rw [commentLength?_eq, show body ++ '*' :: '/' :: rest = body ++ (['*', '/'] ++ rest) from rfl,
    hCut, Option.bind_some]
  exact if_neg hNul

theorem exists_of_commentLength? {text : List Char} {n : Nat} (h : commentLength? text = some n) :
    ∃ body rest, text = body ++ '*' :: '/' :: rest ∧ n = body.length + 2 ∧
      Text.StandsFirstAfter ['*', '/'] body ∧ '\x00' ∉ body := by
  rw [commentLength?_eq] at h
  obtain ⟨⟨body, rest⟩, hCut, h⟩ := Option.bind_eq_some_iff.1 h
  dsimp only at h
  split at h
  · cases h
  · next hNul =>
    cases h
    refine ⟨body, rest, ?_, rfl, Text.standsFirstAfter_of_splitFirst? hCut, hNul⟩
    simpa using Text.eq_append_of_splitFirst? hCut

/-! ## Gaps -/

/-- White space and comments. -/
inductive IsGap : List Char → Prop where
  | nil : IsGap []
  | space {c : Char} {gap : List Char} (hSpace : isSpace c) (hGap : IsGap gap) : IsGap (c :: gap)
  /-- A comment to the end of its line. -/
  | line {body gap : List Char} (hFeed : '\n' ∉ body) (hNul : '\x00' ∉ body) (hGap : IsGap gap) :
    IsGap ('/' :: '/' :: (body ++ '\n' :: gap))
  /-- A comment up to the sign that ends it. -/
  | block {body gap : List Char} (hEnd : Text.StandsFirstAfter ['*', '/'] body)
      (hNul : '\x00' ∉ body) (hGap : IsGap gap) :
    IsGap ('/' :: '*' :: (body ++ '*' :: '/' :: gap))

/-- White space is a gap. -/
theorem isGap_of_isSpace {text : List Char} (h : ∀ c ∈ text, isSpace c) : IsGap text := by
  induction text with
  | nil => exact .nil
  | cons c rest ih =>
    rw [List.forall_mem_cons] at h
    exact .space h.1 (ih h.2)

theorem gapLength_skip (skip : Nat) (text : List Char) :
    gapLength skip text = min skip text.length + gapLength 0 (text.drop skip) := by
  induction text generalizing skip with
  | nil => simp [gapLength]
  | cons c rest ih =>
    cases skip with
    | zero => simp
    | succ skip =>
      rw [gapLength, ih]
      simp only [List.length_cons, List.drop_succ_cons]
      omega

/-- What stands in front of the gap in a text goes over to it. -/
theorem gapLength_skip_append (front rest : List Char) {skip : Nat} (h : skip = front.length) :
    gapLength skip (front ++ rest) = front.length + gapLength 0 rest := by
  subst h
  rw [gapLength_skip, List.drop_left, List.length_append]
  omega

theorem lineLength_append {body : List Char} (hFeed : '\n' ∉ body) (hNul : '\x00' ∉ body)
    (rest : List Char) : lineLength (body ++ '\n' :: rest) = body.length := by
  have hBody : ∀ c ∈ body, (c != '\n' && c != '\x00') = true := by
    intro c hMem
    have hLine : c ≠ '\n' := fun heq => hFeed (heq ▸ hMem)
    have hText : c ≠ '\x00' := fun heq => hNul (heq ▸ hMem)
    simp [hLine, hText]
  rw [lineLength, List.takeWhile_append_of_pos hBody]
  simp

theorem gapLength_cons (c : Char) (rest : List Char) : gapLength 0 (c :: rest) =
    if isSpace c then 1 + gapLength 0 rest
    else match c, rest with
      | '/', '/' :: line => 1 + gapLength (1 + lineLength line) rest
      | '/', '*' :: comment =>
        match commentLength? comment with
        | some n => 1 + gapLength (1 + n) rest
        | none => 0
      | _, _ => 0 :=
  gapLength.eq_def 0 (c :: rest)

theorem gapLength_space {c : Char} (h : isSpace c) (rest : List Char) :
    gapLength 0 (c :: rest) = 1 + gapLength 0 rest := by
  rw [gapLength_cons, if_pos h]

theorem gapLength_lineComment (line : List Char) : gapLength 0 ('/' :: '/' :: line) =
    lineLength line + 2 + gapLength 0 (line.drop (lineLength line)) := by
  have hShort : lineLength line ≤ line.length :=
    List.IsPrefix.length_le <| List.takeWhile_prefix _
  rw [gapLength_cons, if_neg (by decide)]
  simp only
  rw [gapLength_skip, Nat.add_comm 1 (lineLength line), List.drop_succ_cons, List.length_cons]
  omega

theorem gapLength_line {body : List Char} (hFeed : '\n' ∉ body) (hNul : '\x00' ∉ body)
    (rest : List Char) : gapLength 0 ('/' :: '/' :: (body ++ '\n' :: rest)) =
      body.length + 3 + gapLength 0 rest := by
  rw [gapLength_lineComment, lineLength_append hFeed hNul, List.drop_left,
    gapLength_space (by decide)]
  omega

theorem gapLength_block {body : List Char} (hEnd : Text.StandsFirstAfter ['*', '/'] body)
    (hNul : '\x00' ∉ body) (rest : List Char) :
    gapLength 0 ('/' :: '*' :: (body ++ '*' :: '/' :: rest)) =
      body.length + 4 + gapLength 0 rest := by
  have hLength : 1 + (body.length + 2) = ('*' :: body ++ ['*', '/']).length := by
    simp only [List.length_append, List.length_cons, List.length_nil]
    omega
  have hSkip := gapLength_skip_append ('*' :: body ++ ['*', '/']) rest hLength
  rw [gapLength_cons, if_neg (by decide)]
  simp only [commentLength?_append hEnd hNul]
  rw [List.append_assoc, List.cons_append] at hSkip
  simp only [List.cons_append, List.nil_append] at hSkip
  rw [hSkip]
  simp only [List.length_append, List.length_cons, List.length_nil]
  omega

theorem gapLength_of_startsLexeme {text : List Char} (h : StartsLexeme text) :
    gapLength 0 text = 0 := by
  obtain ⟨c, rest, rfl, hSpace, hSlash, -⟩ := h
  rw [gapLength_cons, if_neg (by simp [hSpace])]
  split <;> simp_all

/-- A gap and what goes on behind it are told apart. -/
theorem gapLength_append {gap rest : List Char} (h : IsGap gap) (hRest : gapLength 0 rest = 0) :
    gapLength 0 (gap ++ rest) = gap.length := by
  induction h with
  | nil => exact hRest
  | space hSpace _ ih =>
    rw [List.cons_append, gapLength_space hSpace, ih, List.length_cons]
    omega
  | line hFeed hNul _ ih =>
    simp only [List.cons_append, List.append_assoc]
    rw [gapLength_line hFeed hNul, ih]
    simp only [List.length_cons, List.length_append]
    omega
  | block hEnd hNul _ ih =>
    simp only [List.cons_append, List.append_assoc]
    rw [gapLength_block hEnd hNul, ih]
    simp only [List.length_cons, List.length_append]
    omega

theorem splitGap_append {gap rest : List Char} (h : IsGap gap) (hRest : gapLength 0 rest = 0) :
    splitGap (gap ++ rest) = (gap, rest) := by
  rw [splitGap, gapLength_append h hRest, List.splitAt_eq, List.take_left, List.drop_left]

theorem append_of_splitGap {text gap rest : List Char} (h : splitGap text = (gap, rest)) :
    text = gap ++ rest := by
  rw [splitGap, List.splitAt_eq] at h
  obtain ⟨rfl, rfl⟩ := Prod.mk.inj h
  exact (List.take_append_drop ..).symm

/-- A line goes up to a line feed, to a character that belongs to nothing, or to the end. -/
theorem exists_line (line : List Char) : ∃ body rest, line = body ++ rest ∧
    lineLength line = body.length ∧ '\n' ∉ body ∧ '\x00' ∉ body ∧
      (rest = [] ∨ ∃ after, rest = '\n' :: after ∨ rest = '\x00' :: after) := by
  let inLine (c : Char) : Bool := c != '\n' && c != '\x00'
  have hBody : ∀ c ∈ line.takeWhile inLine, inLine c :=
    List.all_eq_true.1 List.all_takeWhile
  refine ⟨line.takeWhile inLine, line.dropWhile inLine, List.takeWhile_append_dropWhile.symm, rfl,
    fun hMem => ?_, fun hMem => ?_, ?_⟩
  · cases hBody _ hMem
  · cases hBody _ hMem
  · have hRest := List.head?_dropWhile_not inLine line
    cases hEnd : line.dropWhile inLine with
    | nil => exact .inl rfl
    | cons c after =>
      rw [hEnd] at hRest
      refine .inr ⟨after, ?_⟩
      by_cases hFeed : c = '\n'
      · exact .inl (by rw [hFeed])
      · have hNul : c = '\x00' := by simpa [inLine, hFeed] using hRest
        exact .inr (by rw [hNul])

/-- One piece of white space or one comment in front of a text, and the gap of that text. -/
theorem isGap_take_append {front rest : List Char}
    (hFront : ∀ gap, IsGap gap → IsGap (front ++ gap))
    (hLength : gapLength 0 (front ++ rest) = front.length + gapLength 0 rest)
    (hGap : StartsLexeme (rest.drop (gapLength 0 rest)) → IsGap (rest.take (gapLength 0 rest)))
    (h : StartsLexeme ((front ++ rest).drop (gapLength 0 (front ++ rest)))) :
    IsGap ((front ++ rest).take (gapLength 0 (front ++ rest))) := by
  rw [hLength, List.drop_length_add_append] at h
  rw [hLength, List.take_length_add_append]
  exact hFront _ (hGap h)

/-- What is split off in front of a lexeme is a gap. -/
theorem isGap_take {text : List Char} (h : StartsLexeme (text.drop (gapLength 0 text))) :
    IsGap (text.take (gapLength 0 text)) := by
  cases text with
  | nil => exact .nil
  | cons c rest =>
    by_cases hSpace : isSpace c
    · have hStep : gapLength 0 ([c] ++ rest) = [c].length + gapLength 0 rest :=
        gapLength_space hSpace rest
      exact isGap_take_append (fun _ hGap => .space hSpace hGap) hStep isGap_take h
    by_cases hLine : ∃ line, c = '/' ∧ rest = '/' :: line
    · obtain ⟨line, rfl, rfl⟩ := hLine
      obtain ⟨body, tail, rfl, hLength, hFeed, hNul, hTail⟩ := exists_line line
      have hWhole := gapLength_lineComment (body ++ tail)
      rw [hLength, List.drop_left] at hWhole
      rcases hTail with rfl | ⟨after, rfl | rfl⟩
      · -- the comment goes on to the end of the text
        obtain ⟨c, rest, hEmpty, -⟩ := h
        have hShort := congrArg List.length hEmpty
        rw [hWhole, gapLength, List.append_nil, List.length_drop] at hShort
        simp at hShort
      · have hStep : gapLength 0 ('/' :: '/' :: (body ++ ['\n']) ++ after) =
            ('/' :: '/' :: (body ++ ['\n'])).length + gapLength 0 after := by
          have hLine := gapLength_line hFeed hNul after
          simpa [Nat.add_assoc] using hLine
        have hFront (gap : List Char) (hGap : IsGap gap) :
            IsGap ('/' :: '/' :: (body ++ ['\n']) ++ gap) := by
          simpa using IsGap.line hFeed hNul hGap
        simpa using isGap_take_append hFront hStep isGap_take (by simpa using h)
      · -- the comment breaks off where no lexeme starts
        have hStop : gapLength 0 ('\x00' :: after) = 0 := by
          rw [gapLength_cons, if_neg (by decide)]
          simp
        obtain ⟨c, rest, hEmpty, -, -, hNone⟩ := h
        rw [hWhole, hStop] at hEmpty
        simp at hEmpty
        exact absurd hEmpty.1.symm hNone
    by_cases hBlock : ∃ comment n, c = '/' ∧ rest = '*' :: comment ∧
        commentLength? comment = some n
    · obtain ⟨comment, n, rfl, rfl, hComment⟩ := hBlock
      obtain ⟨body, after, rfl, -, hEnd, hNul⟩ := exists_of_commentLength? hComment
      have hStep : gapLength 0 ('/' :: '*' :: (body ++ ['*', '/']) ++ after) =
          ('/' :: '*' :: (body ++ ['*', '/'])).length + gapLength 0 after := by
        have hLine := gapLength_block hEnd hNul after
        simpa [Nat.add_assoc] using hLine
      have hFront (gap : List Char) (hGap : IsGap gap) :
          IsGap ('/' :: '*' :: (body ++ ['*', '/']) ++ gap) := by
        simpa using IsGap.block hEnd hNul hGap
      simpa using isGap_take_append hFront hStep isGap_take (by simpa using h)
    · have hNone : gapLength 0 (c :: rest) = 0 := by
        rw [gapLength_cons, if_neg hSpace]
        split
        · next line => exact absurd ⟨line, rfl, rfl⟩ hLine
        · next comment =>
          split
          · next n hComment => exact absurd ⟨comment, n, rfl, rfl, hComment⟩ hBlock
          · rfl
        · rfl
      rw [hNone]
      exact .nil
termination_by text.length

theorem isGap_of_splitGap {text gap rest : List Char} (h : splitGap text = (gap, rest))
    (hRest : StartsLexeme rest) : IsGap gap := by
  rw [splitGap, List.splitAt_eq] at h
  obtain ⟨rfl, rfl⟩ := Prod.mk.inj h
  exact isGap_take hRest

/-! ## Words -/

/-- Words, reserved or not. -/
def IsWord (word : List Char) : Prop :=
  ∃ c rest, word = c :: rest ∧ startsWord c ∧ ∀ d ∈ rest, continuesWord d

/-- Texts that do not go on with a word. -/
def EndsWord (text : List Char) : Prop :=
  ∀ c ∈ text.head?, continuesWord c = false

theorem endsWord_cons {c : Char} (h : continuesWord c = false) (rest : List Char) :
    EndsWord (c :: rest) := by
  simpa [EndsWord] using h

theorem IsGap.endsWord_of_ne_nil {gap : List Char} (h : IsGap gap) (hNonempty : gap ≠ [])
    (rest : List Char) : EndsWord (gap ++ rest) := by
  cases h with
  | nil => exact absurd rfl hNonempty
  | space hSpace _ => exact endsWord_cons (continuesWord_of_isSpace hSpace) _
  | line => exact endsWord_cons (by decide) _
  | block => exact endsWord_cons (by decide) _

theorem IsGap.endsWord {gap rest : List Char} (h : IsGap gap) (hRest : EndsWord rest) :
    EndsWord (gap ++ rest) := by
  by_cases hEmpty : gap = []
  · rwa [hEmpty]
  · exact h.endsWord_of_ne_nil hEmpty rest

/-- A gap starts with white space or with the sign of a comment. -/
theorem IsGap.not_mem_head? {gap rest : List Char} (h : IsGap gap) {c : Char}
    (hSpace : isSpace c = false) (hSlash : c ≠ '/') (hRest : c ∉ rest.head?) :
    c ∉ (gap ++ rest).head? := by
  cases h with
  | nil => exact hRest
  | space hOther _ =>
    rintro hMem
    cases hMem
    rw [hSpace] at hOther
    cases hOther
  | line | block =>
    rintro hMem
    cases hMem
    exact hSlash rfl

theorem startsLexeme_of_startsWord {c : Char} (h : startsWord c) (rest : List Char) :
    StartsLexeme (c :: rest) := by
  refine startsLexeme_cons ⟨?_, ?_, ?_⟩ rest
  · rw [Bool.eq_false_iff]
    intro hSpace
    have := continuesWord_of_isSpace hSpace
    rw [continuesWord_of_startsWord h] at this
    cases this
  · rintro rfl
    revert h
    decide
  · rintro rfl
    revert h
    decide

theorem StartsWord.startsLexeme {text : List Char} (h : StartsWord text) : StartsLexeme text := by
  obtain ⟨c, rest, rfl, hStarts⟩ := h
  exact startsLexeme_of_startsWord hStarts rest

theorem StartsWord.not_mem_head? {text : List Char} (h : StartsWord text) {c : Char}
    (hOther : startsWord c = false) : c ∉ text.head? := by
  obtain ⟨d, rest, rfl, hStarts⟩ := h
  rintro hMem
  cases hMem
  rw [hOther] at hStarts
  cases hStarts

theorem StartsWord.isEmpty {text : List Char} (h : StartsWord text) : text.isEmpty = false := by
  obtain ⟨c, rest, rfl, -⟩ := h
  rfl

theorem StartsWord.not_endsWord {text : List Char} (h : StartsWord text) : ¬ EndsWord text := by
  obtain ⟨c, rest, rfl, hStarts⟩ := h
  intro hEnds
  have hContinues := hEnds c rfl
  rw [continuesWord_of_startsWord hStarts] at hContinues
  cases hContinues

/-- Words of known characters. -/
theorem isWord_cons {c : Char} {rest : List Char} (hStarts : startsWord c)
    (hRest : rest.all continuesWord) : IsWord (c :: rest) :=
  ⟨c, rest, rfl, hStarts, List.all_eq_true.1 hRest⟩

theorem IsWord.ne_nil {word : List Char} (h : IsWord word) : word ≠ [] := by
  obtain ⟨c, rest, rfl, -⟩ := h
  exact List.cons_ne_nil c rest

theorem IsWord.startsWord {word : List Char} (h : IsWord word) (rest : List Char) :
    StartsWord (word ++ rest) := by
  obtain ⟨c, more, rfl, hStarts, -⟩ := h
  exact ⟨c, more ++ rest, rfl, hStarts⟩

/-- A word and what does not go on with it are told apart. -/
theorem splitWord?_append {word rest : List Char} (h : IsWord word) (hRest : EndsWord rest) :
    splitWord? (word ++ rest) = some (word, rest) := by
  obtain ⟨c, more, rfl, hStarts, hMore⟩ := h
  have hAll : ∀ d ∈ c :: more, continuesWord d :=
    List.forall_mem_cons.2 ⟨continuesWord_of_startsWord hStarts, hMore⟩
  have hEnd : rest.takeWhile continuesWord = [] ∧ rest.dropWhile continuesWord = rest := by
    cases rest with
    | nil => simp
    | cons d rest => simp [show continuesWord d = false from hRest d rfl]
  rw [List.cons_append, splitWord?, if_pos hStarts, List.span_eq_takeWhile_dropWhile,
    ← List.cons_append, List.takeWhile_append_of_pos hAll, List.dropWhile_append_of_pos hAll,
    hEnd.1, hEnd.2, List.append_nil]

theorem exists_of_splitWord? {text word rest : List Char}
    (h : splitWord? text = some (word, rest)) :
    text = word ++ rest ∧ IsWord word ∧ EndsWord rest := by
  cases text with
  | nil => cases h
  | cons c more =>
    simp only [splitWord?] at h
    split at h
    · next hStarts =>
      rw [List.span_eq_takeWhile_dropWhile,
        List.takeWhile_cons_of_pos (continuesWord_of_startsWord hStarts),
        List.dropWhile_cons_of_pos (continuesWord_of_startsWord hStarts)] at h
      obtain ⟨rfl, rfl⟩ := Prod.mk.inj (Option.some.inj h)
      refine ⟨by simp, ⟨c, _, rfl, hStarts, fun d hMem => ?_⟩, fun d hMem => ?_⟩
      · exact List.all_eq_true.1 List.all_takeWhile d hMem
      · have hHead := List.head?_dropWhile_not continuesWord more
        rwa [hMem] at hHead
    · cases h

end JavaImports.Java
