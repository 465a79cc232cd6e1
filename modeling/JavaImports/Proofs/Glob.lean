-- SUMMARY: What the globs of directories and endings describe, and searches that give up early.
import JavaImports.Glob
import Mathlib.Data.List.Infix

/-! # Globs of directories and of endings

Two stars behind a directory describe what lies below it, and two stars and one in front of an
ending describe what ends in it at any depth. A path is described if some way to share it out among
the parts of a glob works out. A search need not try all of them: once a part is left without a
character, no shorter rest of the path can have one for it. -/

namespace JavaImports.Glob

/-! ## Rests of a text -/

theorem someRest_eq_true_iff {test : List Char → Bool} {text : List Char} :
    someRest test text = true ↔ ∃ tail, tail <:+ text ∧ test tail = true := by
  induction text with
  | nil => simp [someRest]
  | cons c rest ih => simp [someRest, ih, List.suffix_cons_iff, or_and_right, exists_or]

theorem someRest_eq_false_iff {test : List Char → Bool} {text : List Char} :
    someRest test text = false ↔ ∀ tail, tail <:+ text → test tail = false := by
  simp only [← Bool.not_eq_true, someRest_eq_true_iff, not_exists, not_and]

/-- A step of a text that starts behind its front: what stands behind a slash, or the end. -/
def StartsLater (tail text : List Char) : Prop :=
  tail = [] ∨ '/' :: tail <:+ text

/-- A rest of a text that starts a step of it. -/
def IsStepRest (tail text : List Char) : Prop :=
  tail = text ∨ StartsLater tail text

theorem IsStepRest.suffix {tail text : List Char} (h : IsStepRest tail text) : tail <:+ text := by
  rcases h with rfl | rfl | hTail
  · exact List.suffix_refl _
  · exact List.nil_suffix
  · exact (List.suffix_cons '/' tail).trans hTail

/-- A rest of a rest that starts a step is one itself. -/
theorem IsStepRest.trans {tail middle text : List Char} (h : IsStepRest tail middle)
    (hMiddle : IsStepRest middle text) : IsStepRest tail text := by
  rcases h with rfl | rfl | hTail
  · exact hMiddle
  · exact .inr (.inl rfl)
  · exact .inr (.inr (hTail.trans hMiddle.suffix))

theorem startsLater_nil_iff {tail : List Char} : StartsLater tail [] ↔ tail = [] := by
  simp [StartsLater]

theorem startsLater_slash_iff {tail rest : List Char} :
    StartsLater tail ('/' :: rest) ↔ IsStepRest tail rest := by
  rw [StartsLater, List.suffix_cons_iff, List.cons.injEq, and_iff_right rfl, or_left_comm]
  rfl

theorem startsLater_cons_iff {c : Char} (h : c ≠ '/') {tail rest : List Char} :
    StartsLater tail (c :: rest) ↔ StartsLater tail rest := by
  have hOther : '/' :: tail ≠ c :: rest := fun hSame => h (List.cons.inj hSame).1.symm
  rw [StartsLater, List.suffix_cons_iff, or_iff_right hOther]
  rfl

theorem someStep_eq_true_iff {test : List Char → Bool} {text : List Char} :
    someStep test text = true ↔ ∃ tail, StartsLater tail text ∧ test tail = true := by
  induction text with
  | nil => simp [someStep, startsLater_nil_iff]
  | cons c rest ih =>
    rw [someStep, Bool.or_eq_true, Bool.and_eq_true, decide_eq_true_eq, ih]
    by_cases hSlash : c = '/'
    · subst hSlash
      simp only [startsLater_slash_iff, IsStepRest, or_and_right, exists_or, exists_eq_left,
        true_and]
    · simp only [startsLater_cons_iff hSlash, hSlash, false_and, false_or]

theorem someStep_eq_false_iff {test : List Char → Bool} {text : List Char} :
    someStep test text = false ↔ ∀ tail, StartsLater tail text → test tail = false := by
  simp only [← Bool.not_eq_true, someStep_eq_true_iff, not_exists, not_and]

theorem isMatch_anyText_iff {parts : Glob} {text : List Char} :
    isMatch (.anyText :: parts) text = true ↔
      ∃ tail, tail <:+ text ∧ isMatch parts tail = true := by
  rw [isMatch, someRest_eq_true_iff]

theorem isMatch_anySteps_iff {parts : Glob} {text : List Char} :
    isMatch (.anySteps :: parts) text = true ↔
      ∃ tail, IsStepRest tail text ∧ isMatch parts tail = true := by
  simp only [isMatch, Bool.or_eq_true, someStep_eq_true_iff, IsStepRest, or_and_right, exists_or,
    exists_eq_left]

/-- The characters of a glob are those at the front of the text. -/
theorem isMatch_chars_iff {word : List Char} {parts : Glob} {text : List Char} :
    isMatch (word.map .char ++ parts) text = true ↔
      ∃ rest, text = word ++ rest ∧ isMatch parts rest = true := by
  induction word generalizing text with
  | nil => simp
  | cons c word ih =>
    cases text with
    | nil => simp [isMatch]
    | cons d text => simp [isMatch, ih, and_assoc]

/-! ## Plain texts -/

/-- A text without the signs that globs have for other characters. -/
def IsPlain (text : String) : Prop :=
  ∀ c ∈ text.toList, c ≠ '?' ∧ c ≠ '*' ∧ c ≠ '['

instance (text : String) : Decidable (IsPlain text) :=
  List.decidableBAll _ _

/-- Characters without a meaning of their own stand for themselves. A step starts behind them just
    if the last of them is a slash. -/
theorem read?_append {word : List Char} (h : ∀ c ∈ word, c ≠ '?' ∧ c ≠ '*' ∧ c ≠ '[')
    (fuel : Nat) (newStep : Bool) (rest : List Char) :
    read? (fuel + word.length) newStep (word ++ rest) =
      (read? fuel (word.foldl (fun _ c => decide (c = '/')) newStep) rest).map
        (word.map .char ++ ·) := by
  induction word generalizing newStep with
  | nil => simp
  | cons c word ih =>
    obtain ⟨⟨hAny, hStar, hClass⟩, hWord⟩ := List.forall_mem_cons.1 h
    rw [List.length_cons, ← Nat.add_assoc, List.cons_append, read?]
    · rw [ih hWord, Option.map_map]
      rfl
    all_goals assumption

theorem ofString?_below {directory : String} (h : IsPlain directory) :
    ofString? (directory ++ "/**") =
      some ((directory.toList ++ ['/']).map .char ++ [.anySteps]) := by
  have hWord : ∀ c ∈ directory.toList ++ ['/'], c ≠ '?' ∧ c ≠ '*' ∧ c ≠ '[' := by
    intro c hMem
    rcases List.mem_append.1 hMem with hDirectory | hSlash
    · exact h c hDirectory
    · obtain rfl := List.mem_singleton.1 hSlash
      decide
  have hText : (directory ++ "/**").toList = directory.toList ++ ['/'] ++ ['*', '*'] := by simp
  have hLength : (directory ++ "/**").length + 1 = 3 + (directory.toList ++ ['/']).length := by
    rw [← String.length_toList, hText, List.length_append]
    simp only [List.length_cons, List.length_nil]
    omega
  rw [ofString?, hText, hLength, read?_append hWord, List.foldl_append]
  rfl

theorem ofString?_ending {ending : String} (h : IsPlain ending) :
    ofString? ("**/*" ++ ending) =
      some (.anySteps :: .anyText :: ending.toList.map .char) := by
  have hText : ("**/*" ++ ending).toList = '*' :: '*' :: '/' :: '*' :: ending.toList := by simp
  have hLength : ("**/*" ++ ending).length + 1 = 3 + ending.toList.length + 1 + 1 := by
    rw [← String.length_toList, hText]
    simp only [List.length_cons]
    omega
  have hEnding (newStep : Bool) : read? (3 + ending.toList.length) newStep ending.toList =
      some (ending.toList.map .char) := by
    have hRead := read?_append h 3 newStep []
    rw [List.append_nil] at hRead
    rw [hRead]
    simp [read?]
  -- the star before the ending stands alone
  have hAlone (rest : List Char) : ending.toList ≠ '*' :: rest := fun hStar =>
    (h '*' (by simp [hStar])).2.1 rfl
  have hStar : read? (3 + ending.toList.length + 1) true ('*' :: ending.toList) =
      some (.anyText :: ending.toList.map .char) := by
    rw [read?]
    · rw [hEnding]
      rfl
    · exact fun rest hRest => hAlone _ hRest
    · exact fun rest hRest => hAlone _ hRest
  rw [ofString?, hText, hLength, read?, if_pos rfl, hStar]
  rfl

theorem describes_below_iff {directory : String} (h : IsPlain directory) (path : String) :
    describes (directory ++ "/**") path = true ↔
      (directory ++ "/").toList <+: path.toList := by
  have hAll (text : List Char) : isMatch [.anySteps] text = true :=
    isMatch_anySteps_iff.2 ⟨[], .inr (.inl rfl), rfl⟩
  have hDirectory : (directory ++ "/").toList = directory.toList ++ ['/'] := by simp
  rw [describes, ofString?_below h, isMatch_chars_iff, hDirectory]
  constructor
  · rintro ⟨rest, hPath, -⟩
    exact ⟨rest, hPath.symm⟩
  · rintro ⟨rest, hPath⟩
    exact ⟨rest, hPath.symm, hAll rest⟩

theorem describes_ending_iff {ending : String} (h : IsPlain ending) (path : String) :
    describes ("**/*" ++ ending) path = true ↔ ending.toList <:+ path.toList := by
  have hChars (text : List Char) :
      isMatch (ending.toList.map .char) text = true ↔ text = ending.toList := by
    have hMatch := @isMatch_chars_iff ending.toList [] text
    rw [List.append_nil] at hMatch
    simp [hMatch, isMatch]
  have hRests (text : List Char) :
      isMatch (.anyText :: ending.toList.map .char) text = true ↔ ending.toList <:+ text := by
    simp only [isMatch_anyText_iff, hChars, exists_eq_right]
  rw [describes, ofString?_ending h]
  simp only [isMatch_anySteps_iff, hRests]
  constructor
  · rintro ⟨tail, hTail, hEnding⟩
    exact hEnding.trans hTail.suffix
  · intro hEnding
    exact ⟨path.toList, .inl rfl, hEnding⟩

/-! ## Giving up early -/

/-- How a search for a way to share out a text ends. -/
inductive Outcome where
  | found
  /-- A character did not fit. A shorter rest of the text may do better. -/
  | mismatch
  /-- The text ended before the glob did. -/
  | tooShort
deriving DecidableEq, Repr

/-- Goes on with another search, but only where a character did not fit. -/
def Outcome.orElse : Outcome → Outcome → Outcome
  | .mismatch, other => other
  | outcome, _ => outcome

theorem Outcome.orElse_eq_tooShort_iff {first more : Outcome} :
    first.orElse more = .tooShort ↔ first = .tooShort ∨ first = .mismatch ∧ more = .tooShort := by
  cases first <;> simp [orElse]

/-- Two searches one after the other find what one of two tests accepts, if the first does not give
    up what the second test accepts. -/
theorem Outcome.orElse_eq_found_iff {first more : Outcome} {a b : Bool}
    (hFirst : first = .found ↔ a = true) (hMore : more = .found ↔ b = true)
    (hShort : first = .tooShort → b = false) :
    first.orElse more = .found ↔ (a || b) = true := by
  cases first with
  | found => simp [orElse, hFirst.1 rfl]
  | mismatch =>
    have hNot : a = false := Bool.eq_false_iff.2 fun hTest => nomatch hFirst.2 hTest
    rw [hNot, Bool.false_or]
    exact hMore
  | tooShort =>
    have hNot : a = false := Bool.eq_false_iff.2 fun hTest => nomatch hFirst.2 hTest
    simp [orElse, hNot, hShort rfl]

/-- Searches a text and then what is left of it after more and more characters. -/
def searchRests (search : List Char → Outcome) : List Char → Outcome
  | [] => search []
  | c :: rest => (search (c :: rest)).orElse (searchRests search rest)

/-- Searches behind one slash of a text after another and then at its end. -/
def searchSteps (search : List Char → Outcome) : List Char → Outcome
  | [] => search []
  | c :: rest =>
    if c = '/' then (search rest).orElse (searchSteps search rest) else searchSteps search rest

/-- The search that gives up where the text is too short. -/
def search : Glob → List Char → Outcome
  | [], text => if text.isEmpty then .found else .mismatch
  | .anyText :: parts, text => searchRests (search parts) text
  | .anySteps :: parts, text => (search parts text).orElse (searchSteps (search parts) text)
  | _ :: _, [] => .tooShort
  | .char wanted :: parts, c :: rest => if c = wanted then search parts rest else .mismatch
  | .anyChar :: parts, _ :: rest => search parts rest
  | .within spans :: parts, c :: rest =>
    if inSpans spans c then search parts rest else .mismatch
  | .outside spans :: parts, c :: rest =>
    if !inSpans spans c then search parts rest else .mismatch

/-- A search finds what a test accepts, and if it gives up, the test accepts no rest of the text
    either. -/
structure Answers (isRest : List Char → List Char → Prop) (search : List Char → Outcome)
    (test : List Char → Bool) : Prop where
  found_iff (text : List Char) : search text = .found ↔ test text = true
  tooShort {text tail : List Char} : search text = .tooShort → isRest tail text →
    test tail = false

/-- The rests that count for what comes next in a glob. Where a step starts, only the rests do that
    start a step as well. -/
def IsRest (newStep : Bool) (tail text : List Char) : Prop :=
  if newStep then IsStepRest tail text else tail <:+ text

theorem IsRest.suffix {newStep : Bool} {tail text : List Char} (h : IsRest newStep tail text) :
    tail <:+ text := by
  cases newStep with
  | false => exact h
  | true => exact IsStepRest.suffix h

namespace Answers

variable {search : List Char → Outcome} {test : List Char → Bool}

theorem mono {isRest isOther : List Char → List Char → Prop} (h : Answers isRest search test)
    (hRest : ∀ {tail text}, isOther tail text → isRest tail text) :
    Answers isOther search test where
  found_iff := h.found_iff
  tooShort hShort hTail := h.tooShort hShort (hRest hTail)

/-- A part that takes one character. Behind a slash only the starts of steps are left. -/
theorem one {newStep : Bool} (h : Answers (IsRest newStep) search test) (accepts : Char → Bool)
    (hSlash : newStep = true → ∀ c, accepts c = true → c = '/')
    {search' : List Char → Outcome} {test' : List Char → Bool}
    (hSearchNil : search' [] = .tooShort) (hTestNil : test' [] = false)
    (hSearch : ∀ c rest, search' (c :: rest) = if accepts c then search rest else .mismatch)
    (hTest : ∀ c rest, test' (c :: rest) = (accepts c && test rest)) :
    Answers (· <:+ ·) search' test' where
  found_iff text := by
    cases text with
    | nil => simp [hSearchNil, hTestNil]
    | cons c rest =>
      rw [hSearch, hTest]
      cases accepts c with
      | true => simpa using h.found_iff rest
      | false => simp
  tooShort := by
    intro text tail hShort hTail
    cases tail with
    | nil => exact hTestNil
    | cons d tail =>
      cases text with
      | nil => cases List.suffix_nil.1 hTail
      | cons c rest =>
        rw [hSearch] at hShort
        rw [hTest, Bool.and_eq_false_imp]
        intro hAccepts
        split at hShort
        · next hFirst =>
          -- what comes behind the character is a rest of what came behind the first one
          refine h.tooShort hShort ?_
          have hBehind : d :: tail = c :: rest ∨ d :: tail <:+ rest := List.suffix_cons_iff.1 hTail
          cases newStep with
          | false =>
            rcases hBehind with hSame | hRest
            · rw [(List.cons.inj hSame).2]
              exact List.suffix_refl _
            · exact (List.suffix_cons d tail).trans hRest
          | true =>
            obtain rfl := hSlash rfl d hAccepts
            rcases hBehind with hSame | hRest
            · exact .inl (List.cons.inj hSame).2
            · exact .inr (.inr hRest)
        · cases hShort

theorem eq_false_of_ne_found {isRest : List Char → List Char → Prop} (h : Answers isRest search test)
    {text : List Char} (hOther : search text ≠ .found) : test text = false :=
  Bool.eq_false_iff.2 fun hTest => hOther ((h.found_iff text).2 hTest)

section Rests

variable (h : Answers (· <:+ ·) search test)

include h

theorem test_of_searchRests {text : List Char} (hShort : searchRests search text = .tooShort) :
    ∀ tail, tail <:+ text → test tail = false := by
  induction text with
  | nil => exact fun tail hTail => h.tooShort hShort hTail
  | cons c rest ih =>
    rcases Outcome.orElse_eq_tooShort_iff.1 hShort with hFirst | ⟨hFirst, hMore⟩
    · exact fun tail hTail => h.tooShort hFirst hTail
    · intro tail hTail
      rcases List.suffix_cons_iff.1 hTail with rfl | hRest
      · exact h.eq_false_of_ne_found (by simp [hFirst])
      · exact ih hMore tail hRest

/-- Any text in front of the parts. -/
theorem rests : Answers (· <:+ ·) (searchRests search) (someRest test) where
  found_iff text := by
    induction text with
    | nil => exact h.found_iff []
    | cons c rest ih =>
      refine Outcome.orElse_eq_found_iff (h.found_iff _) ih fun hShort => ?_
      rw [someRest_eq_false_iff]
      exact fun tail hTail => h.tooShort hShort (hTail.trans (List.suffix_cons c rest))
  tooShort := by
    intro text tail hShort hTail
    rw [someRest_eq_false_iff]
    exact fun shorter hShorter => h.test_of_searchRests hShort shorter (hShorter.trans hTail)

end Rests

section Steps

variable (h : Answers IsStepRest search test)

include h

theorem someStep_of_tooShort {text : List Char} (hShort : search text = .tooShort) :
    someStep test text = false :=
  someStep_eq_false_iff.2 fun _ hTail => h.tooShort hShort (.inr hTail)

theorem found_searchSteps_iff (text : List Char) :
    searchSteps search text = .found ↔ someStep test text = true := by
  induction text with
  | nil => exact h.found_iff []
  | cons c rest ih =>
    rw [searchSteps, someStep]
    split
    · next hSlash =>
      rw [decide_eq_true hSlash, Bool.true_and]
      exact Outcome.orElse_eq_found_iff (h.found_iff rest) ih h.someStep_of_tooShort
    · next hOther => rw [decide_eq_false hOther, Bool.false_and, Bool.false_or, ih]

theorem test_of_searchSteps {text : List Char} (hShort : searchSteps search text = .tooShort) :
    ∀ tail, StartsLater tail text → test tail = false := by
  induction text with
  | nil => exact fun tail hTail => h.tooShort hShort (.inr hTail)
  | cons c rest ih =>
    rw [searchSteps] at hShort
    intro tail hTail
    by_cases hSlash : c = '/'
    · rw [if_pos hSlash] at hShort
      rw [hSlash, startsLater_slash_iff] at hTail
      rcases Outcome.orElse_eq_tooShort_iff.1 hShort with hFirst | ⟨hFirst, hMore⟩
      · exact h.tooShort hFirst hTail
      · rcases hTail with rfl | hLater
        · exact h.eq_false_of_ne_found (by simp [hFirst])
        · exact ih hMore tail hLater
    · rw [if_neg hSlash] at hShort
      exact ih hShort tail ((startsLater_cons_iff hSlash).1 hTail)

/-- Any steps in front of the parts. -/
theorem steps : Answers IsStepRest (fun text => (search text).orElse (searchSteps search text))
    (fun text => test text || someStep test text) where
  found_iff text := Outcome.orElse_eq_found_iff (h.found_iff text) (h.found_searchSteps_iff text)
    h.someStep_of_tooShort
  tooShort := by
    intro text tail hShort hTail
    -- the rests of the tail are rests of the text, none of which is accepted
    have hNone : ∀ shorter, IsStepRest shorter text → test shorter = false := by
      rcases Outcome.orElse_eq_tooShort_iff.1 hShort with hFirst | ⟨hFirst, hMore⟩
      · exact fun shorter hShorter => h.tooShort hFirst hShorter
      · rintro shorter (rfl | hShorter)
        · exact h.eq_false_of_ne_found (by simp [hFirst])
        · exact h.test_of_searchSteps hMore shorter hShorter
    rw [Bool.or_eq_false_iff, someStep_eq_false_iff]
    exact ⟨hNone tail hTail, fun shorter hShorter =>
      hNone shorter (IsStepRest.trans (.inr hShorter) hTail)⟩

end Steps

end Answers

/-- Whether two stars only stand where a step starts. -/
def IsStepwise : (newStep : Bool) → Glob → Prop
  | _, [] => True
  | newStep, .anySteps :: parts => newStep = true ∧ IsStepwise true parts
  | _, .char c :: parts => IsStepwise (c = '/') parts
  | _, _ :: parts => IsStepwise false parts

theorem exists_spans_of_readClass? {text rest : List Char} {part : GlobPart}
    (h : readClass? text = some (part, rest)) :
    ∃ spans, part = .within spans ∨ part = .outside spans := by
  unfold readClass? at h
  split at h
  · obtain ⟨_, -, heq⟩ := Option.map_eq_some_iff.1 h
    exact ⟨_, .inr (Prod.mk.inj heq).1.symm⟩
  · cases h
  · obtain ⟨_, -, heq⟩ := Option.map_eq_some_iff.1 h
    exact ⟨_, .inl (Prod.mk.inj heq).1.symm⟩
  · cases h

/-- Two stars are only read where a step starts. -/
theorem isStepwise_of_read? {fuel : Nat} {newStep : Bool} {text : List Char} {glob : Glob}
    (h : read? fuel newStep text = some glob) : IsStepwise newStep glob := by
  fun_induction read? fuel newStep text generalizing glob with
  | case1 | case4 | case6 | case9 | case10 => cases h
  | case2 =>
    cases h
    trivial
  | case3 | case11 | case12 =>
    obtain ⟨parts, hParts, rfl⟩ := Option.map_eq_some_iff.1 h
    rename_i ih
    exact ih hParts
  | case5 fuel newStep text part rest hClass ih =>
    obtain ⟨parts, hParts, rfl⟩ := Option.map_eq_some_iff.1 h
    obtain ⟨spans, rfl | rfl⟩ := exists_spans_of_readClass? hClass <;> exact ih hParts
  | case7 =>
    cases h
    exact ⟨rfl, trivial⟩
  | case8 fuel rest _ ih =>
    obtain ⟨parts, hParts, rfl⟩ := Option.map_eq_some_iff.1 h
    exact ⟨rfl, ih hParts⟩

/-- Giving up early loses no way to share out a text among the parts of a glob. -/
theorem answers_search {newStep : Bool} {parts : Glob} (h : IsStepwise newStep parts) :
    Answers (IsRest newStep) (search parts) (isMatch parts) := by
  induction parts generalizing newStep with
  | nil =>
    refine ⟨fun text => ?_, fun hShort => ?_⟩
    · cases text <;> simp [search, isMatch]
    · rw [search] at hShort
      split at hShort <;> cases hShort
  | cons part parts ih =>
    cases part with
    | anyText => exact (ih h).rests.mono IsRest.suffix
    | anySteps =>
      obtain ⟨rfl, hParts⟩ := h
      exact (ih hParts).steps
    | char wanted =>
      refine Answers.mono ?_ IsRest.suffix
      exact (ih h).one (fun c => decide (c = wanted)) (by simp_all) rfl rfl
        (fun c rest => by simp [search]) fun c rest => rfl
    | anyChar =>
      refine Answers.mono ?_ IsRest.suffix
      exact (ih h).one (fun _ => true) nofun rfl rfl (fun c rest => rfl) fun c rest => rfl
    | within spans =>
      refine Answers.mono ?_ IsRest.suffix
      exact (ih h).one (fun c => inSpans spans c) nofun rfl rfl (fun c rest => rfl) fun c rest => rfl
    | outside spans =>
      refine Answers.mono ?_ IsRest.suffix
      exact (ih h).one (fun c => !inSpans spans c) nofun rfl rfl (fun c rest => rfl)
        fun c rest => rfl

/-- Whether a text is a glob that a search which gives up early finds a path to follow. -/
def finds (text path : String) : Bool :=
  match ofString? text with
  | some glob => search glob path.toList = .found
  | none => false

theorem finds_eq_describes (text path : String) : finds text path = describes text path := by
  rw [finds, describes]
  cases hRead : ofString? text with
  | none => rfl
  | some glob =>
    have hAnswers := answers_search (isStepwise_of_read? hRead)
    rw [Bool.eq_iff_iff, decide_eq_true_eq]
    exact hAnswers.found_iff path.toList

end JavaImports.Glob
