-- SUMMARY: The forms in which a JSON value can be written, and that the reader reads all of them.
import JavaImports.Json.Reader
import Mathlib.Data.List.DropRight

/-! # Written forms of JSON values

A value has many written forms: gaps can stand between its parts, and a character of a text can be
escaped in several ways. What they are is told by recursion on the value and without a reader. The
reader reads each of them as the value it is a form of, and leaves the text behind it alone. A
number is only read to its end if what comes behind it does not go on with it. -/

namespace JavaImports.Json

/-! ## Gaps -/

/-- A text that may stand between the parts of a value. -/
def IsGap (text : List Char) : Prop :=
  ∀ c ∈ text, isGap c

theorem skipGap_append {gap : List Char} (h : IsGap gap) (text : List Char) :
    skipGap (gap ++ text) = skipGap text :=
  List.dropWhile_append_of_pos h

theorem skipGap_cons {c : Char} (h : isGap c = false) (text : List Char) :
    skipGap (c :: text) = c :: text :=
  List.dropWhile_cons_of_neg (by simp [h])

/-! ## Texts -/

/-- The forms of one code unit inside quotes. -/
inductive WritesUnit : Nat → List Char → Prop where
  | plain {c : Char} (hQuote : c ≠ '"') (hBackslash : c ≠ '\\') (hPrintable : 0x20 ≤ c.toNat) :
    WritesUnit c.toNat [c]
  | short {letter : Char} {code : Nat} (hCode : shortEscape? letter = some code) :
    WritesUnit code ['\\', letter]
  | hexadecimal {a b c d : Char} {unit : Nat} (hUnit : unitValue? a b c d = some unit) :
    WritesUnit unit ['\\', 'u', a, b, c, d]

/-- The forms of code units one after another. -/
inductive WritesUnits : List Nat → List Char → Prop where
  | nil : WritesUnits [] []
  | cons {unit : Nat} {units : List Nat} {form forms : List Char} (hUnit : WritesUnit unit form)
    (hUnits : WritesUnits units forms) : WritesUnits (unit :: units) (form ++ forms)

/-- The forms of a text. The halves of a surrogate pair may be written each for itself. -/
def WritesText (codes : List Nat) (text : List Char) : Prop :=
  ∃ units forms, WritesUnits units forms ∧ joinPairs units = codes ∧
    text = '"' :: (forms ++ ['"'])

theorem readCodes_of_writesUnit {unit : Nat} {form : List Char} (h : WritesUnit unit form)
    (rest : List Char) : readCodes (form ++ rest) =
      (readCodes rest).map fun (units, after) => (unit :: units, after) := by
  cases h with
  | @plain c hQuote hBackslash hPrintable =>
    have hOrdinary : ¬ (c = '\\' || c.toNat < 0x20) = true := by
      simp [hBackslash, Nat.not_lt.2 hPrintable]
    rw [List.singleton_append, readCodes, if_neg hOrdinary]
    · cases readCodes rest <;> rfl
    all_goals simp_all
  | @short letter code hCode =>
    have hRead : readCodes ('\\' :: letter :: rest) = do
        let code ← shortEscape? letter
        let (more, rest) ← readCodes rest
        return (code :: more, rest) := by
      rw [readCodes]
      rintro a b c d rest rfl
      cases hCode
    rw [List.cons_append, List.singleton_append, hRead, hCode]
    cases readCodes rest <;> rfl
  | @hexadecimal a b c d unit hUnit =>
    simp only [List.cons_append, List.nil_append, readCodes, hUnit]
    cases readCodes rest <;> rfl

theorem readCodes_of_writesUnits {units : List Nat} {forms : List Char}
    (h : WritesUnits units forms) (rest : List Char) :
    readCodes (forms ++ '"' :: rest) = some (units, rest) := by
  induction h with
  | nil => simp [readCodes]
  | cons hUnit _ ih => rw [List.append_assoc, readCodes_of_writesUnit hUnit, ih]; rfl

theorem readText_of_writesUnits {units : List Nat} {forms : List Char}
    (h : WritesUnits units forms) (rest : List Char) :
    readText (forms ++ '"' :: rest) = some (joinPairs units, rest) := by
  rw [readText, readCodes_of_writesUnits h]
  rfl

/-! ## Numbers -/

/-- Whether a text does not go on with a number that stands before it. -/
def EndsNumber (text : List Char) : Prop :=
  ∀ c ∈ text.head?, c.isDigit = false ∧ c ≠ '.' ∧ c ≠ 'e' ∧ c ≠ 'E'

theorem endsNumber_nil : EndsNumber [] :=
  nofun

theorem endsNumber_cons {c : Char} (hDigit : c.isDigit = false)
    (hSign : c ∉ ['.', 'e', 'E']) (text : List Char) : EndsNumber (c :: text) := by
  intro d hHead
  obtain rfl : c = d := Option.some.inj hHead
  simpa [hDigit] using hSign

/-- A gap ends a number, and so does nothing but what comes behind it. -/
theorem EndsNumber.append_gap {gap text : List Char} (hGap : IsGap gap) (h : EndsNumber text) :
    EndsNumber (gap ++ text) := by
  cases gap with
  | nil => exact h
  | cons c gap =>
    have hFirst := hGap c (List.mem_cons_self ..)
    simp only [isGap, Bool.or_eq_true, decide_eq_true_eq] at hFirst
    rcases hFirst with ((rfl | rfl) | rfl) | rfl <;>
      exact endsNumber_cons (by decide) (by decide) _

section Digits

variable {text taken after rest : List Char} (hRest : EndsNumber rest)

include hRest

theorem takeWhile_isDigit_append : (text ++ rest).takeWhile Char.isDigit =
      text.takeWhile Char.isDigit ∧
    (text ++ rest).dropWhile Char.isDigit = text.dropWhile Char.isDigit ++ rest := by
  induction text with
  | nil =>
    cases rest with
    | nil => exact ⟨rfl, rfl⟩
    | cons c rest => simp [(hRest c rfl).1]
  | cons c text ih =>
    by_cases hDigit : c.isDigit <;> simp [hDigit, ih]

theorem splitDigits?_append (h : splitDigits? text = some (taken, after)) :
    splitDigits? (text ++ rest) = some (taken, after ++ rest) := by
  unfold splitDigits? at h ⊢
  obtain ⟨hTake, hDrop⟩ := @takeWhile_isDigit_append text rest hRest
  simp only [hTake, hDrop] at h ⊢
  split at h
  · cases h
  · next hDigits =>
    cases h
    rw [if_neg hDigits]

omit hRest in
theorem ne_cons_of_append {c : Char} (hText : ∀ more, text ≠ c :: more)
    (hHead : rest.head? ≠ some c) (more : List Char) : text ++ rest ≠ c :: more := by
  intro hMore
  cases text with
  | nil => exact hHead (by rw [← List.nil_append rest, hMore]; rfl)
  | cons d text => exact hText text (by rw [(List.cons.inj hMore).1])

theorem splitWhole?_append (h : splitWhole? text = some (taken, after)) :
    splitWhole? (text ++ rest) = some (taken, after ++ rest) := by
  unfold splitWhole? at h
  split at h
  · cases h
    rfl
  · next hZero =>
    have hHead : rest.head? ≠ some '0' := fun hMem => by
      cases (hRest '0' hMem).1
    rw [splitWhole?]
    · exact splitDigits?_append hRest h
    · exact ne_cons_of_append hZero hHead

theorem splitFraction?_append (h : splitFraction? text = some (taken, after)) :
    splitFraction? (text ++ rest) = some (taken, after ++ rest) := by
  unfold splitFraction? at h
  split at h
  · next digits =>
    obtain ⟨⟨found, behind⟩, hDigits, heq⟩ := Option.map_eq_some_iff.1 h
    cases heq
    rw [List.cons_append, splitFraction?, splitDigits?_append hRest hDigits]
    rfl
  · next hPoint =>
    cases h
    have hHead : rest.head? ≠ some '.' := fun hMem => (hRest '.' hMem).2.1 rfl
    rw [splitFraction?]
    exact ne_cons_of_append hPoint hHead

omit hRest in
theorem splitSign_append (hText : text ≠ []) :
    splitSign (text ++ rest) = ((splitSign text).1, (splitSign text).2 ++ rest) := by
  obtain ⟨c, text, rfl⟩ := List.exists_cons_of_ne_nil hText
  rw [List.cons_append]
  unfold splitSign
  split <;> simp_all

theorem splitExponent?_append (h : splitExponent? text = some (taken, after)) :
    splitExponent? (text ++ rest) = some (taken, after ++ rest) := by
  cases text with
  | nil =>
    cases h
    cases rest with
    | nil => rfl
    | cons c rest =>
      obtain ⟨-, -, hSmall, hLarge⟩ := hRest c rfl
      simp [splitExponent?, hSmall, hLarge]
  | cons c text =>
    simp only [splitExponent?, List.cons_append] at h ⊢
    split at h
    · next hLetter =>
      obtain ⟨⟨digits, behind⟩, hDigits, heq⟩ := Option.map_eq_some_iff.1 h
      cases heq
      have hText : text ≠ [] := by
        rintro rfl
        cases hDigits
      rw [if_pos hLetter, splitSign_append hText, splitDigits?_append hRest hDigits]
      rfl
    · next hLetter =>
      cases h
      rw [if_neg hLetter]
      rfl

theorem splitUnsigned?_append (h : splitUnsigned? text = some (taken, after)) :
    splitUnsigned? (text ++ rest) = some (taken, after ++ rest) := by
  simp only [splitUnsigned?, bind, Option.bind_eq_some_iff, pure, Prod.exists] at h ⊢
  obtain ⟨whole, afterWhole, hWhole, fraction, afterFraction, hFraction, exponent, afterExponent,
    hExponent, heq⟩ := h
  cases heq
  exact ⟨_, _, splitWhole?_append hRest hWhole, _, _, splitFraction?_append hRest hFraction, _, _,
    splitExponent?_append hRest hExponent, rfl⟩

theorem splitNumber?_append (h : splitNumber? text = some (taken, after)) :
    splitNumber? (text ++ rest) = some (taken, after ++ rest) := by
  unfold splitNumber? at h
  split at h
  · obtain ⟨⟨found, behind⟩, hUnsigned, heq⟩ := Option.map_eq_some_iff.1 h
    cases heq
    rw [List.cons_append, splitNumber?, splitUnsigned?_append hRest hUnsigned]
    rfl
  · next hSign =>
    have hUnsigned := splitUnsigned?_append hRest h
    cases text with
    | nil => cases h
    | cons c text =>
      rw [splitNumber?]
      · exact hUnsigned
      · intro more hMore
        exact hSign text (by rw [(List.cons.inj hMore).1])

end Digits

/-- A number starts with a digit or a sign. -/
theorem exists_cons_of_splitNumber? {text taken after : List Char}
    (h : splitNumber? text = some (taken, after)) :
    ∃ c rest, text = c :: rest ∧ (c = '-' ∨ c.isDigit) := by
  cases text with
  | nil => cases h
  | cons c rest =>
    refine ⟨c, rest, rfl, ?_⟩
    by_contra hOther
    obtain ⟨hSign, hDigit⟩ := not_or.1 hOther
    have hZero : c ≠ '0' := by
      rintro rfl
      exact hDigit rfl
    simp [splitNumber?, hSign, splitUnsigned?, splitWhole?, hZero, splitDigits?, hDigit] at h

/-! ## Values -/

/-- The forms of a key with the colon behind it. -/
def WritesKey (key : List Nat) (text : List Char) : Prop :=
  ∃ form before after, WritesText key form ∧ IsGap before ∧ IsGap after ∧
    text = form ++ before ++ ':' :: after

mutual

/-- The forms of a value. -/
def Writes : Json → List Char → Prop
  | .null, text => text = "null".toList
  | .bool true, text => text = "true".toList
  | .bool false, text => text = "false".toList
  | .number written, text => text = written ∧ splitNumber? written = some (written, [])
  | .string codes, text => WritesText codes text
  | .list [], text => ∃ gap, IsGap gap ∧ text = '[' :: (gap ++ [']'])
  | .list (item :: more), text => ∃ gap first others, IsGap gap ∧ Writes item first ∧
    WritesItems more others ∧ text = '[' :: (gap ++ first ++ others ++ [']'])
  | .record [], text => ∃ gap, IsGap gap ∧ text = '\x7b' :: (gap ++ ['\x7d'])
  | .record ((key, value) :: more), text => ∃ gap name first others, IsGap gap ∧
    WritesKey key name ∧ Writes value first ∧ WritesMembers more others ∧
    text = '\x7b' :: (gap ++ name ++ first ++ others ++ ['\x7d'])

/-- The forms of the items after the first, each with the comma before it, up to the closing
    bracket. -/
def WritesItems : List Json → List Char → Prop
  | [], text => IsGap text
  | item :: more, text => ∃ before after first others, IsGap before ∧ IsGap after ∧
    Writes item first ∧ WritesItems more others ∧
    text = before ++ ',' :: (after ++ first ++ others)

/-- The forms of the members after the first, each with the comma before it, up to the closing
    brace. -/
def WritesMembers : List (List Nat × Json) → List Char → Prop
  | [], text => IsGap text
  | (key, value) :: more, text => ∃ before after name first others, IsGap before ∧ IsGap after ∧
    WritesKey key name ∧ Writes value first ∧ WritesMembers more others ∧
    text = before ++ ',' :: (after ++ name ++ first ++ others)

end

/-- The members of a record that is written are written with it. -/
theorem exists_writes_of_mem {members : List (List Nat × Json)} {text : List Char}
    (h : Writes (.record members) text) {member : List Nat × Json} (hMem : member ∈ members) :
    ∃ form, Writes member.2 form := by
  have hMembers {more : List (List Nat × Json)} {others : List Char}
      (hMore : WritesMembers more others) (hMem : member ∈ more) :
      ∃ form, Writes member.2 form := by
    induction more generalizing others with
    | nil => cases hMem
    | cons first more ih =>
      obtain ⟨_, _, _, form, _, -, -, -, hFirst, hMore, -⟩ := hMore
      rcases List.mem_cons.1 hMem with rfl | hRest
      · exact ⟨form, hFirst⟩
      · exact ih hMore hRest
  cases members with
  | nil => cases hMem
  | cons first more =>
    obtain ⟨_, _, form, _, -, -, hFirst, hMore, -⟩ := h
    rcases List.mem_cons.1 hMem with rfl | hRest
    · exact ⟨form, hFirst⟩
    · exact hMembers hMore hRest

/-- What a value can start with. -/
def startsValue (c : Char) : Bool :=
  c ∈ ['"', '[', '\x7b', 'n', 't', 'f', '-'] || c.isDigit

theorem not_isGap_of_startsValue {c : Char} (h : startsValue c) : isGap c = false := by
  rw [Bool.eq_false_iff]
  intro hGap
  simp only [isGap, Bool.or_eq_true, decide_eq_true_eq] at hGap
  rcases hGap with ((rfl | rfl) | rfl) | rfl <;> cases h

theorem exists_cons_of_writes {value : Json} {text : List Char} (h : Writes value text) :
    ∃ c rest, text = c :: rest ∧ startsValue c := by
  match value with
  | .null => exact ⟨'n', _, h, rfl⟩
  | .bool true => exact ⟨'t', _, h, rfl⟩
  | .bool false => exact ⟨'f', _, h, rfl⟩
  | .number written =>
    obtain ⟨rfl, hNumber⟩ := h
    obtain ⟨c, rest, hText, hStart⟩ := exists_cons_of_splitNumber? hNumber
    refine ⟨c, rest, hText, ?_⟩
    rcases hStart with rfl | hDigit
    · rfl
    · simp [startsValue, hDigit]
  | .string codes =>
    obtain ⟨_, _, -, -, hText⟩ := h
    exact ⟨'"', _, hText, rfl⟩
  | .list [] =>
    obtain ⟨_, -, hText⟩ := h
    exact ⟨'[', _, hText, rfl⟩
  | .list (item :: more) =>
    obtain ⟨_, _, _, -, -, -, hText⟩ := h
    exact ⟨'[', _, hText, rfl⟩
  | .record [] =>
    obtain ⟨_, -, hText⟩ := h
    exact ⟨'\x7b', _, hText, rfl⟩
  | .record ((key, value) :: more) =>
    obtain ⟨_, _, _, _, -, -, -, -, hText⟩ := h
    exact ⟨'\x7b', _, hText, rfl⟩

/-! ## Reading -/

theorem readValue_append_gap {gap : List Char} (h : IsGap gap) (fuel : Nat) (text : List Char) :
    readValue fuel (gap ++ text) = readValue fuel text := by
  cases fuel with
  | zero => rfl
  | succ fuel => simp only [readValue, skipGap_append h]

theorem readItems_append_gap {gap : List Char} (h : IsGap gap) (fuel : Nat) (text : List Char) :
    readItems fuel (gap ++ text) = readItems fuel text := by
  cases fuel with
  | zero => rfl
  | succ fuel => simp only [readItems, readValue_append_gap h]

theorem readMembers_append_gap {gap : List Char} (h : IsGap gap) (fuel : Nat) (text : List Char) :
    readMembers fuel (gap ++ text) = readMembers fuel text := by
  cases fuel with
  | zero => rfl
  | succ fuel => simp only [readMembers, readKey, skipGap_append h]

/-- A key is read, and a gap may be left of what stood behind its colon. -/
theorem readKey_of_writesKey {key : List Nat} {name : List Char} (h : WritesKey key name)
    (rest : List Char) :
    ∃ gap, IsGap gap ∧ readKey (name ++ rest) = some (key, gap ++ rest) := by
  obtain ⟨_, before, after, ⟨units, forms, hUnits, rfl, rfl⟩, hBefore, hAfter, rfl⟩ := h
  refine ⟨after, hAfter, ?_⟩
  have hColon : skipGap (before ++ ':' :: (after ++ rest)) = ':' :: (after ++ rest) := by
    rw [skipGap_append hBefore, skipGap_cons rfl]
  simp only [readKey, List.cons_append, List.append_assoc, List.nil_append,
    skipGap_cons (show isGap '"' = false from rfl), readText_of_writesUnits hUnits, hColon, bind,
    Option.bind, pure]

/-- A word is not read where another character stands first. -/
theorem dropWord?_of_ne {word : String} {letter c : Char} {letters : List Char}
    (hWord : word.toList = letter :: letters) (hOther : letter ≠ c) (text : List Char) :
    dropWord? word (c :: text) = none := by
  simp [dropWord?, hWord, hOther]

/-- A number is read to its end. -/
theorem readAtom_of_splitNumber? {written rest : List Char} (hRest : EndsNumber rest)
    (h : splitNumber? written = some (written, [])) :
    readAtom (written ++ rest) = some (.number written, rest) := by
  have hNumber := splitNumber?_append hRest h
  obtain ⟨c, more, rfl, hStart⟩ := exists_cons_of_splitNumber? h
  have hOther : 'n' ≠ c ∧ 't' ≠ c ∧ 'f' ≠ c := by
    refine ⟨?_, ?_, ?_⟩ <;> rintro rfl <;> revert hStart <;> decide
  rw [List.cons_append] at hNumber ⊢
  rw [readAtom, dropWord?_of_ne rfl hOther.1, dropWord?_of_ne rfl hOther.2.1,
    dropWord?_of_ne rfl hOther.2.2, hNumber]
  rfl

/-- Behind an item or a member a gap may stand, and then a comma or a closing bracket. -/
theorem endsNumber_of_writesItems {items : List Json} {others : List Char}
    (h : WritesItems items others) (rest : List Char) : EndsNumber (others ++ ']' :: rest) := by
  cases items with
  | nil => exact (endsNumber_cons (by decide) (by decide) rest).append_gap h
  | cons item more =>
    obtain ⟨before, after, first, others, hBefore, -, -, -, rfl⟩ := h
    rw [List.append_assoc]
    exact (endsNumber_cons (by decide) (by decide) _).append_gap hBefore

theorem endsNumber_of_writesMembers {members : List (List Nat × Json)} {others : List Char}
    (h : WritesMembers members others) (rest : List Char) :
    EndsNumber (others ++ '\x7d' :: rest) := by
  cases members with
  | nil => exact (endsNumber_cons (by decide) (by decide) rest).append_gap h
  | cons member more =>
    obtain ⟨before, after, name, first, others, hBefore, -, -, -, -, rfl⟩ := h
    rw [List.append_assoc]
    exact (endsNumber_cons (by decide) (by decide) _).append_gap hBefore

/-- What starts with no quote and no bracket is a word or a number. -/
theorem readValue_eq_readAtom {c : Char} (hGap : isGap c = false)
    (hOther : c ∉ ['"', '[', '\x7b']) (fuel : Nat) (text : List Char) :
    readValue (fuel + 1) (c :: text) = readAtom (c :: text) := by
  simp only [List.mem_cons, List.not_mem_nil, or_false, not_or] at hOther
  obtain ⟨hQuote, hBracket, hBrace⟩ := hOther
  rw [readValue, skipGap_cons hGap]
  simp [hQuote, hBracket, hBrace]

theorem dropWord?_append (word : String) (text : List Char) :
    dropWord? word (word.toList ++ text) = some text := by
  rw [dropWord?, if_pos (by simp), ← String.length_toList, List.drop_left]

theorem readAtom_null (rest : List Char) :
    readAtom ("null".toList ++ rest) = some (.null, rest) := by
  rw [readAtom, dropWord?_append]

theorem readAtom_true (rest : List Char) :
    readAtom ("true".toList ++ rest) = some (.bool true, rest) := by
  have hNull : dropWord? "null" ("true".toList ++ rest) = none :=
    dropWord?_of_ne rfl (by decide) _
  rw [readAtom, hNull, dropWord?_append]

theorem readAtom_false (rest : List Char) :
    readAtom ("false".toList ++ rest) = some (.bool false, rest) := by
  have hNull : dropWord? "null" ("false".toList ++ rest) = none :=
    dropWord?_of_ne rfl (by decide) _
  have hTrue : dropWord? "true" ("false".toList ++ rest) = none :=
    dropWord?_of_ne rfl (by decide) _
  rw [readAtom, hNull, hTrue, dropWord?_append]

/-- Something that a value can start with is not skipped. -/
theorem skipGap_append_of_startsValue {gap text : List Char} (hGap : IsGap gap)
    (h : ∃ c more, text = c :: more ∧ startsValue c) (rest : List Char) :
    skipGap (gap ++ (text ++ rest)) = text ++ rest := by
  obtain ⟨c, more, rfl, hStart⟩ := h
  rw [skipGap_append hGap]
  exact skipGap_cons (not_isGap_of_startsValue hStart) _

section Steps

variable {fuel : Nat} {text after next rest : List Char} {item : Json} {items : List Json}
  {key : List Nat} {members : List (List Nat × Json)}

theorem readItems_last (hItem : readValue fuel text = some (item, after))
    (hClose : skipGap after = ']' :: rest) : readItems (fuel + 1) text = some ([item], rest) := by
  simp [readItems, hItem, hClose]

theorem readItems_more (hItem : readValue fuel text = some (item, after))
    (hComma : skipGap after = ',' :: next) (hMore : readItems fuel next = some (items, rest)) :
    readItems (fuel + 1) text = some (item :: items, rest) := by
  simp [readItems, hItem, hComma, hMore]

theorem readMembers_last (hKey : readKey text = some (key, next))
    (hValue : readValue fuel next = some (item, after)) (hClose : skipGap after = '\x7d' :: rest) :
    readMembers (fuel + 1) text = some ([(key, item)], rest) := by
  simp [readMembers, hKey, hValue, hClose]

theorem readMembers_more {others : List Char} (hKey : readKey text = some (key, next))
    (hValue : readValue fuel next = some (item, after)) (hComma : skipGap after = ',' :: others)
    (hMore : readMembers fuel others = some (members, rest)) :
    readMembers (fuel + 1) text = some ((key, item) :: members, rest) := by
  simp [readMembers, hKey, hValue, hComma, hMore]

end Steps

mutual

/-- A value is read from each of its forms. -/
theorem readValue_of_writes (value : Json) {text rest : List Char} {fuel : Nat}
    (h : Writes value text) (hFuel : text.length < fuel) (hRest : EndsNumber rest) :
    readValue fuel (text ++ rest) = some (value, rest) := by
  obtain ⟨fuel, rfl⟩ : ∃ less, fuel = less + 1 := ⟨fuel - 1, by omega⟩
  match value with
  | .null =>
    obtain rfl := h
    exact (readValue_eq_readAtom rfl (by decide) fuel _).trans (readAtom_null rest)
  | .bool true =>
    obtain rfl := h
    exact (readValue_eq_readAtom rfl (by decide) fuel _).trans (readAtom_true rest)
  | .bool false =>
    obtain rfl := h
    exact (readValue_eq_readAtom rfl (by decide) fuel _).trans (readAtom_false rest)
  | .number written =>
    obtain ⟨rfl, hNumber⟩ := h
    obtain ⟨c, more, hText, hStart⟩ := exists_cons_of_splitNumber? hNumber
    rw [← readAtom_of_splitNumber? hRest hNumber, hText]
    refine readValue_eq_readAtom ?_ ?_ _ _
    · rcases hStart with rfl | hDigit
      · rfl
      · exact not_isGap_of_startsValue (by simp [startsValue, hDigit])
    · simp only [List.mem_cons, List.not_mem_nil, or_false]
      rintro (rfl | rfl | rfl) <;> revert hStart <;> decide
  | .string codes =>
    obtain ⟨units, forms, hUnits, rfl, rfl⟩ := h
    have hRead := readText_of_writesUnits hUnits rest
    rw [readValue, List.cons_append, skipGap_cons rfl]
    simp [hRead]
  | .list [] =>
    obtain ⟨gap, hGap, rfl⟩ := h
    have hSkip : skipGap (gap ++ ']' :: rest) = ']' :: rest := by
      rw [skipGap_append hGap, skipGap_cons rfl]
    rw [readValue, List.cons_append, skipGap_cons rfl]
    simp [hSkip]
  | .list (item :: more) =>
    obtain ⟨gap, first, others, hGap, hFirst, hMore, rfl⟩ := h
    simp only [List.length_cons, List.length_append] at hFuel
    have hItems : readItems fuel (first ++ (others ++ ']' :: rest)) =
        some (item :: more, rest) :=
      readItems_of_writes item more hFirst hMore (by omega)
    have hStart := exists_cons_of_writes hFirst
    have hSkip := skipGap_append_of_startsValue hGap hStart (others ++ ']' :: rest)
    obtain ⟨c, behind, rfl, hValue⟩ := hStart
    have hBracket : c ≠ ']' := by
      rintro rfl
      cases hValue
    rw [readValue, List.cons_append, skipGap_cons rfl]
    simp only [List.append_assoc, List.singleton_append, hSkip]
    rw [List.cons_append] at hItems ⊢
    simp [hBracket, hItems]
  | .record [] =>
    obtain ⟨gap, hGap, rfl⟩ := h
    have hSkip : skipGap (gap ++ '\x7d' :: rest) = '\x7d' :: rest := by
      rw [skipGap_append hGap, skipGap_cons rfl]
    rw [readValue, List.cons_append, skipGap_cons rfl]
    simp [hSkip]
  | .record ((key, value) :: more) =>
    obtain ⟨gap, name, first, others, hGap, hKey, hFirst, hMore, rfl⟩ := h
    simp only [List.length_cons, List.length_append] at hFuel
    have hMembers : readMembers fuel (name ++ (first ++ (others ++ '\x7d' :: rest))) =
        some ((key, value) :: more, rest) :=
      readMembers_of_writes key value more hKey hFirst hMore (by omega)
    have hStart : ∃ behind, name = '"' :: behind := by
      obtain ⟨_, _, _, ⟨_, _, -, -, rfl⟩, -, -, rfl⟩ := hKey
      exact ⟨_, rfl⟩
    obtain ⟨behind, rfl⟩ := hStart
    have hSkip := skipGap_append_of_startsValue hGap ⟨'"', behind, rfl, rfl⟩
      (first ++ (others ++ '\x7d' :: rest))
    rw [readValue, List.cons_append, skipGap_cons rfl]
    simp only [List.append_assoc, List.singleton_append, hSkip]
    rw [List.cons_append] at hMembers ⊢
    simp [hMembers]
termination_by fuel

/-- A list is read from its first item on up to its closing bracket. -/
theorem readItems_of_writes (item : Json) (more : List Json) {first others rest : List Char}
    {fuel : Nat} (hFirst : Writes item first) (hMore : WritesItems more others)
    (hFuel : first.length + others.length + 1 < fuel) :
    readItems fuel (first ++ (others ++ ']' :: rest)) = some (item :: more, rest) := by
  obtain ⟨fuel, rfl⟩ : ∃ less, fuel = less + 1 := ⟨fuel - 1, by omega⟩
  have hItem : readValue fuel (first ++ (others ++ ']' :: rest)) =
      some (item, others ++ ']' :: rest) :=
    readValue_of_writes item hFirst (by omega) (endsNumber_of_writesItems hMore rest)
  match more with
  | [] =>
    refine readItems_last hItem ?_
    rw [skipGap_append hMore, skipGap_cons rfl]
  | next :: more =>
    obtain ⟨before, after, second, others, hBefore, hAfter, hSecond, hMore, rfl⟩ := hMore
    simp only [List.length_cons, List.length_append] at hFuel
    have hItems : readItems fuel (after ++ (second ++ (others ++ ']' :: rest))) =
        some (next :: more, rest) := by
      rw [readItems_append_gap hAfter]
      exact readItems_of_writes next more hSecond hMore (by omega)
    refine readItems_more hItem ?_ hItems
    rw [List.append_assoc, skipGap_append hBefore, List.cons_append, skipGap_cons rfl]
    simp only [List.append_assoc]
termination_by fuel

/-- A record is read from its first member on up to its closing brace. -/
theorem readMembers_of_writes (key : List Nat) (value : Json) (more : List (List Nat × Json))
    {name first others rest : List Char} {fuel : Nat} (hKey : WritesKey key name)
    (hFirst : Writes value first) (hMore : WritesMembers more others)
    (hFuel : first.length + others.length + 1 < fuel) :
    readMembers fuel (name ++ (first ++ (others ++ '\x7d' :: rest))) =
      some ((key, value) :: more, rest) := by
  obtain ⟨fuel, rfl⟩ : ∃ less, fuel = less + 1 := ⟨fuel - 1, by omega⟩
  obtain ⟨gap, hGap, hName⟩ := readKey_of_writesKey hKey (first ++ (others ++ '\x7d' :: rest))
  have hValue : readValue fuel (gap ++ (first ++ (others ++ '\x7d' :: rest))) =
      some (value, others ++ '\x7d' :: rest) := by
    rw [readValue_append_gap hGap]
    exact readValue_of_writes value hFirst (by omega) (endsNumber_of_writesMembers hMore rest)
  match more with
  | [] =>
    refine readMembers_last hName hValue ?_
    rw [skipGap_append hMore, skipGap_cons rfl]
  | (nextKey, next) :: more =>
    obtain ⟨before, after, name, second, others, hBefore, hAfter, hNext, hSecond, hMore, rfl⟩ :=
      hMore
    simp only [List.length_cons, List.length_append] at hFuel
    have hMembers : readMembers fuel (after ++ (name ++ (second ++ (others ++ '\x7d' :: rest)))) =
        some ((nextKey, next) :: more, rest) := by
      rw [readMembers_append_gap hAfter]
      exact readMembers_of_writes nextKey next more hNext hSecond hMore (by omega)
    refine readMembers_more hName hValue ?_ hMembers
    rw [List.append_assoc, skipGap_append hBefore, List.cons_append, skipGap_cons rfl]
    simp only [List.append_assoc]
termination_by fuel

end

/-- A text is the written form of a value with gaps around it. -/
theorem ofString?_of_writes {value : Json} {before form after : List Char} (hBefore : IsGap before)
    (h : Writes value form) (hAfter : IsGap after) :
    ofString? (String.ofList (before ++ form ++ after)) = some value := by
  have hEnds : EndsNumber after := by
    have hGap := endsNumber_nil.append_gap hAfter
    rwa [List.append_nil] at hGap
  have hEnd : skipGap after = [] := by
    have hSkip := skipGap_append hAfter []
    rwa [List.append_nil] at hSkip
  have hRead : readValue (2 * (before ++ form ++ after).length + 2) (before ++ form ++ after) =
      some (value, after) := by
    rw [List.append_assoc, readValue_append_gap hBefore]
    refine readValue_of_writes value h ?_ hEnds
    simp only [List.length_append]
    omega
  simp only [ofString?, String.toList_ofList, String.length_ofList, hRead, hEnd, List.isEmpty_nil,
    if_true]

end JavaImports.Json
