-- SUMMARY: A JSON value that is written is read as it was.
import JavaImports.Json.Writer
import JavaImports.Proofs.Json.Written

/-! # Rendering JSON values

What the writer writes is one of the written forms of the value, so the reader reads the value from
it. This holds of values whose strings are texts; half of a surrogate pair in a string would be
joined with the other half if that stood next to it. -/

namespace JavaImports.Json

/-! ## Texts -/

theorem charOfCode?_toNat (c : Char) : charOfCode? c.toNat = some c := by
  have hValid : c.toNat.isValidChar := c.valid
  rw [charOfCode?, if_pos hValid, Char.ofNat_toNat]

section Views

variable {α β : Type} {view : α → Option β} {make : β → α}

theorem mapM_map_make (h : ∀ b, view (make b) = some b) (bs : List β) :
    (bs.map make).mapM view = some bs := by
  induction bs with
  | nil => rfl
  | cons b bs ih => simp [List.mapM_cons, h, ih]

theorem eq_map_of_mapM (h : ∀ {a b}, view a = some b → a = make b) {as : List α} {bs : List β}
    (hAll : as.mapM view = some bs) : as = bs.map make := by
  induction as generalizing bs with
  | nil =>
    cases hAll
    rfl
  | cons a as ih =>
    simp only [List.mapM_cons, bind, pure, Option.bind_eq_some_iff, Option.some.injEq] at hAll
    obtain ⟨b, hFirst, bs, hRest, rfl⟩ := hAll
    rw [List.map_cons, ← h hFirst, ← ih hRest]

end Views

/-- A text is known by its code points. -/
theorem textOfCodes?_codesOf (text : String) : textOfCodes? (codesOf text) = some text := by
  rw [textOfCodes?, codesOf, mapM_map_make charOfCode?_toNat]
  simp

theorem text?_ofText (text : String) : (ofText text).text? = some text :=
  textOfCodes?_codesOf text

theorem texts?_ofTexts (texts : List String) : (ofTexts texts).texts? = some texts :=
  mapM_map_make text?_ofText texts

theorem hexValue?_hexDigit : ∀ n < 16, Text.hexValue? (hexDigit n) = some n := by
  decide

/-- Four digits give a code unit back. -/
theorem unitValue?_hexDigits {unit : Nat} (h : unit < 65536) :
    unitValue? (hexDigit (unit / 4096 % 16)) (hexDigit (unit / 256 % 16))
      (hexDigit (unit / 16 % 16)) (hexDigit (unit % 16)) = some unit := by
  have hDigit (n : Nat) : Text.hexValue? (hexDigit (n % 16)) = some (n % 16) :=
    hexValue?_hexDigit _ (Nat.mod_lt _ (by decide))
  simp only [unitValue?, hDigit, bind, Option.bind, pure, Option.some.injEq]
  omega

theorem writesUnit_writeCode (c : Char) : WritesUnit c.toNat (writeCode c.toNat) := by
  have hOther {d : Char} (hNe : c.toNat ≠ d.toNat) : c ≠ d := fun heq => hNe (heq ▸ rfl)
  unfold writeCode
  split_ifs with hQuote hBackslash hBack hTab hFeed hPage hReturn hControl
  · exact hQuote ▸ .short rfl
  · exact hBackslash ▸ .short rfl
  · exact hBack ▸ .short rfl
  · exact hTab ▸ .short rfl
  · exact hFeed ▸ .short rfl
  · exact hPage ▸ .short rfl
  · exact hReturn ▸ .short rfl
  · exact .hexadecimal (unitValue?_hexDigits (by omega))
  · rw [charOfCode?_toNat]
    exact .plain (hOther hQuote) (hOther hBackslash) (Nat.not_lt.1 hControl)

/-- No two characters are the halves of a pair. -/
theorem joinPairs_toNat (chars : List Char) :
    joinPairs (chars.map Char.toNat) = chars.map Char.toNat := by
  induction chars with
  | nil => rfl
  | cons c chars ih =>
    cases chars with
    | nil => rfl
    | cons d chars =>
      have hValid : c.toNat.isValidChar := c.valid
      have hPair : ¬ (isFirstHalf c.toNat && isSecondHalf d.toNat) = true := by
        simp only [isFirstHalf, isSecondHalf, Bool.and_eq_true, decide_eq_true_eq]
        unfold Nat.isValidChar at hValid
        omega
      rw [List.map_cons, List.map_cons, joinPairs, if_neg hPair, ← List.map_cons, ih]

theorem writesText_writeText (text : String) :
    WritesText (codesOf text) (writeText (codesOf text)) := by
  have hUnits (chars : List Char) :
      WritesUnits (chars.map Char.toNat) ((chars.map Char.toNat).flatMap writeCode) := by
    induction chars with
    | nil => exact .nil
    | cons c chars ih => exact .cons (writesUnit_writeCode c) ih
  exact ⟨_, _, hUnits text.toList, joinPairs_toNat text.toList, rfl⟩

/-! ## Numbers -/

/-- Only zero is written with a zero in front. -/
theorem exists_toDigits_eq_cons {n : Nat} (h : n ≠ 0) :
    ∃ c more, Nat.toDigits 10 n = c :: more ∧ c ≠ '0' := by
  induction n using Nat.strongRecOn with
  | _ n ih =>
    rw [Nat.toDigits_eq_if (by decide)]
    split
    · next hDigit =>
      refine ⟨_, [], rfl, ?_⟩
      simpa [Nat.digitChar_eq_zero] using h
    · next hMore =>
      obtain ⟨c, more, hDigits, hZero⟩ := ih (n / 10) (by omega) (by omega)
      exact ⟨c, more ++ [Nat.digitChar (n % 10)], by rw [hDigits]; rfl, hZero⟩

/-- A natural number is written as numbers are. -/
theorem splitNumber?_toDigits (n : Nat) :
    splitNumber? (Nat.toDigits 10 n) = some (Nat.toDigits 10 n, []) := by
  have hDigits : ∀ c ∈ Nat.toDigits 10 n, c.isDigit := fun c hMem =>
    Nat.isDigit_of_mem_toDigits (by decide) (by decide) hMem
  by_cases hZero : n = 0
  · subst hZero
    rfl
  · obtain ⟨c, more, hText, hFirst⟩ := exists_toDigits_eq_cons hZero
    rw [hText] at hDigits ⊢
    have hSign : c ≠ '-' := by
      rintro rfl
      cases hDigits '-' (List.mem_cons_self ..)
    have hTake : (c :: more).takeWhile Char.isDigit = c :: more :=
      List.takeWhile_eq_self_iff.2 hDigits
    have hDrop : (c :: more).dropWhile Char.isDigit = [] :=
      List.dropWhile_eq_nil_iff.2 hDigits
    simp [splitNumber?, hSign, splitUnsigned?, splitWhole?, hFirst, splitDigits?, hTake, hDrop,
      splitFraction?, splitExponent?]

/-- The natural number that a value was made from. -/
theorem natural?_ofNat (n : Nat) : (ofNat n).natural? = some n := by
  have hDigits : (Nat.toDigits 10 n).all Char.isDigit = true :=
    List.all_eq_true.2 fun c hMem => Nat.isDigit_of_mem_toDigits (by decide) (by decide) hMem
  rw [ofNat, natural?, if_pos hDigits]
  exact congrArg some Nat.ofDigitChars_ten_toDigits

/-! ## Values -/

mutual

/-- Whether the strings of a value are texts and its numbers are written as numbers are. -/
def IsWritable : Json → Prop
  | .null => True
  | .bool _ => True
  | .number written => splitNumber? written = some (written, [])
  | .string codes => ∃ text, codes = codesOf text
  | .list items => AreWritable items
  | .record members => AreWritableMembers members

/-- Whether all items of a list are writable. -/
def AreWritable : List Json → Prop
  | [] => True
  | item :: more => IsWritable item ∧ AreWritable more

/-- Whether all members of a record have texts for keys and writable values. -/
def AreWritableMembers : List (List Nat × Json) → Prop
  | [] => True
  | (key, value) :: more =>
    (∃ text, key = codesOf text) ∧ IsWritable value ∧ AreWritableMembers more

end

theorem isWritable_ofNat (n : Nat) : IsWritable (ofNat n) :=
  splitNumber?_toDigits n

theorem isWritable_ofText (text : String) : IsWritable (ofText text) :=
  ⟨text, rfl⟩

theorem isWritable_ofTexts (texts : List String) : IsWritable (ofTexts texts) := by
  have hItems : AreWritable (texts.map ofText) := by
    induction texts with
    | nil => trivial
    | cons text texts ih => exact ⟨isWritable_ofText text, ih⟩
  exact hItems

theorem isGap_newLine (depth : Nat) : IsGap (newLine depth) := by
  intro c hMem
  rcases List.mem_cons.1 hMem with rfl | hBlank
  · rfl
  · obtain rfl := List.eq_of_mem_replicate hBlank
    rfl

theorem writesKey_writeText (text : String) :
    WritesKey (codesOf text) (writeText (codesOf text) ++ [':', ' ']) := by
  refine ⟨_, [], [' '], writesText_writeText text, nofun, ?_, by simp⟩
  rintro c hMem
  obtain rfl := List.mem_singleton.1 hMem
  rfl

mutual

/-- A value is written in one of its forms. -/
theorem writes_write (depth : Nat) : (value : Json) → IsWritable value →
    Writes value (write depth value)
  | .null, _ => rfl
  | .bool true, _ => rfl
  | .bool false, _ => rfl
  | .number _, h => ⟨rfl, h⟩
  | .string _, h => by
    obtain ⟨text, rfl⟩ := h
    exact writesText_writeText text
  | .list [], _ => ⟨[], nofun, rfl⟩
  | .list (item :: more), h => by
    obtain ⟨hItem, hMore⟩ := h
    refine ⟨newLine (depth + 1), _, _, isGap_newLine _, writes_write (depth + 1) item hItem,
      writesItems_writeItems (depth + 1) (isGap_newLine depth) more hMore, ?_⟩
    simp [write]
  | .record [], _ => ⟨[], nofun, rfl⟩
  | .record ((key, value) :: more), h => by
    obtain ⟨⟨text, rfl⟩, hValue, hMore⟩ := h
    refine ⟨newLine (depth + 1), _, _, _, isGap_newLine _, writesKey_writeText text,
      writes_write (depth + 1) value hValue,
      writesMembers_writeMembers (depth + 1) (isGap_newLine depth) more hMore, ?_⟩
    simp [write]

theorem writesItems_writeItems (depth : Nat) {gap : List Char} (hGap : IsGap gap) :
    (items : List Json) → AreWritable items → WritesItems items (writeItems depth items ++ gap)
  | [], _ => hGap
  | item :: more, h => by
    obtain ⟨hItem, hMore⟩ := h
    refine ⟨[], newLine depth, _, _, nofun, isGap_newLine depth, writes_write depth item hItem,
      writesItems_writeItems depth hGap more hMore, ?_⟩
    simp [writeItems]

theorem writesMembers_writeMembers (depth : Nat) {gap : List Char} (hGap : IsGap gap) :
    (members : List (List Nat × Json)) → AreWritableMembers members →
    WritesMembers members (writeMembers depth members ++ gap)
  | [], _ => hGap
  | (key, value) :: more, h => by
    obtain ⟨⟨text, rfl⟩, hValue, hMore⟩ := h
    refine ⟨[], newLine depth, _, _, _, nofun, isGap_newLine depth, writesKey_writeText text,
      writes_write depth value hValue, writesMembers_writeMembers depth hGap more hMore, ?_⟩
    simp [writeMembers]

end

/-- A value is read from the text it is rendered as. -/
theorem ofString?_render {value : Json} (h : IsWritable value) :
    ofString? value.render = some value := by
  have hForm := writes_write 0 value h
  have hRead : ofString? (String.ofList ([] ++ write 0 value ++ [])) = some value :=
    ofString?_of_writes nofun hForm nofun
  rwa [List.nil_append, List.append_nil] at hRead

end JavaImports.Json
