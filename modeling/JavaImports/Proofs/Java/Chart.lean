-- SUMMARY: The charts of a text are closed, and they reach as far as the grammar derives.
import JavaImports.Proofs.Java.Closure

/-! # Charts

Reading a text goes through its positions one after another. At each the items are closed, and the
lexemes there carry items to later positions. So a chart holds an item wherever the grammar derives
the text up to it, and reading is complete at least up to where the grammar derives the text. -/

namespace JavaImports.Java

variable {network : Network} {here : Nat}

/-! ## Lexemes -/

/-- The word at the front of a text that starts with no gap. -/
def wordAt? (text : List Char) : Option String :=
  (splitWord? text).map fun (word, _) => String.ofList word

/-- How many characters of a text a terminal takes. -/
def extentAt? (text : List Char) (reserved : Bool) (t : Terminal) : Option Nat :=
  Chart.extent? text (gapLength 0 text) (text.drop (gapLength 0 text))
    (wordAt? (text.drop (gapLength 0 text))) reserved t

/-- Whether a terminal reads a word as a reserved one. -/
def Terminal.reserves (word? : Option String) : Terminal → Bool
  | .word expected => word? = some expected
  | _ => false

namespace Chart

variable {items : Array Item} {text : List Char} {t : Terminal}

/-- Whether some item reads the word at the front of a text as a reserved one. -/
def isReserved (network : Network) (items : Array Item) (text : List Char) : Bool :=
  (readings network items).any fun read => read.1.reserves (wordAt? (text.drop (gapLength 0 text)))

/-- What the items read at the front of a text: how many characters, as which terminal, and the item
    behind them. -/
def lexemes (network : Network) (items : Array Item) (text : List Char) :
    List (Nat × Terminal × Item) :=
  (readings network items).filterMap fun read =>
    (extentAt? text (isReserved network items text) read.1).map fun n => (n, read)

/-- The length of the longest lexeme, but for the sign that closes type arguments. -/
def longest (network : Network) (items : Array Item) (text : List Char) : Nat :=
  ((lexemes network items text).filter fun lexeme => lexeme.2.1 != .closeAngle).foldl
    (fun n lexeme => max n lexeme.1) 0

theorem mem_readings {moved : Item} : (t, moved) ∈ readings network items ↔
    ∃ item ∈ items, network.stop item.place = .read t moved.place ∧ moved.origin = item.origin := by
  simp only [readings, List.mem_filterMap, Array.mem_toList_iff]
  refine exists_congr fun item => and_congr_right fun _ => ?_
  split
  · next found next hStop =>
    rw [hStop]
    obtain ⟨place, origin⟩ := moved
    simp [and_assoc, eq_comm]
  · next hStop =>
    refine iff_of_false (by simp) ?_
    rintro ⟨hRead, -⟩
    exact hStop _ _ hRead

theorem exists_of_isReserved (h : isReserved network items text) :
    ∃ item ∈ items, ∃ expected next, network.stop item.place = .read (.word expected) next ∧
      wordAt? (text.drop (gapLength 0 text)) = some expected := by
  obtain ⟨⟨t, moved⟩, hMem, hWord⟩ := List.any_eq_true.1 h
  obtain ⟨item, hItem, hReads, -⟩ := mem_readings.1 hMem
  cases t with
  | word expected => exact ⟨item, hItem, expected, _, hReads, of_decide_eq_true hWord⟩
  | _ => cases hWord

theorem mem_lexemes {n : Nat} {moved : Item} : (n, t, moved) ∈ lexemes network items text ↔
    (t, moved) ∈ readings network items ∧
      extentAt? text (isReserved network items text) t = some n := by
  rw [lexemes, List.mem_filterMap]
  constructor
  · rintro ⟨read, hRead, hExtent⟩
    obtain ⟨length, hLength, hSame⟩ := Option.map_eq_some_iff.1 hExtent
    cases hSame
    exact ⟨hRead, hLength⟩
  · rintro ⟨hRead, hExtent⟩
    exact ⟨_, hRead, by rw [hExtent, Option.map_some]⟩

/-- The longest lexemes carry items on, and so does the sign that closes type arguments. -/
theorem mem_advances_iff {n : Nat} {moved : Item} : (n, moved) ∈ advances network items text ↔
    ∃ t, (n, t, moved) ∈ lexemes network items text ∧
      (n = longest network items text ∨ t = .closeAngle) := by
  have hAdvances : advances network items text =
      ((lexemes network items text).filter fun lexeme =>
        lexeme.1 = longest network items text || lexeme.2.1 = .closeAngle).map
          fun lexeme => (lexeme.1, lexeme.2.2) := rfl
  simp [hAdvances]

/-! ## What lexemes carry on -/

/-- Where no quote stands no string is opened. -/
theorem extentAt?_of_opens (hQuote : '"' ∉ text) (hOpens : t.opens) {reserved : Bool} :
    extentAt? text reserved t = none := by
  let rest := text.drop (gapLength 0 text)
  have hScan (more : String) : (Scan.exactly ("\"" ++ more)) rest = none := by
    refine if_neg fun hFront => hQuote (List.mem_of_mem_drop (i := gapLength 0 text) ?_)
    refine (List.isPrefixOf_iff_prefix.1 hFront).subset ?_
    rw [String.toList_append]
    exact List.mem_cons_self ..
  cases t with
  | openString => exact congrArg (Option.map (gapLength 0 text + ·)) (hScan "")
  | openBlock => exact congrArg (Option.map (gapLength 0 text + ·)) (hScan "\"\"")
  | _ => cases hOpens

theorem fits_of_mem_advances (hQuote : '"' ∉ text)
    (hItems : ∀ item ∈ items, Fits network here item) :
    ∀ entry ∈ advances network items text, Fits network here entry.2 := by
  rintro ⟨n, next, origin⟩ hMem
  obtain ⟨t, hLexeme, -⟩ := mem_advances_iff.1 hMem
  obtain ⟨hRead, hExtent⟩ := mem_lexemes.1 hLexeme
  obtain ⟨item, hItem, hStop, rfl⟩ := mem_readings.1 hRead
  have hFits := hItems item hItem
  obtain ⟨-, -, hNext⟩ := hFits.isOutside.read (hStop ▸ hFits.isOutside.getElem?_stop)
  refine ⟨hNext ?_, hFits.origin_le⟩
  rw [Bool.eq_false_iff]
  intro hOpens
  rw [extentAt?_of_opens hQuote hOpens] at hExtent
  cases hExtent

end Chart

namespace Reading

/-! ## One position -/

/-- The items that lexemes carried to a position. -/
def kernel (here : Nat) (pending : List (Nat × Item)) : List Item :=
  (pending.filter fun entry => entry.1 = here).map (·.2)

/-- The items alive at a position. -/
def itemsAt (network : Network) (chart : Chart) (here : Nat) (pending : List (Nat × Item)) :
    Array Item :=
  if (kernel here pending).isEmpty then #[]
  else Chart.close network chart here (kernel here pending)

/-- What is carried to positions behind this one. -/
def carriedOn (network : Network) (chart : Chart) (here : Nat) (pending : List (Nat × Item))
    (text : List Char) : List (Nat × Item) :=
  (pending.filter fun entry => here < entry.1) ++
    (if (kernel here pending).isEmpty then []
      else (Chart.advances network (itemsAt network chart here pending) text).map
        fun (n, item) => (here + n, item))

/-- What has been read when a position is done. -/
def readAt (network : Network) (c : Category) (here : Nat) (pending : List (Nat × Item))
    (reading : Reading) (text : List Char) : Reading :=
  let items := itemsAt network reading.chart here pending
  let chart := reading.chart.push items
  if (kernel here pending).isEmpty then { reading with chart }
  else
    { chart
      complete? := if isComplete network c items then some here else reading.complete?
      reach := here
      rest := text }

theorem extend_eq (network : Network) (c : Category) (here : Nat) (pending : List (Nat × Item))
    (reading : Reading) (text : List Char) : extend network c here pending reading text =
      match carriedOn network reading.chart here pending text, text with
      | [], _ => readAt network c here pending reading text
      | _, [] => readAt network c here pending reading text
      | carried, _ :: rest =>
        extend network c (here + 1) carried (readAt network c here pending reading text) rest := by
  rw [extend.eq_def]
  rfl

/-- Reading ends where nothing is carried on, and at the end of the text. -/
theorem extend_eq_readAt {c : Category} {pending : List (Nat × Item)} {reading : Reading}
    {text : List Char} (h : carriedOn network reading.chart here pending text = [] ∨ text = []) :
    extend network c here pending reading text = readAt network c here pending reading text := by
  rw [extend_eq]
  rcases h with hNone | rfl
  · rw [hNone]
  · split
    · rfl
    · rfl
    · contradiction

theorem extend_cons {c : Category} {pending : List (Nat × Item)} {reading : Reading} {first : Char}
    {rest : List Char} (h : carriedOn network reading.chart here pending (first :: rest) ≠ []) :
    extend network c here pending reading (first :: rest) =
      extend network c (here + 1) (carriedOn network reading.chart here pending (first :: rest))
        (readAt network c here pending reading (first :: rest)) rest := by
  rw [extend_eq]
  split
  · contradiction
  · contradiction
  · next hText _ =>
    obtain ⟨-, rfl⟩ := List.cons.inj hText
    rfl

/-- The items at a position. -/
def alive (reading : Reading) (position : Nat) : Array Item :=
  reading.chart.getD position #[]

/-- What is known when reading comes to a position. -/
structure Ready (network : Network) (here : Nat) (pending : List (Nat × Item))
    (reading : Reading) : Prop where
  size : reading.chart.size = here
  fits : ∀ position, ∀ item ∈ reading.alive position, Chart.Fits network position item
  pending : ∀ entry ∈ pending, Chart.Fits network entry.1 entry.2

variable {pending : List (Nat × Item)} {reading : Reading} {c : Category} {text : List Char}

theorem mem_kernel {item : Item} : item ∈ kernel here pending ↔ (here, item) ∈ pending := by
  simp only [kernel, List.mem_map, List.mem_filter, decide_eq_true_eq, Prod.exists]
  constructor
  · rintro ⟨n, other, ⟨hMem, rfl⟩, rfl⟩
    exact hMem
  · intro hMem
    exact ⟨here, item, ⟨hMem, rfl⟩, rfl⟩

theorem isClosure_itemsAt (hEntry : ∀ c, IsOutside network.stops (network.entry c))
    (h : Ready network here pending reading) :
    Chart.IsClosure network reading.chart here (Chart.Fits network here)
      (kernel here pending).toArray (itemsAt network reading.chart here pending) := by
  have hKernel : ∀ item ∈ kernel here pending, Chart.Fits network here item :=
    fun item hMem => h.pending _ (mem_kernel.1 hMem)
  rw [itemsAt]
  split
  · next hEmpty =>
    rw [List.isEmpty_iff.1 hEmpty]
    exact ⟨fun item hMem => hMem, nofun, nofun⟩
  · exact Chart.isClosure_close (Chart.passesOn_fits hEntry h.fits) hKernel

theorem mem_carriedOn {entry : Nat × Item} :
    entry ∈ carriedOn network reading.chart here pending text ↔
      (entry ∈ pending ∧ here < entry.1) ∨
      ∃ carried ∈ Chart.advances network (itemsAt network reading.chart here pending) text,
        entry = (here + carried.1, carried.2) := by
  have hNone : Chart.advances network #[] text = [] := rfl
  rw [carriedOn, List.mem_append, List.mem_filter, decide_eq_true_eq]
  refine or_congr_right ?_
  split
  · next hEmpty => simp [itemsAt, hEmpty, hNone]
  · rw [List.mem_map]
    exact exists_congr fun carried => and_congr_right fun _ => eq_comm

theorem chart_readAt : (readAt network c here pending reading text).chart =
    reading.chart.push (itemsAt network reading.chart here pending) := by
  unfold readAt
  dsimp only
  split <;> rfl

theorem complete?_readAt : (readAt network c here pending reading text).complete? =
    if isComplete network c (itemsAt network reading.chart here pending) then some here
    else reading.complete? := by
  unfold readAt
  dsimp only
  split
  · next hEmpty => simp [itemsAt, hEmpty, isComplete]
  · rfl

theorem alive_readAt (h : Ready network here pending reading) (position : Nat) :
    (readAt network c here pending reading text).alive position =
      if position = here then itemsAt network reading.chart here pending
      else reading.alive position := by
  rw [alive, chart_readAt, Array.getD_eq_getD_getElem?, Array.getElem?_push, h.size]
  split
  · rfl
  · rw [alive, Array.getD_eq_getD_getElem?]

theorem alive_eq_empty (h : Ready network here pending reading) {position : Nat}
    (hPosition : here ≤ position) : reading.alive position = #[] := by
  rw [alive, Array.getD_eq_getD_getElem?, Array.getElem?_eq_none (h.size ▸ hPosition)]
  rfl

theorem Ready.step (hEntry : ∀ c, IsOutside network.stops (network.entry c)) (hQuote : '"' ∉ text)
    (h : Ready network here pending reading) :
    Ready network (here + 1) (carriedOn network reading.chart here pending text)
      (readAt network c here pending reading text) := by
  have hItems := isClosure_itemsAt hEntry h
  refine ⟨?_, fun position item hMem => ?_, fun entry hMem => ?_⟩
  · rw [chart_readAt, Array.size_push, h.size]
  · rw [alive_readAt h] at hMem
    split at hMem
    · next hHere =>
      rw [hHere]
      exact hItems.holds item hMem
    · exact h.fits position item hMem
  · rcases mem_carriedOn.1 hMem with ⟨hPending, -⟩ | ⟨carried, hCarried, rfl⟩
    · exact h.pending entry hPending
    · have hFits := Chart.fits_of_mem_advances hQuote hItems.holds carried hCarried
      exact ⟨hFits.isOutside, Nat.le_add_right_of_le hFits.origin_le⟩

/-! ## All positions -/

/-- What reading on from a position makes of what is known there. `whole` is the text from the
    first position on. -/
structure Grown (network : Network) (c : Category) (whole : List Char) (here : Nat)
    (pending : List (Nat × Item)) (start final : Reading) : Prop where
  kept : ∀ position < here, final.alive position = start.alive position
  fits : ∀ position, ∀ item ∈ final.alive position, Chart.Fits network position item
  arrived : ∀ entry ∈ pending, here ≤ entry.1 → entry.1 ≤ whole.length →
    entry.2 ∈ final.alive entry.1
  settled : ∀ position, here ≤ position → ∀ item ∈ final.alive position,
    Chart.IsSettled network final.chart position (final.alive position) item
  carried : ∀ position, here ≤ position →
    ∀ entry ∈ Chart.advances network (final.alive position) (whole.drop position),
      0 < entry.1 → position + entry.1 ≤ whole.length → entry.2 ∈ final.alive (position + entry.1)
  complete : ∀ position, here ≤ position → isComplete network c (final.alive position) →
    ∃ n ≥ position, final.complete? = some n
  last : (∃ n ≥ here, final.complete? = some n) ∨ final.complete? = start.complete?

variable {whole : List Char} {final : Reading}

theorem grown_self (h : Ready network here pending reading)
    (hPending : ∀ entry ∈ pending, here ≤ entry.1 → whole.length < entry.1) :
    Grown network c whole here pending reading reading where
  kept _ _ := rfl
  fits := h.fits
  arrived entry hMem hHere hLength := absurd (hPending entry hMem hHere) (Nat.not_lt_of_le hLength)
  settled position hHere item hMem := by
    rw [alive_eq_empty h hHere] at hMem
    exact absurd hMem (Array.not_mem_empty item)
  carried position hHere entry hMem := by
    rw [alive_eq_empty h hHere] at hMem
    cases hMem
  complete position hHere hComplete := by
    rw [alive_eq_empty h hHere] at hComplete
    simp [isComplete] at hComplete
  last := .inr rfl

theorem Grown.step (hEntry : ∀ c, IsOutside network.stops (network.entry c))
    (h : Ready network here pending reading)
    (hRest : Grown network c whole (here + 1)
      (carriedOn network reading.chart here pending (whole.drop here))
      (readAt network c here pending reading (whole.drop here)) final) :
    Grown network c whole here pending reading final := by
  have hItems := isClosure_itemsAt hEntry h
  have hHere : final.alive here = itemsAt network reading.chart here pending := by
    rw [hRest.kept here (Nat.lt_succ_self here), alive_readAt h, if_pos rfl]
  have hKept : ∀ position < here, final.alive position = reading.alive position := by
    intro position hBefore
    rw [hRest.kept position (Nat.lt_succ_of_lt hBefore), alive_readAt h,
      if_neg (Nat.ne_of_lt hBefore)]
  refine {
    kept := hKept
    fits := hRest.fits
    arrived := fun entry hMem hFirst hLength => ?arrived
    settled := fun position hFirst item hMem => ?settled
    carried := fun position hFirst entry hMem hSome hLength => ?carried
    complete := fun position hFirst hComplete => ?complete
    last := ?last }
  case arrived =>
    rcases Nat.eq_or_lt_of_le hFirst with hNow | hLater
    · rw [← hNow, hHere]
      refine hItems.grows entry.2 ?_
      rw [List.mem_toArray, mem_kernel, hNow]
      exact hMem
    · exact hRest.arrived entry (mem_carriedOn.2 (.inl ⟨hMem, hLater⟩)) hLater hLength
  case settled =>
    rcases Nat.eq_or_lt_of_le hFirst with rfl | hLater
    · rw [hHere] at hMem ⊢
      exact (hItems.settled item hMem).congr hKept
    · exact hRest.settled position hLater item hMem
  case carried =>
    rcases Nat.eq_or_lt_of_le hFirst with rfl | hLater
    · rw [hHere] at hMem
      exact hRest.arrived _ (mem_carriedOn.2 (.inr ⟨entry, hMem, rfl⟩)) (by omega) hLength
    · exact hRest.carried position hLater entry hMem hSome hLength
  case complete =>
    rcases Nat.eq_or_lt_of_le hFirst with rfl | hLater
    · rcases hRest.last with ⟨n, hLater, hLast⟩ | hLast
      · exact ⟨n, Nat.le_of_succ_le hLater, hLast⟩
      · rw [hHere] at hComplete
        exact ⟨here, Nat.le_refl here, by rw [hLast, complete?_readAt, if_pos hComplete]⟩
    · exact hRest.complete position hLater hComplete
  case last =>
    rcases hRest.last with ⟨n, hLater, hLast⟩ | hLast
    · exact .inl ⟨n, Nat.le_of_succ_le hLater, hLast⟩
    · rw [complete?_readAt] at hLast
      split at hLast
      · exact .inl ⟨here, Nat.le_refl here, hLast⟩
      · exact .inr hLast

theorem grown_extend (hEntry : ∀ c, IsOutside network.stops (network.entry c))
    (hQuote : '"' ∉ whole) (h : Ready network here pending reading)
    (hText : whole.drop here = text) :
    Grown network c whole here pending reading (extend network c here pending reading text) := by
  induction text generalizing here pending reading with
  | nil =>
    have hReady := h.step (c := c) hEntry (@List.not_mem_nil Char '"')
    refine Grown.step hEntry h ?_
    rw [extend_eq_readAt (.inr rfl), hText]
    refine grown_self hReady fun entry hMem hBehind => ?_
    exact Nat.lt_of_le_of_lt (List.drop_eq_nil_iff.1 hText) hBehind
  | cons first rest ih =>
    have hOutside : '"' ∉ first :: rest :=
      hText ▸ fun hMem => hQuote (List.mem_of_mem_drop hMem)
    have hReady := h.step (c := c) hEntry hOutside
    refine Grown.step hEntry h ?_
    rw [hText]
    by_cases hNone : carriedOn network reading.chart here pending (first :: rest) = []
    · rw [extend_eq_readAt (.inl hNone)]
      exact grown_self hReady fun entry hMem => absurd (hNone ▸ hMem) List.not_mem_nil
    · rw [extend_cons hNone]
      refine ih hReady ?_
      rw [← List.drop_drop, hText]
      rfl

theorem ready_ofText (hEntry : ∀ c, IsOutside network.stops (network.entry c)) (c : Category)
    (text : List Char) :
    Ready network 0 [(0, ⟨network.entry c, 0⟩)] ⟨#[], none, 0, text⟩ where
  size := rfl
  fits position item hMem := by simp [alive] at hMem
  pending := List.forall_mem_singleton.2 ⟨hEntry c, Nat.le_refl 0⟩

theorem grown_ofText (hEntry : ∀ c, IsOutside network.stops (network.entry c)) (c : Category)
    (hQuote : '"' ∉ text) :
    Grown network c text 0 [(0, ⟨network.entry c, 0⟩)] ⟨#[], none, 0, text⟩
      (ofText network c text) :=
  grown_extend hEntry hQuote (ready_ofText hEntry c text) rfl

end Reading

/-! ## Derivations -/

/-- Whether the grammar derives the text between two positions from a phrase. `reads` tells which
    terminals stand there. -/
inductive Derives (reads : Terminal → Nat → Nat → Prop) : Phrase → Nat → Nat → Prop where
  | terminal {t : Terminal} {first past : Nat} (hRead : reads t first past) :
      Derives reads (.terminal t) first past
  | category {c : Category} {first past : Nat} (hSome : first < past)
      (hText : Derives reads (grammar c) first past) : Derives reads (.category c) first past
  | nil {first : Nat} : Derives reads (.sequence []) first first
  | cons {phrase : Phrase} {more : List Phrase} {first middle past : Nat}
      (hPhrase : Derives reads phrase first middle)
      (hMore : Derives reads (.sequence more) middle past) :
      Derives reads (.sequence (phrase :: more)) first past
  | choice {phrase : Phrase} {phrases : List Phrase} {first past : Nat} (hMem : phrase ∈ phrases)
      (hPhrase : Derives reads phrase first past) : Derives reads (.choice phrases) first past
  | omitted {phrase : Phrase} {first : Nat} : Derives reads (.optional phrase) first first
  | given {phrase : Phrase} {first past : Nat} (hPhrase : Derives reads phrase first past) :
      Derives reads (.optional phrase) first past
  | done {phrase : Phrase} {first : Nat} : Derives reads (.many phrase) first first
  | again {phrase : Phrase} {first middle past : Nat} (hPhrase : Derives reads phrase first middle)
      (hMore : Derives reads (.many phrase) middle past) : Derives reads (.many phrase) first past

namespace Reading

variable {pending : List (Nat × Item)} {start final : Reading} {c : Category} {whole : List Char}

/-- Whether the items that read a terminal at a position are carried to another one. -/
def Carries (network : Network) (reading : Reading) (t : Terminal) (first past : Nat) : Prop :=
  ∀ item ∈ reading.alive first, ∀ next, network.stop item.place = .read t next →
    ⟨next, item.origin⟩ ∈ reading.alive past

namespace Grown

variable (h : Grown network c whole 0 pending start final) {position : Nat} {item : Item}
include h

theorem fork {nexts : List Nat} (hItem : item ∈ final.alive position)
    (hStop : network.stop item.place = .fork nexts) {next : Nat} (hNext : next ∈ nexts) :
    ⟨next, item.origin⟩ ∈ final.alive position := by
  obtain ⟨current, -, hSettled⟩ := h.settled position (Nat.zero_le position) item hItem
  exact hSettled _ ((Chart.mem_successors_fork hStop).2 ⟨next, hNext, rfl⟩)

theorem enter {inner : Category} {after : Nat} (hItem : item ∈ final.alive position)
    (hStop : network.stop item.place = .enter inner after) :
    ⟨network.entry inner, position⟩ ∈ final.alive position := by
  obtain ⟨current, -, hSettled⟩ := h.settled position (Nat.zero_le position) item hItem
  exact hSettled _ ((Chart.mem_successors_enter hStop).2 rfl)

theorem leave {inner : Category} (hItem : item ∈ final.alive position)
    (hStop : network.stop item.place = .leave inner) (hBefore : item.origin < position)
    {outer : Item} (hOuter : outer ∈ final.alive item.origin) {after : Nat}
    (hEnter : network.stop outer.place = .enter inner after) :
    ⟨after, outer.origin⟩ ∈ final.alive position := by
  obtain ⟨current, -, hSettled⟩ := h.settled position (Nat.zero_le position) item hItem
  refine hSettled _ ((Chart.mem_successors_leave hStop).2 ⟨outer, ?_, after, hEnter, rfl⟩)
  rwa [if_pos hBefore]

end Grown

/-- An item in front of a phrase goes through it wherever the text is derived from it. -/
theorem alive_of_derives
    (hNetwork : ∀ c, SpellsCategory network.stops (network.entry c) c)
    (h : Grown network c whole 0 pending start final) {phrase : Phrase} {first past : Nat}
    (hDerives : Derives (Carries network final) phrase first past) {place next : Nat}
    (hSpells : Spells network.stops place next phrase) {origin : Nat}
    (hAlive : ⟨place, origin⟩ ∈ final.alive first) : ⟨next, origin⟩ ∈ final.alive past := by
  induction hDerives generalizing place next origin with
  | terminal hRead =>
    rw [Spells] at hSpells
    exact hRead _ hAlive next (stop_of_getElem? hSpells)
  | category hSome _ ih =>
    rw [Spells] at hSpells
    have hStop := stop_of_getElem? hSpells
    obtain ⟨last, hLeave, hBody⟩ := hNetwork _
    have hLast := ih hBody (h.enter hAlive hStop)
    exact h.leave hLast (stop_of_getElem? hLeave) hSome hAlive hStop
  | nil =>
    obtain rfl : place = next := by simpa only [Spells, SpellsSequence] using hSpells
    exact hAlive
  | cons _ _ ihPhrase ihMore =>
    simp only [Spells, SpellsSequence] at hSpells
    obtain ⟨middle, hPhrase, hMore⟩ := hSpells
    exact ihMore hMore (ihPhrase hPhrase hAlive)
  | choice hMem _ ih =>
    rw [Spells] at hSpells
    obtain ⟨entries, hFork, hEach⟩ := hSpells
    obtain ⟨entry, hEntry, hPhrase⟩ := exists_of_spellsEach hEach hMem
    exact ih hPhrase (h.fork hAlive (stop_of_getElem? hFork) hEntry)
  | omitted =>
    rw [Spells] at hSpells
    obtain ⟨entry, hFork, -⟩ := hSpells
    exact h.fork hAlive (stop_of_getElem? hFork) (by simp)
  | given _ ih =>
    rw [Spells] at hSpells
    obtain ⟨entry, hFork, hPhrase⟩ := hSpells
    exact ih hPhrase (h.fork hAlive (stop_of_getElem? hFork) (by simp))
  | done =>
    rw [Spells] at hSpells
    obtain ⟨entry, hFork, -⟩ := hSpells
    exact h.fork hAlive (stop_of_getElem? hFork) (by simp)
  | again _ _ ihPhrase ihMore =>
    have hLoop := hSpells
    rw [Spells] at hSpells
    obtain ⟨entry, hFork, hPhrase⟩ := hSpells
    exact ihMore hLoop (ihPhrase hPhrase (h.fork hAlive (stop_of_getElem? hFork) (by simp)))

/-- Reading is complete at the end of a text of the category or behind it. -/
theorem complete?_of_derives (hEntry : ∀ c, IsOutside network.stops (network.entry c))
    (hNetwork : ∀ c, SpellsCategory network.stops (network.entry c) c) (hQuote : '"' ∉ whole)
    {past : Nat}
    (hDerives : Derives (Carries network (ofText network c whole)) (grammar c) 0 past) :
    ∃ n ≥ past, (ofText network c whole).complete? = some n := by
  have hGrown := grown_ofText hEntry c hQuote
  obtain ⟨last, hLeave, hSpells⟩ := hNetwork c
  have hStart := hGrown.arrived _ (List.mem_singleton_self _) (Nat.le_refl 0) (Nat.zero_le _)
  have hLast := alive_of_derives hNetwork hGrown hDerives hSpells hStart
  refine hGrown.complete past (Nat.zero_le past) ?_
  rw [isComplete, Array.any_eq_true']
  exact ⟨_, hLast, by simp [stop_of_getElem? hLeave]⟩

end Reading

end JavaImports.Java
