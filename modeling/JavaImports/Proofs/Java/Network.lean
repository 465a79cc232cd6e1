-- SUMMARY: The network of the grammar spells the phrases of the grammar.
import JavaImports.Java.Network

/-! # What a network spells

Walking through a network from one place to another spells a phrase. The places that are added for a
phrase spell it, whatever is added before or after, so every category is spelled by its own network.
What can be read on the way is what the phrases say. -/

namespace JavaImports.Java

variable {stops stops' : Array Stop} {place next last : Nat}

/-! ## Spelling -/

mutual

/-- Whether walking from a place to another one spells a phrase. -/
def Spells (stops : Array Stop) (place next : Nat) : Phrase → Prop
  | .terminal t => stops[place]? = some (.read t next)
  | .category c => stops[place]? = some (.enter c next)
  | .sequence phrases => SpellsSequence stops place next phrases
  | .choice phrases =>
    ∃ entries, stops[place]? = some (.fork entries) ∧ SpellsEach stops entries next phrases
  | .optional phrase =>
    ∃ entry, stops[place]? = some (.fork [entry, next]) ∧ Spells stops entry next phrase
  | .many phrase =>
    ∃ entry, stops[place]? = some (.fork [entry, next]) ∧ Spells stops entry place phrase

/-- Whether walking from a place to another one spells phrases one after another. -/
def SpellsSequence (stops : Array Stop) (place next : Nat) : List Phrase → Prop
  | [] => place = next
  | phrase :: more =>
    ∃ middle, Spells stops place middle phrase ∧ SpellsSequence stops middle next more

/-- Whether walking from each of several places to one spells a phrase each. -/
def SpellsEach (stops : Array Stop) (entries : List Nat) (next : Nat) : List Phrase → Prop
  | [] => entries = []
  | phrase :: more => ∃ entry rest, entries = entry :: rest ∧ Spells stops entry next phrase ∧
      SpellsEach stops rest next more

end

theorem exists_of_spellsEach {entries : List Nat} {phrases : List Phrase}
    (h : SpellsEach stops entries next phrases) {phrase : Phrase} (hMem : phrase ∈ phrases) :
    ∃ entry ∈ entries, Spells stops entry next phrase := by
  induction phrases generalizing entries with
  | nil => cases hMem
  | cons first more ih =>
    obtain ⟨entry, rest, rfl, hFirst, hMore⟩ := h
    rcases List.mem_cons.1 hMem with rfl | hMem
    · exact ⟨entry, List.mem_cons_self .., hFirst⟩
    · obtain ⟨found, hFound, hPhrase⟩ := ih hMore hMem
      exact ⟨found, List.mem_cons_of_mem _ hFound, hPhrase⟩

/-- What stands in a range of places is the same. -/
def SameWithin (first past : Nat) (stops stops' : Array Stop) : Prop :=
  ∀ place, first ≤ place → place < past → stops'[place]? = stops[place]?

/-- Places added at the end. -/
structure Adds (stops stops' : Array Stop) : Prop where
  size_le : stops.size ≤ stops'.size
  same : SameWithin 0 stops.size stops stops'

theorem Adds.refl (stops : Array Stop) : Adds stops stops :=
  ⟨Nat.le_refl _, fun _ _ _ => rfl⟩

theorem Adds.trans {a b c : Array Stop} (hFirst : Adds a b) (hSecond : Adds b c) : Adds a c where
  size_le := Nat.le_trans hFirst.size_le hSecond.size_le
  same place hLow hPlace := by
    rw [hSecond.same place hLow (Nat.lt_of_lt_of_le hPlace hFirst.size_le),
      hFirst.same place hLow hPlace]

theorem adds_push (stops : Array Stop) (stop : Stop) : Adds stops (stops.push stop) where
  size_le := by simp
  same place _ hPlace := by
    rw [Array.getElem?_push_lt hPlace, Array.getElem?_eq_getElem hPlace]

theorem SameWithin.mono {a b first past : Nat} (h : SameWithin a b stops stops')
    (hFirst : a ≤ first) (hPast : past ≤ b) : SameWithin first past stops stops' :=
  fun place hLow hHigh => h place (Nat.le_trans hFirst hLow) (Nat.lt_of_lt_of_le hHigh hPast)

theorem SameWithin.trans {first past : Nat} {a b c : Array Stop}
    (hFirst : SameWithin first past a b) (hSecond : SameWithin first past b c) :
    SameWithin first past a c :=
  fun place hLow hHigh => (hSecond place hLow hHigh).trans (hFirst place hLow hHigh)

/-- Places were added that have a property, whatever stands outside their range. -/
structure Builds (stops stops' : Array Stop) (property : Array Stop → Prop) : Prop where
  adds : Adds stops stops'
  holds : ∀ whole, SameWithin stops.size stops'.size stops' whole → property whole

theorem Builds.none {property : Array Stop → Prop} (h : ∀ whole, property whole) :
    Builds stops stops property :=
  ⟨.refl stops, fun whole _ => h whole⟩

/-- Adding more keeps what the places added before have. -/
theorem Builds.andThen {a b c : Array Stop} {first second : Array Stop → Prop}
    (hFirst : Builds a b first) (hSecond : Builds b c second) :
    Builds a c fun whole => first whole ∧ second whole := by
  refine ⟨hFirst.adds.trans hSecond.adds, fun whole hWhole => ⟨hFirst.holds whole ?_, ?_⟩⟩
  · have hKept := hSecond.adds.same.mono (Nat.zero_le a.size) (Nat.le_refl b.size)
    exact hKept.trans (hWhole.mono (Nat.le_refl _) hSecond.adds.size_le)
  · exact hSecond.holds whole (hWhole.mono hFirst.adds.size_le (Nat.le_refl _))

theorem Builds.imp {first second : Array Stop → Prop} (h : Builds stops stops' first)
    (hImp : ∀ whole, first whole → second whole) : Builds stops stops' second :=
  ⟨h.adds, fun whole hWhole => hImp whole (h.holds whole hWhole)⟩

theorem builds_push (stops : Array Stop) (stop : Stop) :
    Builds stops (stops.push stop) fun whole => whole[stops.size]? = some stop := by
  refine ⟨adds_push stops stop, fun whole hWhole => ?_⟩
  rw [hWhole stops.size (Nat.le_refl _) (by simp), Array.getElem?_push_size]

/-- A fork that is filled in after what it leads to was added. -/
theorem builds_loop {stop : Stop} {property : Array Stop → Prop}
    (h : Builds (stops.push (.fork [])) stops' property) :
    Builds stops (stops'.setIfInBounds stops.size stop) fun whole =>
      whole[stops.size]? = some stop ∧ property whole := by
  have hSize : stops.size < stops'.size := by
    have := h.adds.size_le
    rw [Array.size_push] at this
    exact this
  refine ⟨⟨?_, fun place hLow hPlace => ?_⟩, fun whole hWhole => ⟨?_, h.holds whole ?_⟩⟩
  · rw [Array.size_setIfInBounds]
    exact Nat.le_of_lt hSize
  · rw [Array.getElem?_setIfInBounds_ne (Nat.ne_of_gt hPlace)]
    exact ((adds_push stops (.fork [])).trans h.adds).same place hLow hPlace
  · rw [hWhole stops.size (Nat.le_refl _) (by rwa [Array.size_setIfInBounds]),
      Array.getElem?_setIfInBounds_self_of_lt hSize]
  · intro place hLow hPlace
    rw [Array.size_push] at hLow
    rw [hWhole place (Nat.le_of_succ_le hLow) (by rwa [Array.size_setIfInBounds]),
      Array.getElem?_setIfInBounds_ne (Nat.ne_of_lt hLow)]

mutual

/-- The places added for a phrase spell it. -/
theorem builds_addPhrase (stops : Array Stop) (next : Nat) (phrase : Phrase) :
    Builds stops (Network.addPhrase stops next phrase).2 fun whole =>
      Spells whole (Network.addPhrase stops next phrase).1 next phrase := by
  cases phrase with
  | terminal t =>
    simp only [Network.addPhrase, Spells]
    exact builds_push stops (.read t next)
  | category c =>
    simp only [Network.addPhrase, Spells]
    exact builds_push stops (.enter c next)
  | sequence phrases =>
    simp only [Network.addPhrase, Spells]
    exact builds_addSequence stops next phrases
  | choice phrases =>
    simp only [Network.addPhrase, Spells]
    refine ((builds_addEach stops next phrases).andThen (builds_push _ _)).imp ?_
    rintro whole ⟨hEach, hFork⟩
    exact ⟨_, hFork, hEach⟩
  | optional phrase =>
    simp only [Network.addPhrase, Spells]
    refine ((builds_addPhrase stops next phrase).andThen (builds_push _ _)).imp ?_
    rintro whole ⟨hPhrase, hFork⟩
    exact ⟨_, hFork, hPhrase⟩
  | many phrase =>
    simp only [Network.addPhrase, Spells]
    refine (builds_loop (builds_addPhrase (stops.push (.fork [])) stops.size phrase)).imp ?_
    rintro whole ⟨hFork, hPhrase⟩
    exact ⟨_, hFork, hPhrase⟩

theorem builds_addSequence (stops : Array Stop) (next : Nat) (phrases : List Phrase) :
    Builds stops (Network.addSequence stops next phrases).2 fun whole =>
      SpellsSequence whole (Network.addSequence stops next phrases).1 next phrases := by
  cases phrases with
  | nil => exact .none fun whole => rfl
  | cons phrase more =>
    simp only [Network.addSequence, SpellsSequence]
    refine ((builds_addSequence stops next more).andThen (builds_addPhrase _ _ phrase)).imp ?_
    rintro whole ⟨hMore, hPhrase⟩
    exact ⟨_, hPhrase, hMore⟩

theorem builds_addEach (stops : Array Stop) (next : Nat) (phrases : List Phrase) :
    Builds stops (Network.addEach stops next phrases).2 fun whole =>
      SpellsEach whole (Network.addEach stops next phrases).1 next phrases := by
  cases phrases with
  | nil => exact .none fun whole => rfl
  | cons phrase more =>
    simp only [Network.addEach, SpellsEach]
    refine ((builds_addPhrase stops next phrase).andThen (builds_addEach _ next more)).imp ?_
    rintro whole ⟨hPhrase, hMore⟩
    exact ⟨_, _, rfl, hPhrase, hMore⟩

end

theorem stop_of_getElem? {network : Network} {stop : Stop}
    (h : network.stops[place]? = some stop) : network.stop place = stop := by
  rw [Network.stop, Array.getD_eq_getD_getElem?, h, Option.getD_some]

/-! ## The network of the grammar -/

/-- Whether a place is the start of a network for a category. -/
def SpellsCategory (stops : Array Stop) (entry : Nat) (c : Category) : Prop :=
  ∃ last, stops[last]? = some (.leave c) ∧ Spells stops entry last (grammar c)

theorem builds_addCategory (network : Network) (c : Category) :
    ∃ entry, (network.addCategory c).entries = network.entries.setIfInBounds c.ctorIdx entry ∧
      Builds network.stops (network.addCategory c).stops fun whole =>
        SpellsCategory whole entry c := by
  refine ⟨_, rfl, ?_⟩
  refine ((builds_push network.stops (.leave c)).andThen (builds_addPhrase _ _ (grammar c))).imp ?_
  rintro whole ⟨hLeave, hPhrase⟩
  exact ⟨_, hLeave, hPhrase⟩

theorem ofNat_ctorIdx (c : Category) : Category.ofNat c.ctorIdx = c := by
  cases c <;> rfl

theorem ctorIdx_inj {a b : Category} (h : a.ctorIdx = b.ctorIdx) : a = b := by
  rw [← ofNat_ctorIdx a, ← ofNat_ctorIdx b, h]

theorem entries_foldl_addCategory (network : Network) {cs : List Category} {c : Category}
    (hOther : c ∉ cs) :
    (cs.foldl Network.addCategory network).entry c = network.entry c := by
  induction cs generalizing network with
  | nil => rfl
  | cons first more ih =>
    rw [List.mem_cons, not_or] at hOther
    obtain ⟨entry, hEntries, -⟩ := builds_addCategory network first
    rw [List.foldl_cons, ih _ hOther.2, Network.entry, Network.entry, hEntries]
    have hIndex : first.ctorIdx ≠ c.ctorIdx := fun h => hOther.1 (ctorIdx_inj h).symm
    rw [Array.getD_eq_getD_getElem?, Array.getD_eq_getD_getElem?,
      Array.getElem?_setIfInBounds_ne hIndex]

theorem builds_foldl_addCategory (network : Network) (cs : List Category)
    (hSize : ∀ c ∈ cs, c.ctorIdx < network.entries.size) :
    Builds network.stops (cs.foldl Network.addCategory network).stops fun whole =>
      ∀ c ∈ cs, SpellsCategory whole ((cs.foldl Network.addCategory network).entry c) c := by
  induction cs generalizing network with
  | nil => exact .none fun whole => nofun
  | cons first more ih =>
    rw [List.forall_mem_cons] at hSize
    obtain ⟨entry, hEntries, hFirst⟩ := builds_addCategory network first
    have hMore := ih (network.addCategory first) fun c hMem => by
      rw [hEntries, Array.size_setIfInBounds]
      exact hSize.2 c hMem
    refine (hFirst.andThen hMore).imp ?_
    rintro whole ⟨hFirst, hMore⟩ c hMem
    rw [List.foldl_cons]
    by_cases hAgain : c ∈ more
    · exact hMore c hAgain
    · obtain rfl := (List.mem_cons.1 hMem).resolve_right hAgain
      have hEntry : (network.addCategory c).entry c = entry := by
        rw [Network.entry, hEntries, Array.getD_eq_getD_getElem?,
          Array.getElem?_setIfInBounds_self_of_lt hSize.1, Option.getD_some]
      rwa [entries_foldl_addCategory _ hAgain, hEntry]

theorem ctorIdx_lt (c : Category) : c.ctorIdx < Category.string.ctorIdx + 1 := by
  cases c <;> decide

theorem mem_categories (c : Category) : c ∈ Network.categories :=
  List.mem_map.2 ⟨c.ctorIdx, List.mem_range.2 (ctorIdx_lt c), ofNat_ctorIdx c⟩

/-- Every category is spelled by its own network. -/
theorem spellsCategory_ofGrammar (c : Category) :
    SpellsCategory Network.ofGrammar.stops (Network.ofGrammar.entry c) c := by
  have hSize : ∀ c ∈ Network.categories, c.ctorIdx <
      (Array.replicate Network.categories.length 0).size := fun c _ => by
    rw [Array.size_replicate, Network.categories, List.length_map, List.length_range]
    exact ctorIdx_lt c
  have hBuilds := builds_foldl_addCategory ⟨#[], Array.replicate Network.categories.length 0⟩
    Network.categories hSize
  exact hBuilds.holds _ (fun _ _ _ => rfl) c (mem_categories c)

/-! ## Outside of strings -/

/-- Whether a terminal opens a string. -/
def Terminal.opens : Terminal → Bool
  | .openString | .openBlock => true
  | _ => false

namespace Phrase

mutual

/-- The terminals of a phrase. -/
def terminals : Phrase → List Terminal
  | .terminal t => [t]
  | .category _ => []
  | .sequence phrases => allTerminals phrases
  | .choice phrases => allTerminals phrases
  | .optional phrase => terminals phrase
  | .many phrase => terminals phrase

/-- The terminals of phrases. -/
def allTerminals : List Phrase → List Terminal
  | [] => []
  | phrase :: more => terminals phrase ++ allTerminals more

end

mutual

/-- Whether a phrase reads no piece of a string before it opens one. `behind` tells the same of what
    comes after the phrase. -/
def isOutside (behind : Bool) : Phrase → Bool
  | .terminal t => !t.isInside && (t.opens || behind)
  | .category _ => behind
  | .sequence phrases => areOutside behind phrases
  | .choice phrases => eachIsOutside behind phrases
  | .optional phrase => behind && isOutside behind phrase
  | .many phrase => behind && isOutside behind phrase

/-- The same of phrases one after another. -/
def areOutside (behind : Bool) : List Phrase → Bool
  | [] => behind
  | phrase :: more => isOutside (areOutside behind more) phrase

/-- The same of each of several phrases. -/
def eachIsOutside (behind : Bool) : List Phrase → Bool
  | [] => true
  | phrase :: more => isOutside behind phrase && eachIsOutside behind more

end

end Phrase

/-- Whether walking on from a place, for some number of steps, reads terminals of the grammar only
    and no piece of a string before one is opened. -/
def StaysOutside (stops : Array Stop) : (steps place : Nat) → Prop
  | 0, _ => True
  | steps + 1, place =>
    match stops[place]? with
    | none => False
    | some (.read t next) =>
      t.isInside = false ∧ (∃ c, t ∈ (grammar c).terminals) ∧
        (t.opens = false → StaysOutside stops steps next)
    | some (.enter _ next) => StaysOutside stops steps next
    | some (.fork nexts) => ∀ next ∈ nexts, StaysOutside stops steps next
    | some (.leave _) => True

theorem StaysOutside.of_succ {steps : Nat} (h : StaysOutside stops (steps + 1) place) :
    StaysOutside stops steps place := by
  induction steps generalizing place with
  | zero => trivial
  | succ steps ih =>
    rw [StaysOutside] at h ⊢
    cases hStop : stops[place]? with
    | none =>
      rw [hStop] at h
      exact h
    | some stop =>
      rw [hStop] at h
      cases stop with
      | read t next => exact ⟨h.1, h.2.1, fun hOpens => ih (h.2.2 hOpens)⟩
      | enter c next => exact ih h
      | fork nexts => exact fun next hMem => ih (h next hMem)
      | leave c => trivial

mutual

/-- Walking through a phrase stays outside of strings if the phrase does. -/
theorem staysOutside_of_spells {steps : Nat} {behind : Bool} (phrase : Phrase) {place next : Nat}
    (hSpells : Spells stops place next phrase) (hOutside : phrase.isOutside behind)
    (hKnown : ∀ t ∈ phrase.terminals, ∃ c, t ∈ (grammar c).terminals)
    (hNext : behind → StaysOutside stops steps next) : StaysOutside stops steps place := by
  cases phrase with
  | terminal t =>
    cases steps with
    | zero => trivial
    | succ steps =>
      rw [Spells] at hSpells
      simp only [Phrase.isOutside, Bool.and_eq_true, Bool.not_eq_true', Bool.or_eq_true] at hOutside
      rw [StaysOutside, hSpells]
      refine ⟨hOutside.1, hKnown t (List.mem_singleton_self t), fun hOpens => ?_⟩
      exact (hNext (hOutside.2.resolve_left (by simp [hOpens]))).of_succ
  | category c =>
    cases steps with
    | zero => trivial
    | succ steps =>
      rw [Spells] at hSpells
      rw [StaysOutside, hSpells]
      exact (hNext hOutside).of_succ
  | sequence phrases =>
    exact staysOutside_of_spellsSequence phrases hSpells hOutside hKnown hNext
  | choice phrases =>
    cases steps with
    | zero => trivial
    | succ steps =>
      obtain ⟨entries, hFork, hEach⟩ := hSpells
      rw [StaysOutside, hFork]
      exact staysOutside_of_spellsEach phrases hEach hOutside hKnown fun h => (hNext h).of_succ
  | optional phrase =>
    cases steps with
    | zero => trivial
    | succ steps =>
      obtain ⟨entry, hFork, hPhrase⟩ := hSpells
      rw [Phrase.isOutside, Bool.and_eq_true] at hOutside
      have hBehind := (hNext hOutside.1).of_succ
      rw [StaysOutside, hFork]
      refine List.forall_mem_cons.2 ⟨?_, List.forall_mem_singleton.2 hBehind⟩
      exact staysOutside_of_spells phrase hPhrase hOutside.2 hKnown fun _ => hBehind
  | many phrase =>
    obtain ⟨entry, hFork, hPhrase⟩ := hSpells
    rw [Phrase.isOutside, Bool.and_eq_true] at hOutside
    -- each time around takes a step, so fewer steps are left at the loop
    induction steps with
    | zero => trivial
    | succ steps ih =>
      have hBehind := (hNext hOutside.1).of_succ
      rw [StaysOutside, hFork]
      refine List.forall_mem_cons.2 ⟨?_, List.forall_mem_singleton.2 hBehind⟩
      exact staysOutside_of_spells phrase hPhrase hOutside.2 hKnown fun _ => ih fun _ => hBehind

theorem staysOutside_of_spellsSequence {steps : Nat} {behind : Bool} (phrases : List Phrase)
    {place next : Nat} (hSpells : SpellsSequence stops place next phrases)
    (hOutside : Phrase.areOutside behind phrases)
    (hKnown : ∀ t ∈ Phrase.allTerminals phrases, ∃ c, t ∈ (grammar c).terminals)
    (hNext : behind → StaysOutside stops steps next) : StaysOutside stops steps place := by
  cases phrases with
  | nil =>
    obtain rfl : place = next := hSpells
    exact hNext hOutside
  | cons phrase more =>
    obtain ⟨middle, hPhrase, hMore⟩ := hSpells
    rw [Phrase.allTerminals, List.forall_mem_append] at hKnown
    exact staysOutside_of_spells phrase hPhrase hOutside hKnown.1 fun hBehind =>
      staysOutside_of_spellsSequence more hMore hBehind hKnown.2 hNext

theorem staysOutside_of_spellsEach {steps : Nat} {behind : Bool} (phrases : List Phrase)
    {entries : List Nat} {next : Nat} (hSpells : SpellsEach stops entries next phrases)
    (hOutside : Phrase.eachIsOutside behind phrases)
    (hKnown : ∀ t ∈ Phrase.allTerminals phrases, ∃ c, t ∈ (grammar c).terminals)
    (hNext : behind → StaysOutside stops steps next) :
    ∀ entry ∈ entries, StaysOutside stops steps entry := by
  cases phrases with
  | nil =>
    obtain rfl : entries = [] := hSpells
    exact nofun
  | cons phrase more =>
    obtain ⟨entry, rest, rfl, hPhrase, hMore⟩ := hSpells
    rw [Phrase.allTerminals, List.forall_mem_append] at hKnown
    rw [Phrase.eachIsOutside, Bool.and_eq_true] at hOutside
    exact List.forall_mem_cons.2
      ⟨staysOutside_of_spells phrase hPhrase hOutside.1 hKnown.1 hNext,
        staysOutside_of_spellsEach more hMore hOutside.2 hKnown.2 hNext⟩

end

theorem isOutside_grammar (c : Category) : (grammar c).isOutside true = true := by
  cases c <;> rfl

/-- Places from which walking on stays outside of strings until one is opened. -/
def IsOutside (stops : Array Stop) (place : Nat) : Prop :=
  ∀ steps, StaysOutside stops steps place

theorem isOutside_entry (c : Category) :
    IsOutside Network.ofGrammar.stops (Network.ofGrammar.entry c) := by
  obtain ⟨last, hLeave, hSpells⟩ := spellsCategory_ofGrammar c
  refine fun steps => staysOutside_of_spells (grammar c) hSpells (isOutside_grammar c)
    (fun t hMem => ⟨c, hMem⟩) fun _ => ?_
  cases steps with
  | zero => trivial
  | succ steps =>
    rw [StaysOutside, hLeave]
    trivial

namespace IsOutside

theorem lt_size (h : IsOutside stops place) : place < stops.size := by
  have hStep := h 1
  rw [StaysOutside] at hStep
  refine Nat.lt_of_not_le fun hPlace => ?_
  rw [Array.getElem?_eq_none hPlace] at hStep
  exact hStep

theorem getElem?_stop {network : Network} (h : IsOutside network.stops place) :
    network.stops[place]? = some (network.stop place) := by
  rw [Network.stop, Array.getD_eq_getD_getElem?, Array.getElem?_eq_getElem h.lt_size,
    Option.getD_some]

theorem read {t : Terminal} (h : IsOutside stops place)
    (hStop : stops[place]? = some (.read t next)) :
    t.isInside = false ∧ (∃ c, t ∈ (grammar c).terminals) ∧
      (t.opens = false → IsOutside stops next) := by
  have hStep (steps : Nat) := h (steps + 1)
  simp only [StaysOutside, hStop] at hStep
  exact ⟨(hStep 0).1, (hStep 0).2.1, fun hOpens steps => (hStep steps).2.2 hOpens⟩

theorem enter {c : Category} (h : IsOutside stops place)
    (hStop : stops[place]? = some (.enter c next)) : IsOutside stops next := fun steps => by
  have hStep := h (steps + 1)
  rwa [StaysOutside, hStop] at hStep

theorem fork {nexts : List Nat} (h : IsOutside stops place)
    (hStop : stops[place]? = some (.fork nexts)) : ∀ next ∈ nexts, IsOutside stops next := by
  intro next hMem steps
  have hStep := h (steps + 1)
  rw [StaysOutside, hStop] at hStep
  exact hStep next hMem

end IsOutside

end JavaImports.Java
