-- SUMMARY: The items at a position of a chart are closed under what they lead to.
import JavaImports.Java.Chart
import JavaImports.Proofs.Java.Network
import Mathlib.Data.Finset.Card
import Mathlib.Data.Finset.Prod

/-! # Closing the items at a position

The items at a position are worked through one after another, and each adds what it leads to. There
are at most as many as places times positions, so when the work ends none is left over. -/

namespace JavaImports.Java

deriving instance ReflBEq, LawfulBEq for Item

namespace Chart

/-! ## Adding items -/

/-- The items seen are the ones listed, and none is listed twice. -/
structure Lists (items : Array Item) (seen : Std.HashSet Item) : Prop where
  contains_iff : ∀ item, seen.contains item ↔ item ∈ items
  nodup : items.toList.Nodup

theorem lists_empty : Lists #[] {} where
  contains_iff item := by simp
  nodup := List.nodup_nil

theorem Lists.push {items : Array Item} {seen : Std.HashSet Item} {item : Item}
    (h : Lists items seen) (hNew : item ∉ items) : Lists (items.push item) (seen.insert item) where
  contains_iff other := by
    rw [Std.HashSet.contains_insert, Bool.or_eq_true, beq_iff_eq, h.contains_iff, Array.mem_push,
      or_comm, eq_comm]
  nodup := by
    rw [Array.toList_push, List.nodup_append]
    refine ⟨h.nodup, List.nodup_singleton item, fun a hMem b hSame hEq => ?_⟩
    rw [hEq, List.mem_singleton.1 hSame, Array.mem_toList_iff] at hMem
    exact hNew hMem

/-- What adding items gives: the old ones in front, and the new ones once each. -/
structure Added (items added : Array Item) (seen : Std.HashSet Item) (more : List Item) : Prop where
  lists : Lists added seen
  grows : items.toList <+: added.toList
  mem_iff : ∀ item, item ∈ added ↔ item ∈ items ∨ item ∈ more

theorem added_addNew {items : Array Item} {seen : Std.HashSet Item} (h : Lists items seen)
    (more : List Item) :
    Added items (addNew items seen more).1 (addNew items seen more).2 more := by
  induction more generalizing items seen with
  | nil => exact ⟨h, List.prefix_refl _, fun item => by simp [addNew]⟩
  | cons first more ih =>
    rw [addNew]
    split
    · next hSeen =>
      have hOld := (h.contains_iff first).1 hSeen
      refine ⟨(ih h).lists, (ih h).grows, fun item => ?_⟩
      rw [(ih h).mem_iff, List.mem_cons]
      refine or_congr_right' fun hNew => (or_iff_right fun hFirst => ?_).symm
      exact hNew (hFirst ▸ hOld)
    · next hSeen =>
      have hMore := ih (h.push (mt (h.contains_iff first).2 hSeen))
      refine ⟨hMore.lists, List.IsPrefix.trans ?_ hMore.grows, fun item => ?_⟩
      · rw [Array.toList_push]
        exact List.prefix_append _ _
      · rw [hMore.mem_iff, Array.mem_push, List.mem_cons, or_assoc]

/-! ## Working through the items -/

/-- Whether an item has led to items listed, by what was known at the time. -/
def IsSettled (network : Network) (chart : Chart) (here : Nat) (items : Array Item) (item : Item) :
    Prop :=
  ∃ current, (∀ known ∈ current, known ∈ items) ∧
    ∀ next ∈ successors network chart here current item, next ∈ items

theorem IsSettled.mono {network : Network} {chart : Chart} {here : Nat} {items more : Array Item}
    {item : Item} (h : IsSettled network chart here items item)
    (hMore : ∀ item ∈ items, item ∈ more) : IsSettled network chart here more item := by
  obtain ⟨current, hKnown, hNext⟩ := h
  exact ⟨current, fun known hMem => hMore _ (hKnown known hMem),
    fun next hMem => hMore _ (hNext next hMem)⟩

/-- A property of items that passes on to the items they lead to, and that few items have. -/
structure PassesOn (network : Network) (chart : Chart) (here bound : Nat)
    (property : Item → Prop) : Prop where
  successors : ∀ {current : Array Item} {item : Item}, (∀ known ∈ current, property known) →
    property item → ∀ next ∈ successors network chart here current item, property next
  length_le : ∀ {items : List Item}, items.Nodup → (∀ item ∈ items, property item) →
    items.length ≤ bound

variable {network : Network} {chart : Chart} {here bound : Nat} {property : Item → Prop}

/-- The items so far: all have the property, and the first ones are settled. -/
structure Progress (network : Network) (chart : Chart) (here : Nat) (property : Item → Prop)
    (next : Nat) (items : Array Item) (seen : Std.HashSet Item) : Prop where
  lists : Lists items seen
  holds : ∀ item ∈ items, property item
  settled : ∀ index < next, ∀ item, items[index]? = some item →
    IsSettled network chart here items item

theorem Added.getElem? {items added : Array Item} {seen : Std.HashSet Item} {more : List Item}
    (h : Added items added seen more) {index : Nat} (hIndex : index < items.size) :
    added[index]? = items[index]? := by
  have hSame := List.prefix_iff_getElem?.1 h.grows index (by rwa [Array.length_toList])
  rw [Array.getElem?_toList] at hSame
  rw [hSame, Array.getElem?_eq_getElem hIndex, Array.getElem_toList]

theorem Progress.step {next : Nat} {items : Array Item} {seen : Std.HashSet Item} {item : Item}
    (hPasses : PassesOn network chart here bound property)
    (h : Progress network chart here property next items seen) (hItem : items[next]? = some item)
    {added : Array Item} {seen' : Std.HashSet Item}
    (hAdded : Added items added seen' (successors network chart here items item)) :
    Progress network chart here property (next + 1) added seen' := by
  have hKept : ∀ item ∈ items, item ∈ added := fun item hMem => (hAdded.mem_iff item).2 (.inl hMem)
  refine ⟨hAdded.lists, fun other hMem => ?_, fun index hIndex other hOther => ?_⟩
  · rcases (hAdded.mem_iff other).1 hMem with hOld | hNew
    · exact h.holds other hOld
    · exact hPasses.successors h.holds (h.holds item (Array.mem_of_getElem? hItem)) other hNew
  · have hNext : next < items.size := (Array.getElem?_eq_some_iff.1 hItem).1
    rw [hAdded.getElem? (Nat.lt_of_le_of_lt (Nat.le_of_lt_succ hIndex) hNext)] at hOther
    rcases Nat.lt_succ_iff_lt_or_eq.1 hIndex with hBefore | rfl
    · exact (h.settled index hBefore other hOther).mono hKept
    · obtain rfl := Option.some.inj (hItem.symm.trans hOther)
      exact ⟨items, hKept, fun next hMem => (hAdded.mem_iff next).2 (.inr hMem)⟩

/-- What working through all items gives. -/
structure IsClosure (network : Network) (chart : Chart) (here : Nat) (property : Item → Prop)
    (kernel items : Array Item) : Prop where
  grows : ∀ item ∈ kernel, item ∈ items
  holds : ∀ item ∈ items, property item
  settled : ∀ item ∈ items, IsSettled network chart here items item

theorem Progress.isClosure {next : Nat} {items : Array Item} {seen : Std.HashSet Item}
    (h : Progress network chart here property next items seen) (hAll : items.size ≤ next) :
    IsClosure network chart here property items items := by
  refine ⟨fun item hMem => hMem, h.holds, fun item hMem => ?_⟩
  obtain ⟨index, hIndex, rfl⟩ := Array.getElem_of_mem hMem
  exact h.settled index (Nat.lt_of_lt_of_le hIndex hAll) _ (Array.getElem?_eq_getElem hIndex)

theorem isClosure_closeFrom (hPasses : PassesOn network chart here bound property)
    {fuel next : Nat} {items : Array Item} {seen : Std.HashSet Item}
    (h : Progress network chart here property next items seen) (hFuel : bound ≤ fuel + next) :
    IsClosure network chart here property items
      (closeFrom network chart here fuel next items seen) := by
  induction fuel generalizing next items seen with
  | zero =>
    -- no item is left over: there are at most as many as were worked through
    have hSize : items.size ≤ bound := by
      rw [← Array.length_toList]
      exact hPasses.length_le h.lists.nodup fun item hMem => h.holds item (by simpa using hMem)
    exact h.isClosure (by omega)
  | succ fuel ih =>
    rw [closeFrom]
    split
    · next hNone => exact h.isClosure (Array.getElem?_eq_none_iff.1 hNone)
    · next item hItem =>
      have hAdded := added_addNew h.lists (successors network chart here items item)
      have hMore := ih (h.step hPasses hItem hAdded) (by omega)
      refine ⟨fun old hMem => ?_, hMore.holds, hMore.settled⟩
      exact hMore.grows old ((hAdded.mem_iff old).2 (.inl hMem))

theorem isClosure_close (hPasses : PassesOn network chart here (network.stops.size * (here + 1))
    property) {kernel : List Item} (hKernel : ∀ item ∈ kernel, property item) :
    IsClosure network chart here property kernel.toArray (close network chart here kernel) := by
  have hAdded := added_addNew lists_empty kernel
  have hStart : Progress network chart here property 0 (addNew #[] {} kernel).1
      (addNew #[] {} kernel).2 := by
    refine ⟨hAdded.lists, fun item hMem => ?_, nofun⟩
    exact hKernel item (((hAdded.mem_iff item).1 hMem).resolve_left (Array.not_mem_empty item))
  have hClosure := isClosure_closeFrom hPasses hStart (Nat.le_refl _)
  refine ⟨fun item hMem => ?_, hClosure.holds, hClosure.settled⟩
  exact hClosure.grows item ((hAdded.mem_iff item).2 (.inr (by simpa using hMem)))

/-! ## Items that fit -/

/-- Whether an item may be alive at a position: walking on from it stays outside of strings, and its
    category began there or before. -/
structure Fits (network : Network) (here : Nat) (item : Item) : Prop where
  isOutside : IsOutside network.stops item.place
  origin_le : item.origin ≤ here

theorem length_le_of_fits {items : List Item} (hNodup : items.Nodup)
    (h : ∀ item ∈ items, Fits network here item) :
    items.length ≤ network.stops.size * (here + 1) := by
  let pairs := items.map fun item => (item.place, item.origin)
  have hPairs : pairs.Nodup := hNodup.map fun a b hSame => by
    cases a
    cases b
    simpa using hSame
  have hWithin : pairs.toFinset ⊆ Finset.range network.stops.size ×ˢ Finset.range (here + 1) := by
    intro pair hMem
    obtain ⟨item, hItem, rfl⟩ := List.mem_map.1 (List.mem_toFinset.1 hMem)
    rw [Finset.mem_product, Finset.mem_range, Finset.mem_range]
    exact ⟨(h item hItem).isOutside.lt_size, Nat.lt_succ_of_le (h item hItem).origin_le⟩
  have hCard := Finset.card_le_card hWithin
  rw [List.toFinset_card_of_nodup hPairs, Finset.card_product, Finset.card_range,
    Finset.card_range, List.length_map] at hCard
  exact hCard

/-! ## What items lead to -/

theorem mem_successors_fork {current : Array Item} {item : Item} {nexts : List Nat}
    (hStop : network.stop item.place = .fork nexts) {next : Item} :
    next ∈ successors network chart here current item ↔
      ∃ place ∈ nexts, next = ⟨place, item.origin⟩ := by
  simp only [successors, hStop, List.mem_map]
  exact exists_congr fun place => and_congr_right fun _ => eq_comm

theorem mem_successors_enter {current : Array Item} {item : Item} {c : Category} {after : Nat}
    (hStop : network.stop item.place = .enter c after) {next : Item} :
    next ∈ successors network chart here current item ↔ next = ⟨network.entry c, here⟩ := by
  simp only [successors, hStop, List.mem_singleton]

theorem mem_successors_leave {current : Array Item} {item : Item} {c : Category}
    (hStop : network.stop item.place = .leave c) {next : Item} :
    next ∈ successors network chart here current item ↔
      ∃ outer ∈ if item.origin < here then chart.getD item.origin #[] else current,
        ∃ place, network.stop outer.place = .enter c place ∧ next = ⟨place, outer.origin⟩ := by
  simp only [successors, hStop, List.mem_filterMap, Array.mem_toList_iff]
  refine exists_congr fun outer => and_congr_right fun _ => ?_
  split
  · next inner place hOuter =>
    rw [hOuter]
    by_cases hSame : inner = c
    · simp [hSame, eq_comm]
    · simp [hSame]
  · next hOuter =>
    refine iff_of_false nofun ?_
    rintro ⟨place, hEnter, -⟩
    exact hOuter c place hEnter

/-- Only items at earlier positions are looked up. -/
theorem successors_congr {chart' : Chart}
    (hSame : ∀ position < here, chart'.getD position #[] = chart.getD position #[])
    (current : Array Item) (item : Item) :
    successors network chart' here current item = successors network chart here current item := by
  unfold successors
  split
  · rfl
  · rfl
  · rfl
  · split
    · next hBefore => rw [hSame item.origin hBefore]
    · rfl

theorem IsSettled.congr {chart' : Chart} {items : Array Item} {item : Item}
    (h : IsSettled network chart here items item)
    (hSame : ∀ position < here, chart'.getD position #[] = chart.getD position #[]) :
    IsSettled network chart' here items item := by
  obtain ⟨current, hKnown, hNext⟩ := h
  refine ⟨current, hKnown, ?_⟩
  rwa [successors_congr hSame]

theorem passesOn_fits (hEntry : ∀ c, IsOutside network.stops (network.entry c))
    (hChart : ∀ position, ∀ item ∈ chart.getD position #[], Fits network position item) :
    PassesOn network chart here (network.stops.size * (here + 1)) (Fits network here) := by
  refine ⟨fun {current item} hCurrent hItem next hMem => ?_, fun hNodup => length_le_of_fits hNodup⟩
  have hStops := hItem.isOutside.getElem?_stop
  cases hStop : network.stop item.place with
  | read t after => simp [successors, hStop] at hMem
  | fork nexts =>
    obtain ⟨place, hPlace, rfl⟩ := (mem_successors_fork hStop).1 hMem
    exact ⟨hItem.isOutside.fork (hStop ▸ hStops) place hPlace, hItem.origin_le⟩
  | enter c after =>
    obtain rfl := (mem_successors_enter hStop).1 hMem
    exact ⟨hEntry c, Nat.le_refl here⟩
  | leave c =>
    obtain ⟨outer, hOuter, place, hEnter, rfl⟩ := (mem_successors_leave hStop).1 hMem
    have hFits : Fits network here outer := by
      split at hOuter
      · next hBefore =>
        have hFits := hChart item.origin outer hOuter
        exact ⟨hFits.isOutside, Nat.le_trans hFits.origin_le hItem.origin_le⟩
      · exact hCurrent outer hOuter
    exact ⟨hFits.isOutside.enter (hEnter ▸ hFits.isOutside.getElem?_stop), hFits.origin_le⟩

end Chart

end JavaImports.Java
