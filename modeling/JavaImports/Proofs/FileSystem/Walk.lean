-- SUMMARY: What a walk comes to, in which order, and when nothing goes wrong on it.
import JavaImports.FileSystem.Walk
import JavaImports.Proofs.FileSystem.Tree
import JavaImports.Proofs.SortedMap
import JavaImports.Proofs.Text.ByteOrder
import Mathlib.Data.List.Basic

/-! # What a walk comes to

A walk comes to what a way through directories leads to, and it comes to it in the order of the
locations, name by name: a directory is followed by all that lies below it before its next sibling
comes, and siblings are sorted. All that can go wrong is that some directory on the way cannot be
listed or holds entries that cannot be told. If none does, the walk misses nothing. -/

namespace JavaImports.FileSystem

/-! ## One directory -/

section Listing

variable {fs : FileSystem} {directory : Location}

theorem mem_entries_iff {name : String} {node : Node} :
    (name, node) ∈ fs.entries directory ↔ fs.nodeAt? (directory ++ [name]) = some node := by
  rw [mem_entries_iff_mem, SortedMap.mem_entries_iff]
  simp [nodeAt?]

theorem compare_append (directory location other : Location) :
    compare (directory ++ location) (directory ++ other) = compare location other := by
  induction directory with
  | nil => rfl
  | cons name directory ih => simp [List.compare_cons_cons, ih]

/-- A directory holds each name once. -/
theorem pairwise_entries (fs : FileSystem) (directory : Location) :
    (fs.entries directory).Pairwise fun a b => compare a.1 b.1 = .lt := by
  refine List.pairwise_filterMap.2 (fs.nodes.sorted.imp fun {a b} hLess x hx y hy => ?_)
  obtain ⟨name, hName, rfl⟩ := Option.map_eq_some_iff.1 hx
  obtain ⟨other, hOther, rfl⟩ := Option.map_eq_some_iff.1 hy
  rw [entryName?_eq_some_iff.1 hName, entryName?_eq_some_iff.1 hOther, compare_append] at hLess
  simpa [List.compare_cons_cons] using hLess

/-- Entries of a directory are told one before the other. -/
def Precedes (a b : Except WalkError (String × Node)) : Prop :=
  ∀ entry other, a = .ok entry → b = .ok other → compare entry.1 other.1 = .lt

theorem isBefore_trans {a b c : Except WalkError (String × Node)} (hFirst : isBefore a b)
    (hSecond : isBefore b c) : isBefore a c := by
  obtain trouble | ⟨name, node⟩ := a <;> obtain trouble | ⟨name, node⟩ := b <;>
    obtain trouble | ⟨name, node⟩ := c <;> simp only [isBefore] at *
  · cases hFirst
  · cases hFirst
  · cases hSecond
  · exact Std.TransCmp.isLE_trans hFirst hSecond

theorem isBefore_total (a b : Except WalkError (String × Node)) :
    isBefore a b || isBefore b a := by
  obtain trouble | ⟨name, node⟩ := a <;> obtain trouble | ⟨other, node⟩ := b <;>
    simp only [isBefore, Bool.or_true, Bool.true_or, Bool.or_eq_true]
  have hSwap : compare other name = (compare name other).swap := Std.OrientedOrd.eq_swap
  rw [hSwap]
  cases compare name other <;> decide

/-- No two entries of a directory have the same name. -/
theorem pairwise_listing (fs : FileSystem) (directory : Location) :
    (fs.listing directory).Pairwise fun a b =>
      ∀ entry other, a = .ok entry → b = .ok other → entry.1 ≠ other.1 := by
  unfold listing
  split
  · exact List.pairwise_singleton ..
  · refine List.pairwise_append.2 ⟨List.pairwise_map.2 ?_, List.pairwise_map.2 ?_, ?_⟩
    · exact List.pairwise_of_forall fun _ _ => nofun
    · refine (pairwise_entries fs directory).imp fun {a b} hLess entry other => ?_
      intro hEntry hOther hSame
      cases hEntry
      cases hOther
      rw [hSame, Std.compare_self] at hLess
      cases hLess
    · intro a hLost b hEntry entry other hOk
      obtain ⟨lost, -, rfl⟩ := List.mem_map.1 hLost
      cases hOk

/-- A walk goes through a directory in the order of the names. -/
theorem pairwise_sortedListing (fs : FileSystem) (directory : Location) :
    (fs.sortedListing directory).Pairwise Precedes := by
  have hSorted : ((fs.listing directory).mergeSort isBefore).Pairwise fun a b => isBefore a b :=
    List.pairwise_mergeSort (fun a b c => @isBefore_trans a b c) isBefore_total _
  have hApart := (List.Perm.pairwise_iff (fun {a b} h entry other hEntry hOther =>
    (h other entry hOther hEntry).symm) (List.mergeSort_perm (fs.listing directory) isBefore)).2
      (pairwise_listing fs directory)
  refine (hSorted.and hApart).imp fun {a b} ⟨hBefore, hNames⟩ entry other hEntry hOther => ?_
  have hDistinct := hNames entry other hEntry hOther
  subst hEntry hOther
  cases hOrder : compare entry.1 other.1 with
  | lt => rfl
  | eq => exact absurd (Std.compare_eq_iff_eq.1 hOrder) hDistinct
  | gt => simp [isBefore, hOrder] at hBefore

theorem forall_error_notMem_sortedListing_iff :
    (∀ trouble, .error trouble ∉ fs.sortedListing directory) ↔
      fs.troubles.unlisted? directory = none ∧ fs.troubles.lost directory = [] := by
  simp only [sortedListing, List.mem_mergeSort, listing]
  cases fs.troubles.unlisted? directory with
  | some error => simp
  | none =>
    simp only [List.mem_append, List.mem_map, Prod.exists, reduceCtorEq, and_false, exists_false,
      or_false, Except.error.injEq, true_and, List.eq_nil_iff_forall_not_mem, Prod.forall]
    constructor
    · exact fun h name? error hLost => h _ ⟨name?, error, hLost, rfl⟩
    · rintro h trouble ⟨name?, error, hLost, -⟩
      exact h name? error hLost

end Listing

/-! ## One level of a walk -/

/-- The part of a walk that a part of a listing stands for. -/
def walkPart (fs : FileSystem) (top below : Location) :
    Except WalkError (String × Node) → List (Except WalkError (Location × Node))
  | .error trouble => [.error (trouble.under below)]
  | .ok (name, node) =>
    .ok (below ++ [name], node) ::
      if node = .directory then fs.walkBelow top (below ++ [name]) else []

section Levels

variable {fs : FileSystem} {top below : Location}

theorem walkBelow_eq (fs : FileSystem) (top below : Location) :
    fs.walkBelow top below = (fs.sortedListing (top ++ below)).flatMap (fs.walkPart top below) := by
  rw [walkBelow, List.flatMap_subtype (g := fs.walkPart top below), List.unattach_attach]
  rintro (trouble | ⟨name, node⟩) h <;> rfl

/-- What holds of a walk if it holds of the walks through all directories in its own holds of every
    walk. -/
theorem walkBelow_induction (fs : FileSystem) (top : Location) {motive : Location → Prop}
    (step : ∀ below, (∀ name, .ok (name, .directory) ∈ fs.sortedListing (top ++ below) →
      motive (below ++ [name])) → motive below) (below : Location) : motive below :=
  step below fun name _ => walkBelow_induction fs top step (below ++ [name])
termination_by fs.depth - (top ++ below).length
decreasing_by exact depth_sub_lt ‹_›

theorem mem_walkPart_ok_iff {part : Except WalkError (String × Node)}
    {place : Location} {node : Node} : .ok (place, node) ∈ fs.walkPart top below part ↔
      ∃ name found, part = .ok (name, found) ∧
        (place = below ++ [name] ∧ node = found ∨
          found = .directory ∧ .ok (place, node) ∈ fs.walkBelow top (below ++ [name])) := by
  obtain trouble | ⟨name, found⟩ := part
  · simp [walkPart]
  · by_cases hDirectory : found = .directory <;> simp [walkPart, hDirectory]

theorem mem_walkPart_error_iff {part : Except WalkError (String × Node)} {trouble : WalkError} :
    .error trouble ∈ fs.walkPart top below part ↔
      (∃ cause, part = .error cause ∧ trouble = cause.under below) ∨
        ∃ name, part = .ok (name, .directory) ∧
          .error trouble ∈ fs.walkBelow top (below ++ [name]) := by
  obtain cause | ⟨name, found⟩ := part
  · simp [walkPart]
  · by_cases hDirectory : found = .directory <;> simp [walkPart, hDirectory]

/-! ## What a walk comes to -/

/-- A walk comes to nothing but what ways through directories lead to. -/
theorem leads_of_mem_walkBelow {place : Location} {node : Node}
    (h : .ok (place, node) ∈ fs.walkBelow top below) :
    ∃ rest, place = below ++ rest ∧ fs.Leads (top ++ below) rest node := by
  induction below using walkBelow_induction fs top generalizing place node with
  | step below ih =>
    rw [walkBelow_eq] at h
    obtain ⟨part, hPart, hMem⟩ := List.mem_flatMap.1 h
    obtain ⟨name, found, rfl, ⟨rfl, rfl⟩ | ⟨rfl, hBelow⟩⟩ := mem_walkPart_ok_iff.1 hMem
    · have hEntry := mem_entries_iff.1 (mem_sortedListing_ok_iff.1 hPart).2
      exact ⟨[name], rfl, .entry hEntry⟩
    · have hEntry := mem_entries_iff.1 (mem_sortedListing_ok_iff.1 hPart).2
      obtain ⟨rest, rfl, hRest⟩ := ih name hPart hBelow
      refine ⟨name :: rest, by simp, .enter hEntry ?_⟩
      simpa using hRest

/-- A walk comes to each entry before what lies below it, and to all that lies below it before the
    next entry of the same directory: so its order is that of the locations. -/
theorem pairwise_walkBelow (fs : FileSystem) (top below : Location) :
    (fs.walkBelow top below).Pairwise fun a b =>
      ∀ entry other, a = .ok entry → b = .ok other → compare entry.1 other.1 = .lt := by
  induction below using walkBelow_induction fs top with
  | step below ih =>
    rw [walkBelow_eq, List.pairwise_flatMap]
    -- everything at or below an entry begins with the place of that entry
    have hFront {part : Except WalkError (String × Node)} {entry : Location × Node}
        (hMem : .ok entry ∈ fs.walkPart top below part) :
        ∃ name found rest, part = .ok (name, found) ∧ entry.1 = below ++ name :: rest := by
      obtain ⟨name, found, rfl, ⟨hPlace, -⟩ | ⟨-, hBelow⟩⟩ := mem_walkPart_ok_iff.1 hMem
      · exact ⟨name, found, [], rfl, hPlace⟩
      · obtain ⟨rest, hPlace, -⟩ := leads_of_mem_walkBelow hBelow
        exact ⟨name, found, rest, rfl, by simpa using hPlace⟩
    constructor
    · rintro (trouble | ⟨name, node⟩) hPart
      · exact List.pairwise_singleton ..
      · refine List.pairwise_cons.2 ⟨?_, ?_⟩
        · rintro other hMem entry there hEntry rfl
          cases hEntry
          split at hMem
          · obtain ⟨rest, hPlace, hLeads⟩ := leads_of_mem_walkBelow hMem
            obtain ⟨next, rest, rfl⟩ := List.exists_cons_of_ne_nil hLeads.nodeAt?.1
            have hDeeper := compare_append (below ++ [name]) [] (next :: rest)
            rw [List.append_nil] at hDeeper
            rw [hPlace, hDeeper]
            rfl
          · cases hMem
        · split
          · next hDirectory => exact ih name (hDirectory ▸ hPart)
          · exact .nil
    · refine (pairwise_sortedListing fs (top ++ below)).imp ?_
      intro a b hBefore x hx y hy entry other hEntry hOther
      subst hEntry hOther
      obtain ⟨name, found, rest, rfl, hPlace⟩ := hFront hx
      obtain ⟨name', found', rest', rfl, hPlace'⟩ := hFront hy
      have hNames : compare name name' = .lt := hBefore _ _ rfl rfl
      rw [hPlace, hPlace', compare_append, List.compare_cons_cons, hNames]
      rfl

/-! ## When nothing goes wrong -/

/-- Whether everything below a directory can be told: every directory that a way leads to can be
    listed, and so can the directory itself, and none has an entry that cannot be told. -/
structure IsListable (fs : FileSystem) (directory : Location) : Prop where
  listed {way : Location} : way = [] ∨ fs.Leads directory way .directory →
    fs.troubles.unlisted? (directory ++ way) = none
  told {way : Location} : way = [] ∨ fs.Leads directory way .directory →
    fs.troubles.lost (directory ++ way) = []

/-- Everything below a directory can be told if that holds of the directory and of everything below
    the directories in it. -/
theorem isListable_iff_entries {directory : Location} : fs.IsListable directory ↔
    (fs.troubles.unlisted? directory = none ∧ fs.troubles.lost directory = []) ∧
      ∀ name, fs.nodeAt? (directory ++ [name]) = some .directory →
        fs.IsListable (directory ++ [name]) := by
  constructor
  · intro h
    refine ⟨⟨by simpa using h.listed (.inl rfl), by simpa using h.told (.inl rfl)⟩, ?_⟩
    intro name hEntry
    have hWay {way : Location}
        (hThere : way = [] ∨ fs.Leads (directory ++ [name]) way .directory) :
        fs.Leads directory (name :: way) .directory := by
      rcases hThere with rfl | hLeads
      · exact .entry hEntry
      · exact .enter hEntry hLeads
    constructor <;> intro way hThere
    · simpa using h.listed (.inr (hWay hThere))
    · simpa using h.told (.inr (hWay hThere))
  · rintro ⟨⟨hListed, hTold⟩, hEntries⟩
    constructor <;> rintro way (rfl | hLeads)
    · simpa using hListed
    · cases hLeads with
      | entry hEntry => simpa using (hEntries _ hEntry).listed (.inl rfl)
      | enter hEntry hRest => simpa using (hEntries _ hEntry).listed (.inr hRest)
    · simpa using hTold
    · cases hLeads with
      | entry hEntry => simpa using (hEntries _ hEntry).told (.inl rfl)
      | enter hEntry hRest => simpa using (hEntries _ hEntry).told (.inr hRest)

/-- Nothing goes wrong on a walk exactly if everything can be told. -/
theorem isListable_iff : fs.IsListable (top ++ below) ↔
    ∀ trouble, .error trouble ∉ fs.walkBelow top below := by
  induction below using walkBelow_induction fs top with
  | step below ih =>
    rw [isListable_iff_entries, ← forall_error_notMem_sortedListing_iff, walkBelow_eq]
    constructor
    · rintro ⟨hHere, hEntries⟩ trouble hMem
      obtain ⟨part, hPart, hTrouble⟩ := List.mem_flatMap.1 hMem
      rcases mem_walkPart_error_iff.1 hTrouble with ⟨cause, rfl, -⟩ | ⟨name, rfl, hBelow⟩
      · exact hHere cause hPart
      · have hListable := hEntries name (mem_entries_iff.1 (mem_sortedListing_ok_iff.1 hPart).2)
        rw [List.append_assoc] at hListable
        exact (ih name hPart).1 hListable trouble hBelow
    · intro hClear
      have hHere (trouble : WalkError) : .error trouble ∉ fs.sortedListing (top ++ below) :=
        fun hMem => hClear (trouble.under below)
          (List.mem_flatMap.2 ⟨_, hMem, mem_walkPart_error_iff.2 (.inl ⟨trouble, rfl, rfl⟩)⟩)
      refine ⟨hHere, fun name hEntry => ?_⟩
      have hListed := (forall_error_notMem_sortedListing_iff.1 hHere).1
      have hPart := mem_sortedListing_ok_iff.2 ⟨hListed, mem_entries_iff.2 hEntry⟩
      rw [List.append_assoc]
      refine (ih name hPart).2 fun trouble hBelow => hClear trouble ?_
      exact List.mem_flatMap.2 ⟨_, hPart, mem_walkPart_error_iff.2 (.inr ⟨name, rfl, hBelow⟩)⟩

/-- If everything can be told, a walk comes to whatever a way leads to. -/
theorem IsListable.mem_walkBelow {relative : Location} {node : Node}
    (hListable : fs.IsListable (top ++ below)) (h : fs.Leads (top ++ below) relative node) :
    .ok (below ++ relative, node) ∈ fs.walkBelow top below := by
  generalize hDirectory : top ++ below = directory at h
  induction h generalizing below with
  | @entry directory name node hEntry =>
    subst hDirectory
    obtain ⟨⟨hListed, -⟩, -⟩ := isListable_iff_entries.1 hListable
    have hPart := mem_sortedListing_ok_iff.2 ⟨hListed, mem_entries_iff.2 hEntry⟩
    rw [walkBelow_eq]
    exact List.mem_flatMap.2 ⟨_, hPart, mem_walkPart_ok_iff.2 ⟨_, _, rfl, .inl ⟨rfl, rfl⟩⟩⟩
  | @enter directory name rest node hEntry hRest ih =>
    subst hDirectory
    obtain ⟨⟨hListed, -⟩, hEntries⟩ := isListable_iff_entries.1 hListable
    have hPart := mem_sortedListing_ok_iff.2 ⟨hListed, mem_entries_iff.2 hEntry⟩
    have hBelow := @ih (below ++ [name]) (by simpa using hEntries name hEntry) (by simp)
    rw [List.append_assoc, List.singleton_append] at hBelow
    rw [walkBelow_eq]
    exact List.mem_flatMap.2 ⟨_, hPart, mem_walkPart_ok_iff.2 ⟨_, _, rfl, .inr ⟨rfl, hBelow⟩⟩⟩

end Levels

/-! ## What can be told -/

/-- What a walk below a directory comes to, without what cannot be told. -/
def toldBelow (fs : FileSystem) (directory : Location) : List (Location × Node) :=
  (fs.walkBelow directory []).filterMap Except.toOption

theorem mem_toldBelow_iff {fs : FileSystem} {directory : Location} {entry : Location × Node} :
    entry ∈ fs.toldBelow directory ↔ .ok entry ∈ fs.walkBelow directory [] := by
  simp only [toldBelow, List.mem_filterMap]
  constructor
  · rintro ⟨trouble | told, hMem, hTold⟩
    · cases hTold
    · cases hTold
      exact hMem
  · exact fun hMem => ⟨_, hMem, rfl⟩

theorem pairwise_toldBelow (fs : FileSystem) (directory : Location) :
    (fs.toldBelow directory).Pairwise fun a b => compare a.1 b.1 = .lt := by
  refine List.pairwise_filterMap.2 ((fs.pairwise_walkBelow directory []).imp ?_)
  rintro (trouble | told) (trouble' | told') hLess entry hEntry other hOther
  · cases hEntry
  · cases hEntry
  · cases hOther
  · cases hEntry
    cases hOther
    exact hLess _ _ rfl rfl

theorem leads_of_mem_toldBelow {fs : FileSystem} {directory relative : Location} {node : Node}
    (h : (relative, node) ∈ fs.toldBelow directory) : fs.Leads directory relative node := by
  obtain ⟨rest, rfl, hLeads⟩ := leads_of_mem_walkBelow (mem_toldBelow_iff.1 h)
  simpa using hLeads

namespace IsListable

variable {fs : FileSystem} {directory : Location} (h : fs.IsListable directory)

include h

/-- If everything can be told, a walk comes to exactly what ways through directories lead to. -/
theorem mem_toldBelow_iff {relative : Location} {node : Node} :
    (relative, node) ∈ fs.toldBelow directory ↔ fs.Leads directory relative node := by
  refine ⟨leads_of_mem_toldBelow, fun hLeads => ?_⟩
  have hTop : fs.IsListable (directory ++ []) := by rwa [List.append_nil]
  have hMem := hTop.mem_walkBelow (by rwa [List.append_nil])
  exact FileSystem.mem_toldBelow_iff.2 hMem

theorem walkBelow_eq : fs.walkBelow directory [] = (fs.toldBelow directory).map .ok := by
  have hClear : ∀ trouble, .error trouble ∉ fs.walkBelow directory [] :=
    isListable_iff.1 (by rwa [List.append_nil])
  rw [toldBelow]
  generalize fs.walkBelow directory [] = parts at hClear
  induction parts with
  | nil => rfl
  | cons part parts ih =>
    have hMore := ih fun trouble hMem => hClear trouble (List.mem_cons_of_mem _ hMem)
    cases part with
    | error trouble => exact absurd List.mem_cons_self (hClear trouble)
    | ok told => exact congrArg (Except.ok told :: ·) hMore

end IsListable

/-! ## The order of all locations -/

/-- The rest of a location that lies below a directory. -/
def below? (directory location : Location) : Option Location :=
  if directory.isPrefixOf location && location != directory then
    some (location.drop directory.length)
  else none

theorem below?_eq_some_iff {directory location relative : Location} :
    below? directory location = some relative ↔
      relative ≠ [] ∧ location = directory ++ relative := by
  unfold below?
  constructor
  · intro h
    split at h
    · next hBelow =>
      simp only [Bool.and_eq_true, List.isPrefixOf_iff_prefix, bne_iff_ne] at hBelow
      obtain ⟨⟨rest, rfl⟩, hOther⟩ := hBelow
      rw [List.drop_left] at h
      obtain rfl := Option.some.inj h
      exact ⟨fun hEmpty => hOther (by simp [hEmpty]), rfl⟩
    · cases h
  · rintro ⟨hRelative, rfl⟩
    simp [List.isPrefixOf_iff_prefix, hRelative]

/-- What stands below a directory, in the order of all locations. -/
def nodesBelow (fs : FileSystem) (directory : Location) : List (Location × Node) :=
  fs.nodes.entries.filterMap fun (location, node) =>
    (below? directory location).map fun relative => (relative, node)

theorem mem_nodesBelow_iff {fs : FileSystem} {directory relative : Location} {node : Node} :
    (relative, node) ∈ fs.nodesBelow directory ↔
      relative ≠ [] ∧ fs.nodeAt? (directory ++ relative) = some node := by
  simp only [nodesBelow, List.mem_filterMap, Option.map_eq_some_iff, below?_eq_some_iff,
    Prod.exists, Prod.mk.injEq, SortedMap.mem_entries_iff, nodeAt?]
  constructor
  · rintro ⟨_, _, hNode, _, ⟨hRelative, rfl⟩, rfl, rfl⟩
    exact ⟨hRelative, by rwa [if_neg (by simp [hRelative])]⟩
  · rintro ⟨hRelative, hNode⟩
    rw [if_neg (by simp [hRelative])] at hNode
    exact ⟨_, _, hNode, _, ⟨hRelative, rfl⟩, rfl, rfl⟩

theorem nodeAt?_eq_of_nodesBelow {fs after : FileSystem} {here there : Location}
    (h : after.nodesBelow there = fs.nodesBelow here) {relative : Location}
    (hRelative : relative ≠ []) :
    after.nodeAt? (there ++ relative) = fs.nodeAt? (here ++ relative) := by
  refine Option.ext fun node => ?_
  have hMem {files : FileSystem} {directory : Location} :
      files.nodeAt? (directory ++ relative) = some node ↔
        (relative, node) ∈ files.nodesBelow directory := by
    rw [mem_nodesBelow_iff, and_iff_right hRelative]
  rw [hMem, hMem, h]

/-- In a tree where everything can be told, a walk is the part of all locations that lies below its
    directory: going down into directories one after another keeps the order of the locations. -/
theorem IsListable.toldBelow_eq {fs : FileSystem} {directory : Location} (hTree : fs.IsTree)
    (h : fs.IsListable directory) : fs.toldBelow directory = fs.nodesBelow directory := by
  have hSorted : (fs.nodesBelow directory).Pairwise fun a b => compare a.1 b.1 = .lt := by
    refine List.pairwise_filterMap.2 (fs.nodes.sorted.imp fun {a b} hLess x hx y hy => ?_)
    obtain ⟨relative, hRelative, rfl⟩ := Option.map_eq_some_iff.1 hx
    obtain ⟨other, hOther, rfl⟩ := Option.map_eq_some_iff.1 hy
    rwa [(below?_eq_some_iff.1 hRelative).2, (below?_eq_some_iff.1 hOther).2,
      compare_append] at hLess
  refine SortedMap.StrictlySorted.eq_of_mem_iff (pairwise_toldBelow fs directory) hSorted ?_
  rintro ⟨relative, node⟩
  rw [h.mem_toldBelow_iff, hTree.leads_iff, mem_nodesBelow_iff]

/-! ## Equal walks -/

/-- Directories with the same names and the same nodes have the same entries. -/
theorem entries_congr {fs after : FileSystem} {here there : Location}
    (h : ∀ name, after.nodeAt? (there ++ [name]) = fs.nodeAt? (here ++ [name])) :
    after.entries there = fs.entries here := by
  refine SortedMap.StrictlySorted.eq_of_mem_iff (pairwise_entries after there)
    (pairwise_entries fs here) fun ⟨name, node⟩ => ?_
  rw [mem_entries_iff, mem_entries_iff, h]

/-- Two directories with the same nodes below them, where the same cannot be told, have the same
    walk. -/
structure SameWalk (fs after : FileSystem) (here there : Location) : Prop where
  node {relative : Location} : relative ≠ [] →
    after.nodeAt? (there ++ relative) = fs.nodeAt? (here ++ relative)
  unlisted (relative : Location) :
    after.troubles.unlisted? (there ++ relative) = fs.troubles.unlisted? (here ++ relative)
  lost (relative : Location) :
    after.troubles.lost (there ++ relative) = fs.troubles.lost (here ++ relative)

theorem SameWalk.walkBelow_eq {fs after : FileSystem} {here there : Location}
    (h : SameWalk fs after here there) (below : Location) :
    after.walkBelow there below = fs.walkBelow here below := by
  induction below using walkBelow_induction fs here with
  | step below ih =>
    have hListing : after.sortedListing (there ++ below) = fs.sortedListing (here ++ below) := by
      have hEntries : after.entries (there ++ below) = fs.entries (here ++ below) := by
        refine entries_congr fun name => ?_
        rw [List.append_assoc, List.append_assoc]
        exact h.node (by simp)
      rw [sortedListing, sortedListing, listing, listing, h.unlisted, h.lost, hEntries]
    rw [FileSystem.walkBelow_eq, FileSystem.walkBelow_eq, hListing]
    refine List.flatMap_congr fun part hPart => ?_
    obtain trouble | ⟨name, node⟩ := part
    · rfl
    · simp only [walkPart]
      split
      · next hDirectory => rw [ih name (hDirectory ▸ hPart)]
      · rfl

/-! ## Walks without troubles -/

theorem isListable_of_troubles {fs : FileSystem} (hTroubles : fs.troubles = {})
    (directory : Location) : fs.IsListable directory := by
  constructor <;> intro way _ <;> rw [hTroubles]

end JavaImports.FileSystem
