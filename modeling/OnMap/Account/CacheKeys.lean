/-
# The table as a map

Read as a map, the table holds one row for an identifier, the one stored last, and
a search returns it or the sentinel. An update replaces the row of its identifier
and keeps this so. An addition does not look for such a row: the run has searched
before it asked the server, and another run can have added one since.

A monitor remembers the row that was stored last for each identifier.
-/

import OnMap.Account.CacheTable

namespace OnMap

open AccountLocalStorage Transition

/-- The row stored last for each identifier. -/
abbrev Latest := String → Option Row

namespace ProfileCache

def noteStored (s : ProfileCache) (e : Event) (latest : Latest) : Latest :=
  match s.stores e with
  | some item => Function.update latest item.person.id (some item)
  | none => latest

/-- A search returns the row stored last if a row of the identifier is there, and the
sentinel otherwise. -/
def SearchesLatest (items : List Row) (latest : Latest) (id : String) : Prop :=
  ∃ row ∈ checkPerson items id,
    if 0 < rowsOf items id then latest id = some row
    else items.head? = some row ∧ row.person.id = ""

/-- The table is a map from non-empty identifiers to the rows stored last. -/
def KeyedByID (sm : ProfileCache × Latest) : Prop :=
  ∀ id, id ≠ "" → rowsOf sm.1.items id ≤ 1 ∧ SearchesLatest sm.1.items sm.2 id

/-- What the step adds is the only row of its identifier, once room has been made. -/
def AddsOnlyRow (s : ProfileCache) (e : Event) : Prop :=
  ∀ item ∈ s.adds e, item.person.id ≠ "" →
    ∀ kept ∈ evict s.items, rowsOf kept item.person.id = 0

/-! ### One row for each identifier -/

/-- No two rows of an identifier, and each row is the one stored last. -/
structure Keyed (items : List Row) (latest : Latest) : Prop where
  single (id : String) : id ≠ "" → rowsOf items id ≤ 1
  last (row : Row) : row ∈ items → row.person.id ≠ "" → latest row.person.id = some row

section Keyed

variable {items kept : List Row} {latest : Latest} {item row other : Row}

theorem eq_of_rowsOf_le_one (single : rowsOf items row.person.id ≤ 1) (h : row ∈ items)
    (h' : other ∈ items) (same : other.person.id = row.person.id) : other = row := by
  let named : Row → Bool := fun row' => row'.person.id == row.person.id
  rw [rowsOf, List.countP_eq_length_filter] at single
  have here : row ∈ items.filter named := List.mem_filter.mpr ⟨h, beq_self_eq_true _⟩
  have there : other ∈ items.filter named := List.mem_filter.mpr ⟨h', beq_iff_eq.mpr same⟩
  obtain ⟨only, rows⟩ := List.length_eq_one_iff.mp
    (Nat.le_antisymm single (List.length_pos_of_mem here))
  rw [rows, List.mem_singleton] at here there
  exact there.trans here.symm

/-- With a sentinel, a search of a table that is keyed by identifier returns the row
stored last. -/
theorem keyed_iff (sentinel : HasSentinel items) :
    Keyed items latest ↔
      ∀ id, id ≠ "" → rowsOf items id ≤ 1 ∧ SearchesLatest items latest id := by
  constructor
  · intro keyed id named
    refine ⟨keyed.single id named, ?_⟩
    obtain ⟨row, found, here, rowID | ⟨first, unnamed, absent⟩⟩ := sentinel.checkPerson id
    · refine ⟨row, found, ?_⟩
      rw [if_pos (rowsOf_pos.mpr ⟨row, here, rowID⟩), ← rowID]
      exact keyed.last row here (rowID ▸ named)
    · refine ⟨row, found, ?_⟩
      rw [if_neg (by omega)]
      exact ⟨first, unnamed⟩
  · intro all
    refine ⟨fun id named => (all id named).1, fun row here named => ?_⟩
    have present : 0 < rowsOf items row.person.id := rowsOf_pos.mpr ⟨row, here, rfl⟩
    obtain ⟨single, found, searched, latest⟩ := all _ named
    rw [if_pos present] at latest
    obtain ⟨found', searched', there, foundID | ⟨-, -, absent⟩⟩ :=
      sentinel.checkPerson row.person.id
    · obtain rfl := Option.some.inj (searched.symm.trans searched')
      rw [latest, eq_of_rowsOf_le_one single here there foundID]
    · exact absurd absent (Nat.ne_of_gt present)

/-- A table that has lost a row is still a map. -/
theorem Keyed.delete (keyed : Keyed items latest) {i : ℕ} (here : items[i]? = some row) :
    Keyed (Table.delete items i) latest where
  single id named := by
    have counted := Table.countP_delete here fun row => row.person.id == id
    have single := keyed.single id named
    rw [rowsOf] at single ⊢
    omega
  last other h named :=
    keyed.last other ((Table.mem_delete_iff here).mpr (Or.inr h)) named

/-- A row is the only one of its identifier exactly if there was none. -/
theorem Keyed.concat_iff (keyed : Keyed items latest) (named : item.person.id ≠ "") :
    Keyed (items ++ [item]) (Function.update latest item.person.id (some item)) ↔
      rowsOf items item.person.id = 0 := by
  constructor
  · intro keyed'
    have single := keyed'.single _ named
    rw [rowsOf_concat, if_pos rfl] at single
    omega
  · intro absent
    refine ⟨fun id named => ?_, fun row h named => ?_⟩
    · have single := keyed.single id named
      rw [rowsOf_concat]
      split
      case isTrue same =>
        subst same
        omega
      case isFalse => omega
    · rcases List.mem_append.mp h with h | h
      · have other : row.person.id ≠ item.person.id := fun same =>
          absurd absent (Nat.ne_of_gt (rowsOf_pos.mpr ⟨row, h, same⟩))
        rw [Function.update_of_ne other]
        exact keyed.last row h named
      · obtain rfl := List.mem_singleton.mp h
        exact Function.update_self ..

/-- A row of the empty identifier does not count. -/
theorem Keyed.concat_of_unnamed (keyed : Keyed items latest) (unnamed : item.person.id = "") :
    Keyed (items ++ [item]) (Function.update latest item.person.id (some item)) where
  single id named := by
    rw [rowsOf_concat, if_neg fun same => named (same.symm.trans unnamed)]
    exact keyed.single id named
  last row h named := by
    have other : row.person.id ≠ item.person.id := fun same => named (same.trans unnamed)
    rw [Function.update_of_ne other]
    rcases List.mem_append.mp h with h | h
    · exact keyed.last row h named
    · exact absurd (List.mem_singleton.mp h ▸ rfl) other

theorem Keyed.evict (keyed : Keyed items latest) (evicted : evict items = some kept) :
    Keyed kept latest := by
  rcases evict_cases items with ⟨-, same⟩ | ⟨-, row, here, same⟩
  · rwa [← Option.some.inj (same.symm.trans evicted)]
  · rw [← Option.some.inj (same.symm.trans evicted)]
    exact keyed.delete here

/-- An update finds the only row of its identifier and replaces it. -/
theorem Keyed.updatePerson (keyed : Keyed items latest) (named : item.person.id ≠ "")
    {items' : List Row} (updated : updatePerson items item = some items') :
    Keyed items' (Function.update latest item.person.id (some item)) := by
  rcases updatePerson_cases items item with
    ⟨-, trap⟩ | ⟨i, row, here, rowID, -, same⟩ | ⟨-, absent, -, same⟩
  · cases trap.symm.trans updated
  · rw [Option.some.inj (updated.symm.trans same)]
    refine ((keyed.delete here).concat_iff named).mpr ?_
    have counted := Table.countP_delete here fun row => row.person.id == item.person.id
    have single := keyed.single _ named
    rw [beq_iff_eq.mpr rowID, if_pos rfl] at counted
    rw [rowsOf] at single ⊢
    omega
  · rw [Option.some.inj (updated.symm.trans same)]
    exact (keyed.concat_iff named).mpr absent

end Keyed

/-! ### Runs -/

section Runs

variable {s t : ProfileCache} {e : Event} {latest : Latest}

theorem Ready.keyedByID_iff (ready : Ready s) :
    KeyedByID (s, latest) ↔ Keyed s.items latest :=
  (keyed_iff ready.sentinel).symm

/-- Only an addition can break the map. -/
theorem Ready.addsOnlyRow_iff (ready : Ready s) (keyed : Keyed s.items latest) :
    AddsOnlyRow s e ↔
      ∀ t, s.step e = some t → Keyed t.items (noteStored s e latest) := by
  constructor
  · intro onlyRow t taken
    rcases (ready.moves taken).table with
      ⟨noAdd, noUpdate, same⟩ | ⟨item, adds, -, added⟩ | ⟨item, noAdd, updates, updated⟩
    · simpa only [noteStored, stores, noAdd, noUpdate, Option.or_none, same] using keyed
    · obtain ⟨kept, evicted, same⟩ := addPerson_eq_some_iff.mp added
      simp only [noteStored, stores, adds, Option.some_or, same]
      by_cases unnamed : item.person.id = ""
      · exact (keyed.evict evicted).concat_of_unnamed unnamed
      · exact ((keyed.evict evicted).concat_iff unnamed).mpr
          (onlyRow item adds unnamed kept evicted)
    · simp only [noteStored, stores, noAdd, updates, Option.none_or]
      exact keyed.updatePerson (ready.updates_named updates) updated
  · intro kept item adds named rows evicted
    obtain ⟨t, taken, added⟩ := exists_step_of_adds adds
    obtain ⟨rows', evicted', same⟩ := addPerson_eq_some_iff.mp added
    obtain rfl := Option.some.inj (evicted.symm.trans evicted')
    have keyed' := kept t taken
    simp only [noteStored, stores, Option.mem_def.mp adds, Option.some_or, same] at keyed'
    exact ((keyed.evict evicted).concat_iff named).mp keyed'

end Runs

/-- The table is a map exactly in the runs whose additions find no row of the
identifier. -/
theorem cache_keyed_iff (users : String → Option Dictionary)
    (profiles : String → Option UIImage) (events : List Event) :
    EveryState (watch step noteStored) KeyedByID (launched users profiles, fun _ => none) events ↔
      EveryStep (watch step noteStored) (fun sm e => AddsOnlyRow sm.1 e)
        (launched users profiles, fun _ => none) events := by
  refine everyState_iff_everyStep (I := fun sm => Ready sm.1) ?_ ?_
    (ready_launched users profiles) ?_ events
  · exact watch_kept fun _ _ _ _ ready taken => ready.step taken
  · rintro ⟨s, latest⟩ e ready keyed
    rw [ready.addsOnlyRow_iff (ready.keyedByID_iff.mp keyed)]
    constructor
    · rintro kept ⟨t, latest'⟩ taken
      obtain ⟨hstep, rfl⟩ := watch_eq_some.mp taken
      exact (ready.step hstep).keyedByID_iff.mpr (kept t hstep)
    · intro kept t hstep
      exact (ready.step hstep).keyedByID_iff.mp
        (kept (t, _) (watch_eq_some.mpr ⟨hstep, rfl⟩))
  · refine (ready_launched users profiles).keyedByID_iff.mpr ⟨fun id named => ?_, ?_⟩
    · simp [rowsOf, sentinel, Ne.symm named]
    · simp [sentinel]

/-- Two runs look a user up before either has stored a row. -/
def twoMisses : List Event :=
  [.loadInfoByID "a", .loadInfoByID "a", .read 0, .read 1, .reply 0, .reply 1, .read 0, .read 1,
    .reply 0, .reply 1]

theorem not_always_keyed :
    ¬ EveryState (watch step noteStored) KeyedByID
      (launched (fun _ => none) (fun _ => none), fun _ => none) twoMisses := by
  intro keyed
  have two : (exec (watch step noteStored)
      (launched (fun _ => none) (fun _ => none), fun _ => none) twoMisses).map
        (fun sm => rowsOf sm.1.items "a") = some 2 := by decide +kernel
  obtain ⟨sm, run, rows⟩ := Option.map_eq_some_iff.mp two
  rw [← List.append_nil twoMisses] at keyed
  have single := (keyed.of_append run "a" (by decide)).1
  omega

end ProfileCache

end OnMap
