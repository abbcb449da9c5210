/-
# What a full table gives up

`addPerson` makes room in a full table by deleting `items[1]`. Rows are appended, so this
is the profile stored first as long as no row has left its place. But the last row, which
is the one stored last, fills the place of a deleted one: after one eviction the newest
profile stands at `items[1]`, and the next eviction takes it.
-/

import OnMap.Account.LocalStorage
import OnMap.Library.Transition
import Mathlib.Data.Multiset.AddSub

namespace OnMap

open Transition

namespace AccountLocalStorage

/-- A call of the table. -/
inductive Event
  | addPerson (item : Row)
  | updatePerson (item : Row)

/-- The row that the call stores. -/
def Event.item : Event → Row
  | .addPerson item | .updatePerson item => item

/-- The calls are those of `loadInfoByID`: a new identifier is added, a row of a user is
updated. -/
def step (items : List Row) : Event → Option (List Row)
  | .addPerson item => if rowsOf items item.person.id = 0 then addPerson items item else none
  | .updatePerson item =>
    if item.person.id ≠ "" ∧ 0 < rowsOf items item.person.id then updatePerson items item
    else none

/-- The index that the call deletes. -/
def deletes (items : List Row) : Event → Option ℕ
  | .addPerson _ => if items.length = 10 then some 1 else none
  | .updatePerson item => items.findIdx? fun row => row.person.id == item.person.id

/-- What has been called: how often, which call wrote each identifier last, and which
deleted `items[1]` last. -/
structure Calls where
  count : ℕ := 0
  written : String → ℕ := fun _ => 0
  replaced : Option ℕ := none

def Calls.note (calls : Calls) (id : String) (replaced : Option ℕ) : Calls where
  count := calls.count + 1
  written := Function.update calls.written id calls.count
  replaced := replaced

def noteCall (items : List Row) (e : Event) (calls : Calls) : Calls :=
  calls.note e.item.person.id
    (if deletes items e = some 1 then some calls.count else calls.replaced)

/-- An addition to a full table deletes the profile whose last write is the earliest. -/
def EvictsOldest (ic : List Row × Calls) : Event → Prop
  | .addPerson item => ic.1.length = 10 → ∀ items', step ic.1 (.addPerson item) = some items' →
    ∃ row ∈ ic.1, row.person.id ≠ "" ∧ (item :: ic.1).Perm (row :: items') ∧
      ∀ other ∈ ic.1, other.person.id ≠ "" → other ≠ row →
        ic.2.written row.person.id < ic.2.written other.person.id
  | .updatePerson _ => True

/-- At an addition to a full table, every profile behind `items[1]` has been written by
the last call that deleted `items[1]` or after it. -/
def WrittenSince (ic : List Row × Calls) : Event → Prop
  | .addPerson item => ic.1.length = 10 → rowsOf ic.1 item.person.id = 0 →
    ∀ call ∈ ic.2.replaced, ∀ other ∈ ic.1.drop 2, call ≤ ic.2.written other.person.id
  | .updatePerson _ => True

/-! ### What a call does -/

section Calls

variable {items items' kept : List Row} {calls : Calls} {e : Event} {item row : Row}

/-- No row has the identifier. -/
theorem rowsOf_eq_zero {id : String} :
    rowsOf items id = 0 ↔ ∀ row ∈ items, row.person.id ≠ id := by
  simp [rowsOf, List.countP_eq_zero]

/-- A call appends its row, to the table or to what a deletion behind the sentinel leaves. -/
inductive Stores (items : List Row) (e : Event) : List Row → Prop
  | adds (deleted : deletes items e = none) (absent : rowsOf items e.item.person.id = 0) :
    Stores items e (items ++ [e.item])
  | replaces {i : ℕ} (deleted : deletes items e = some i) (later : 0 < i)
      (bound : i < items.length)
      (absent : rowsOf (Table.delete items i) e.item.person.id = 0) :
    Stores items e (Table.delete items i ++ [e.item])

/-- Of the rows of different identifiers, only the deleted one has its identifier. -/
theorem rowsOf_delete (apart : (items.map fun row => row.person.id).Nodup) {i : ℕ}
    (here : items[i]? = some row) : rowsOf (Table.delete items i) row.person.id = 0 := by
  have split := ((Table.perm_delete here).map fun row => row.person.id).nodup_iff.mp apart
  rw [List.map_cons, List.nodup_cons] at split
  rw [rowsOf_eq_zero]
  exact fun other kept same => split.1 (same ▸ List.mem_map_of_mem kept)

theorem stores (sentinel : HasSentinel items)
    (apart : (items.map fun row => row.person.id).Nodup) (taken : step items e = some items') :
    e.item.person.id ≠ "" ∧ Stores items e items' := by
  cases e with
  | addPerson item =>
    obtain ⟨absent, added⟩ := Option.ite_none_right_eq_some.mp taken
    obtain ⟨first, head, unnamed⟩ := sentinel
    refine ⟨fun same => rowsOf_eq_zero.mp absent first (List.mem_of_mem_head? head)
      (unnamed.trans same.symm), ?_⟩
    rcases evict_cases items with ⟨room, evicted⟩ | ⟨full, row, here, evicted⟩
    · rw [addPerson, evicted] at added
      obtain rfl := Option.some.inj added
      exact .adds (if_neg room) absent
    · rw [addPerson, evicted] at added
      obtain rfl := Option.some.inj added
      have bound : 1 < items.length := by omega
      refine .replaces (if_pos full) Nat.one_pos bound (rowsOf_eq_zero.mpr fun other mem => ?_)
      exact rowsOf_eq_zero.mp absent other (Table.mem_of_mem_delete bound mem)
  | updatePerson item =>
    obtain ⟨⟨named, present⟩, updated⟩ := Option.ite_none_right_eq_some.mp taken
    refine ⟨named, ?_⟩
    cases found : items.findIdx? fun row => row.person.id == item.person.id with
    | none =>
      have none := List.findIdx?_eq_none_iff.mp found
      obtain ⟨row, here, same⟩ := rowsOf_pos.mp present
      exact absurd (beq_iff_eq.mpr same) (by simp [none row here])
    | some i =>
      obtain ⟨bound, same, -⟩ := List.findIdx?_eq_some_iff_getElem.mp found
      have here := List.getElem?_eq_getElem bound
      have user : items[i].person.id = item.person.id := by simpa using same
      rw [updatePerson.eq_def] at updated
      split at updated
      case h_1 => cases updated
      case h_2 =>
        rw [found] at updated
        obtain rfl := Option.some.inj updated
        -- the sentinel in front has no user's identifier, so the row stands behind it
        refine .replaces found (sentinel.pos here (user ▸ named)) bound ?_
        exact user ▸ rowsOf_delete apart here

end Calls

/-! ### What stands at `items[1]` -/

/-- Until `items[1]` is deleted it has the oldest profile; after that it has the one that
was the newest then, or the one of the same call. -/
def Front (items : List Row) (calls : Calls) : Prop :=
  match calls.replaced with
  | none => ∀ first ∈ items[1]?, ∀ other ∈ items, other.person.id ≠ "" →
    calls.written first.person.id ≤ calls.written other.person.id
  | some call => ∃ first ∈ items[1]?,
    calls.written first.person.id = call ∨ calls.written first.person.id + 1 = call

/-- Every profile has one row and was written by a call of its own, the last row's by the
last call. -/
structure Tracks (ic : List Row × Calls) : Prop where
  sentinel : HasSentinel ic.1
  apart : (ic.1.map fun row => row.person.id).Nodup
  earlier : ∀ row ∈ ic.1, row.person.id ≠ "" → ic.2.written row.person.id < ic.2.count
  strict : ∀ row ∈ ic.1, ∀ other ∈ ic.1, row.person.id ≠ "" → other.person.id ≠ "" →
    ic.2.written row.person.id = ic.2.written other.person.id → row = other
  newest : ∀ row ∈ ic.1.getLast?, row.person.id ≠ "" →
    ic.2.written row.person.id + 1 = ic.2.count
  front : Front ic.1 ic.2

theorem tracks_sentinel (object : ℕ) : Tracks ([sentinel object], {}) where
  sentinel := ⟨_, rfl, rfl⟩
  apart := List.nodup_singleton _
  earlier row mem named := absurd (by rw [List.mem_singleton.mp mem]; rfl) named
  strict row mem _ _ named := absurd (by rw [List.mem_singleton.mp mem]; rfl) named
  newest row last named := absurd (by rw [← Option.some.inj last]; rfl) named
  front := nofun

section Runs

variable {items items' kept : List Row} {calls : Calls} {e : Event} {item row : Row}

@[simp] theorem written_note_self (calls : Calls) (id : String) (replaced : Option ℕ) :
    (calls.note id replaced).written id = calls.count :=
  Function.update_self ..

theorem written_note_of_ne {id : String} (replaced : Option ℕ)
    (apart : row.person.id ≠ id) :
    (calls.note id replaced).written row.person.id = calls.written row.person.id :=
  Function.update_of_ne apart ..

/-- What does not depend on the order of the rows. -/
theorem Tracks.store (h : Tracks (items, calls)) (sub : ∀ row ∈ kept, row ∈ items)
    (sentinel : HasSentinel kept) (apart : (kept.map fun row => row.person.id).Nodup)
    (absent : rowsOf kept item.person.id = 0) {replaced : Option ℕ}
    (front : Front (kept ++ [item]) (calls.note item.person.id replaced)) :
    Tracks (kept ++ [item], calls.note item.person.id replaced) where
  sentinel := sentinel.append _
  apart := by
    rw [List.map_append, List.nodup_append]
    refine ⟨apart, List.nodup_singleton _, ?_⟩
    rintro id mem other new rfl
    obtain ⟨row, here, same⟩ := List.mem_map.mp mem
    exact rowsOf_eq_zero.mp absent row here (same.trans (List.mem_singleton.mp new))
  earlier row mem named := by
    rcases List.mem_append.mp mem with old | new
    · rw [written_note_of_ne replaced (rowsOf_eq_zero.mp absent row old)]
      exact Nat.lt_succ_of_lt (h.earlier row (sub row old) named)
    · rw [List.mem_singleton.mp new, written_note_self]
      exact Nat.lt_succ_self _
  strict row mem other mem' named named' same := by
    rcases List.mem_append.mp mem with old | new <;> rcases List.mem_append.mp mem' with old' | new'
    · rw [written_note_of_ne replaced (rowsOf_eq_zero.mp absent row old),
        written_note_of_ne replaced (rowsOf_eq_zero.mp absent other old')] at same
      exact h.strict row (sub row old) other (sub other old') named named' same
    · -- the new row is written by a call of its own
      rw [written_note_of_ne replaced (rowsOf_eq_zero.mp absent row old),
        List.mem_singleton.mp new', written_note_self] at same
      exact absurd same (Nat.ne_of_lt (h.earlier row (sub row old) named))
    · rw [written_note_of_ne replaced (rowsOf_eq_zero.mp absent other old'),
        List.mem_singleton.mp new, written_note_self] at same
      exact absurd same.symm (Nat.ne_of_lt (h.earlier other (sub other old') named'))
    · rw [List.mem_singleton.mp new, List.mem_singleton.mp new']
  newest row last _ := by
    rw [List.getLast?_concat, Option.mem_some_iff] at last
    rw [← last, written_note_self]
    rfl
  front := front

/-- Only the first row has the empty identifier. -/
theorem Tracks.named (h : Tracks (items, calls)) {i : ℕ} (here : items[i]? = some row)
    (later : 0 < i) : row.person.id ≠ "" := by
  obtain ⟨first, head, unnamed⟩ := h.sentinel
  obtain ⟨rest, rfl⟩ := List.head?_eq_some_iff.mp head
  obtain ⟨j, rfl⟩ := Nat.exists_eq_succ_of_ne_zero (Nat.ne_of_gt later)
  have apart := h.apart
  rw [List.map_cons, List.nodup_cons] at apart
  rw [List.getElem?_cons_succ] at here
  intro same
  exact apart.1 ((unnamed.trans same.symm) ▸ List.mem_map_of_mem (List.mem_of_getElem? here))

/-- The row at `items[1]` stays there. -/
theorem Tracks.front_stays (h : Tracks (items, calls)) (sub : ∀ row ∈ kept, row ∈ items)
    (stays : kept[1]? = items[1]?) (bound : 1 < kept.length)
    (absent : rowsOf kept item.person.id = 0) :
    Front (kept ++ [item]) (calls.note item.person.id calls.replaced) := by
  have here : (kept ++ [item])[1]? = items[1]? := by
    rw [List.getElem?_append_left bound, stays]
  have old (row : Row) (mem : row ∈ kept) :
      (calls.note item.person.id calls.replaced).written row.person.id =
        calls.written row.person.id :=
    written_note_of_ne _ (rowsOf_eq_zero.mp absent row mem)
  have inside (first : Row) (second : items[1]? = some first) : first ∈ kept :=
    List.mem_of_getElem? (stays.trans second)
  have front := h.front
  obtain ⟨count, written, replaced⟩ := calls
  cases replaced with
  | none =>
    intro first second other mem named
    rw [here] at second
    rw [old first (inside first second)]
    rcases List.mem_append.mp mem with kept' | new
    · rw [old other kept']
      exact front first second other (sub other kept') named
    · -- the new row has the latest write
      rw [List.mem_singleton.mp new, written_note_self]
      exact Nat.le_of_lt (h.earlier first (sub first (inside first second))
        (h.named second Nat.one_pos))
  | some call =>
    obtain ⟨first, second, since⟩ := front
    refine ⟨first, here.trans second, ?_⟩
    rwa [old first (inside first second)]

/-- The last row has moved to `items[1]`, or the new one is the only profile. -/
theorem Tracks.front_replaced (h : Tracks (items, calls)) (bound : 1 < items.length)
    (absent : rowsOf (Table.delete items 1) item.person.id = 0) :
    Front (Table.delete items 1 ++ [item]) (calls.note item.person.id (some calls.count)) := by
  have length := Table.length_delete bound
  rcases Nat.lt_or_eq_of_le (Nat.succ_le_of_lt bound) with more | two
  · obtain ⟨last, here⟩ : ∃ last, items.getLast? = some last :=
      Option.isSome_iff_exists.mp (by simp; rintro rfl; simp at bound)
    have second : (Table.delete items 1)[1]? = some last :=
      (Table.getElem?_delete_self more).trans here
    have named : last.person.id ≠ "" := by
      rw [List.getLast?_eq_getElem?] at here
      exact h.named here (by omega)
    -- the row that moves up was written by the call before this one
    refine ⟨last, ?_, Or.inr ?_⟩
    · rw [List.getElem?_append_left (by omega)]
      exact second
    · rw [written_note_of_ne _ (rowsOf_eq_zero.mp absent last (List.mem_of_getElem? second))]
      exact h.newest last here named
  · refine ⟨item, ?_, Or.inl (written_note_self ..)⟩
    rw [List.getElem?_append_right (by omega), length, ← two]
    rfl

/-- The first profile that is added. -/
theorem Tracks.front_first (h : Tracks (items, calls)) (one : items.length = 1) :
    Front (items ++ [item]) (calls.note item.person.id calls.replaced) := by
  have front := h.front
  obtain ⟨count, written, replaced⟩ := calls
  have empty : items[1]? = none := List.getElem?_eq_none (Nat.le_of_eq one)
  cases replaced with
  | none =>
    intro first second other mem named
    rw [List.getElem?_append_right (Nat.le_of_eq one), one] at second
    obtain rfl : item = first := Option.some.inj second
    rcases List.mem_append.mp mem with old | new
    · -- the only other row is the sentinel
      obtain ⟨head, rfl⟩ := List.length_eq_one_iff.mp one
      obtain ⟨row, first, unnamed⟩ := h.sentinel
      rw [List.mem_singleton.mp old] at named
      exact absurd (Option.some.inj first ▸ unnamed) named
    · rw [List.mem_singleton.mp new]
  | some call =>
    obtain ⟨first, second, -⟩ := front
    rw [empty] at second
    cases second

theorem Tracks.step (h : Tracks (items, calls)) (taken : step items e = some items') :
    Tracks (items', noteCall items e calls) := by
  have sentinel : HasSentinel items := h.sentinel
  obtain ⟨named, stored⟩ := stores sentinel h.apart taken
  cases stored with
  | adds deleted absent =>
    rw [noteCall, deleted, if_neg nofun]
    refine h.store (fun _ mem => mem) sentinel h.apart absent ?_
    have some := List.length_pos_iff.mpr sentinel.ne_nil
    rcases Nat.lt_or_eq_of_le (Nat.succ_le_of_lt some) with more | one
    · exact h.front_stays (fun _ mem => mem) rfl more absent
    · exact h.front_first one.symm
  | @replaces i deleted later bound absent =>
    rw [noteCall, deleted]
    have sub (row : Row) (mem : row ∈ Table.delete items i) := Table.mem_of_mem_delete bound mem
    have apart : ((Table.delete items i).map fun row => row.person.id).Nodup := by
      have perm := Table.perm_delete (List.getElem?_eq_getElem bound)
      exact (((perm.map fun row => row.person.id).nodup_iff.mp h.apart).of_cons)
    refine h.store sub (sentinel.delete later bound) apart absent ?_
    rcases Nat.lt_or_eq_of_le (Nat.succ_le_of_lt later) with behind | rfl
    · rw [if_neg fun same => Nat.ne_of_gt behind (Option.some.inj same)]
      have length := Table.length_delete bound
      refine h.front_stays sub ?_ (by omega) absent
      exact Table.getElem?_delete_of_ne (Nat.ne_of_gt behind) (by omega)
    · rw [if_pos rfl]
      exact h.front_replaced bound absent

section Full

variable {head first : Row} {rest : List Row}

/-- The rows behind `items[1]` are those of the other profiles. -/
theorem Tracks.mem_rest_iff (h : Tracks (head :: first :: rest, calls)) {other : Row} :
    other ∈ rest ↔ other ∈ head :: first :: rest ∧ other.person.id ≠ "" ∧ other ≠ first := by
  have apart := h.apart
  simp only [List.map_cons, List.nodup_cons, List.mem_cons, List.mem_map, not_or, not_exists,
    not_and] at apart
  constructor
  · intro mem
    obtain ⟨j, here⟩ := List.mem_iff_getElem?.mp mem
    have there : (head :: first :: rest)[j + 2]? = some other := here
    refine ⟨List.mem_of_getElem? there, h.named there (Nat.succ_pos _), ?_⟩
    rintro rfl
    exact apart.2.1 other mem rfl
  · rintro ⟨mem, named, behind⟩
    obtain ⟨row, top, unnamed⟩ := h.sentinel
    obtain rfl : head = row := Option.some.inj top
    rcases List.mem_cons.mp mem with rfl | mem
    · exact absurd unnamed named
    · exact (List.mem_cons.mp mem).resolve_left behind

/-- An addition to the full table deletes `items[1]`. -/
theorem Tracks.evictsOldest_addPerson (h : Tracks (head :: first :: rest, calls))
    (full : (head :: first :: rest).length = 10)
    (absent : rowsOf (head :: first :: rest) item.person.id = 0) :
    EvictsOldest (head :: first :: rest, calls) (.addPerson item) ↔
      ∀ other ∈ rest, calls.written first.person.id < calls.written other.person.id := by
  have added : AccountLocalStorage.step (head :: first :: rest) (.addPerson item) =
      some (Table.delete (head :: first :: rest) 1 ++ [item]) := by
    have bound : 1 < (head :: first :: rest).length := by omega
    rw [AccountLocalStorage.step, if_pos absent, addPerson, evict, if_pos full, if_pos bound]
    rfl
  have perm : (item :: head :: first :: rest).Perm
      (first :: (Table.delete (head :: first :: rest) 1 ++ [item])) := by
    have deleted : (head :: first :: rest).Perm
        (first :: Table.delete (head :: first :: rest) 1) := Table.perm_delete rfl
    calc item :: head :: first :: rest
      _ |>.Perm (item :: first :: Table.delete (head :: first :: rest) 1) := deleted.cons _
      _ |>.Perm (first :: item :: Table.delete (head :: first :: rest) 1) := List.Perm.swap ..
      _ |>.Perm (first :: (Table.delete (head :: first :: rest) 1 ++ [item])) :=
        (List.perm_append_singleton ..).symm.cons _
  constructor
  · intro oldest other mem
    obtain ⟨row, -, -, same, least⟩ := oldest full _ added
    -- only one row is gone
    obtain rfl : row = first := by
      have equal := Multiset.coe_eq_coe.mpr (same.symm.trans perm)
      rwa [← Multiset.cons_coe, ← Multiset.cons_coe, Multiset.cons_inj_left] at equal
    obtain ⟨here, named, behind⟩ := h.mem_rest_iff.mp mem
    exact least other here named behind
  · intro least _ items' taken
    obtain rfl := Option.some.inj (added.symm.trans taken)
    refine ⟨first, by simp, h.named (i := 1) rfl Nat.one_pos, perm, ?_⟩
    exact fun other here named behind => least other (h.mem_rest_iff.mpr ⟨here, named, behind⟩)

/-- The row at `items[1]` is the oldest if the others have been written since. -/
theorem Tracks.oldest_iff (h : Tracks (head :: first :: rest, calls)) :
    (∀ other ∈ rest, calls.written first.person.id < calls.written other.person.id) ↔
      ∀ call ∈ calls.replaced, ∀ other ∈ rest, call ≤ calls.written other.person.id := by
  have apart (other : Row) (mem : other ∈ rest) :
      calls.written first.person.id ≠ calls.written other.person.id := by
    obtain ⟨here, named, behind⟩ := h.mem_rest_iff.mp mem
    exact fun same => behind (h.strict first (by simp) other here
      (h.named (i := 1) rfl Nat.one_pos) named same).symm
  have front : Front (head :: first :: rest) calls := h.front
  rw [Front] at front
  cases since : calls.replaced with
  | none =>
    rw [since] at front
    refine iff_of_true (fun other mem => ?_) nofun
    obtain ⟨here, named, -⟩ := h.mem_rest_iff.mp mem
    exact Nat.lt_of_le_of_ne (front first rfl other here named) (apart other mem)
  | some call =>
    rw [since] at front
    obtain ⟨row, second, write⟩ := front
    obtain rfl : first = row := Option.some.inj second
    simp only [Option.mem_def, Option.some.injEq, forall_eq']
    refine forall₂_congr fun other mem => ?_
    have := apart other mem
    omega

end Full

/-- Wherever the calls lead, an addition evicts the oldest profile exactly if the others
have been written since. -/
theorem Tracks.evictsOldest_iff (h : Tracks (items, calls)) :
    EvictsOldest (items, calls) e ↔ WrittenSince (items, calls) e := by
  cases e with
  | updatePerson => exact Iff.rfl
  | addPerson item =>
    by_cases possible : items.length = 10 ∧ rowsOf items item.person.id = 0
    · obtain ⟨full, absent⟩ := possible
      match items, h, full with
      | head :: first :: rest, h, full =>
        rw [h.evictsOldest_addPerson full absent, h.oldest_iff]
        exact ⟨fun since _ _ => since, fun since => since full absent⟩
    · refine iff_of_true (fun full items' taken => ?_) fun full absent => ?_
      · exact absurd ⟨full, (Option.ite_none_right_eq_some.mp taken).1⟩ possible
      · exact absurd ⟨full, absent⟩ possible

theorem tracks_watch : ∀ ic e ic', Tracks ic → watch step noteCall ic e = some ic' → Tracks ic' :=
  watch_kept fun _ _ _ _ h taken => h.step taken

end Runs

/-- Every eviction of a run removes the oldest profile exactly if, at each of them, every
profile behind `items[1]` has been written since `items[1]` was last deleted. -/
theorem evicts_oldest_iff (object : ℕ) (events : List Event) :
    EveryStep (watch step noteCall) EvictsOldest ([sentinel object], {}) events ↔
      EveryStep (watch step noteCall) WrittenSince ([sentinel object], {}) events := by
  exact everyStep_congr_of_invariant tracks_watch (fun _ _ h => h.evictsOldest_iff)
    (tracks_sentinel object) events

/-- The calls that add the users of the numbers below `n`. -/
def addUsers (n : ℕ) : List Event :=
  (List.range n).map fun i => .addPerson ⟨i + 1, { id := toString i }⟩

/-- After ten users the first one has been evicted, and the ninth stands in its place. -/
theorem not_evicts_oldest :
    ¬ EveryStep (watch step noteCall) EvictsOldest ([sentinel 0], {}) (addUsers 11) := by
  intro oldest
  obtain ⟨ic, run, since⟩ : ∃ ic, exec (watch step noteCall) ([sentinel 0], {}) (addUsers 10) =
      some ic ∧ ¬ WrittenSince ic (.addPerson ⟨11, { id := toString 10 }⟩) := by
    refine ⟨_, rfl, fun since => ?_⟩
    exact absurd (since rfl rfl 9 rfl) (by decide)
  have tracks : Tracks ic := exec_invariant tracks_watch (tracks_sentinel 0) run
  rw [addUsers, List.range_succ, List.map_append] at oldest
  exact since (tracks.evictsOldest_iff.mp (oldest.of_append run))

end AccountLocalStorage

end OnMap
