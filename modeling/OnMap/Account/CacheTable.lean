/-
# The table under overlapping runs

`addPerson` and `updatePerson` are called at the end of a run, long after the
search that chose between them. The table keeps its sentinel in front whatever the
runs do. Its size and its uniqueness both depend on what other runs have stored in
the meantime: an update that finds its row evicted only adds, past the bound of
ten, and two runs that both missed add two rows of one identifier.
-/

import OnMap.Account.LoadInfo
import OnMap.Library.Transition

namespace OnMap

open AccountLocalStorage Transition

/-- The search of the run has found a row. -/
def LoadPhase.Hit : LoadPhase → Prop
  | .hitAsksUser _ | .hitUser _ _ | .hitAsksPhoto _ | .hitPhoto _ _ => True
  | _ => False

namespace ProfileCache

/-- The row that the step hands to `addPerson`. -/
def adds (s : ProfileCache) : Event → Option Row
  | .reply run => (s.runs[run]?).bind fun r =>
    match r.phase with
    | .missUser photo value => some (s.newItem r.userID photo value)
    | _ => none
  | _ => none

/-- The row that the step hands to `updatePerson`. -/
def updates (s : ProfileCache) : Event → Option Row
  | .reply run => (s.runs[run]?).bind fun r =>
    match r.phase with
    | .hitPhoto value photo => some (s.newItem r.userID photo value)
    | _ => none
  | _ => none

/-- The row that the step stores. -/
def stores (s : ProfileCache) (e : Event) : Option Row := (s.adds e).or (s.updates e)

variable {s t : ProfileCache} {e : Event}

theorem not_stores_of_edits {userID : String} (edits : e.edits = some userID) :
    s.adds e = none ∧ s.updates e = none := by
  cases e with
  | reply => cases edits
  | _ => exact ⟨rfl, rfl⟩

/-- The table changes only by the two writes. -/
theorem Moves.table (h : Moves s e t) :
    (s.adds e = none ∧ s.updates e = none ∧ t.items = s.items) ∨
      (∃ item, s.adds e = some item ∧ s.updates e = none ∧
        addPerson s.items item = some t.items) ∨
      ∃ item, s.adds e = none ∧ s.updates e = some item ∧
        updatePerson s.items item = some t.items := by
  cases h with
  | edit edits =>
    obtain ⟨noAdd, noUpdate⟩ := not_stores_of_edits (s := s) edits
    exact Or.inl ⟨noAdd, noUpdate, rfl⟩
  | setupRealm | hit | miss | read => exact Or.inl ⟨rfl, rfl, rfl⟩
  | serve here | refresh here | askUser here =>
    exact Or.inl ⟨by simp [adds, here], by simp [updates, here], rfl⟩
  | update here updated =>
    exact Or.inr (Or.inr ⟨_, by simp [adds, here], by simp only [updates, here]; rfl, updated⟩)
  | add here added =>
    exact Or.inr (Or.inl ⟨_, by simp only [adds, here]; rfl, by simp [updates, here], added⟩)

/-! ### The sentinel -/

/-- The table has been set up, and only runs of a non-empty identifier find a row. -/
structure Ready (s : ProfileCache) : Prop where
  first : s.first = true
  sentinel : HasSentinel s.items
  named (run : ℕ) (r : LoadRun) : s.runs[run]? = some r → r.phase.Hit → r.userID ≠ ""

theorem ready_launched (users : String → Option Dictionary)
    (profiles : String → Option UIImage) : Ready (launched users profiles) where
  first := rfl
  sentinel := ⟨_, rfl, rfl⟩
  named _ _ none := nomatch none

@[simp] theorem items_launched (users : String → Option Dictionary)
    (profiles : String → Option UIImage) : (launched users profiles).items = [sentinel 0] := rfl

theorem Ready.moves (ready : Ready s) (taken : s.step e = some t) : Moves s e t :=
  step_moves ready.first taken

/-- The step that adds a row is not a trap. -/
theorem exists_step_of_adds {item : Row} (adds : s.adds e = some item) :
    ∃ t, s.step e = some t ∧ addPerson s.items item = some t.items := by
  cases e with
  | reply run =>
    obtain ⟨⟨userID, phase⟩, here, adds⟩ := Option.bind_eq_some_iff.mp adds
    cases phase with
    | missUser photo value =>
      obtain rfl := Option.some.inj adds
      obtain ⟨items, added⟩ := exists_addPerson s.items (s.newItem userID photo value)
      refine ⟨(s.store items).complete run (fetched photo value), ?_, added⟩
      simp only [step, here, Option.bind_some, handleReply, added, Option.map_some]
    | _ => cases adds
  | _ => cases adds

/-- Nor is the step that updates a row. -/
theorem Ready.exists_step_of_updates (ready : Ready s) {item : Row}
    (updates : s.updates e = some item) :
    ∃ t, s.step e = some t ∧ updatePerson s.items item = some t.items := by
  cases e with
  | reply run =>
    obtain ⟨⟨userID, phase⟩, here, updates⟩ := Option.bind_eq_some_iff.mp updates
    cases phase with
    | hitPhoto value photo =>
      obtain rfl := Option.some.inj updates
      obtain ⟨items, updated⟩ :=
        ready.sentinel.exists_updatePerson (s.newItem userID photo value)
      refine ⟨(s.store items).complete run (fetched photo value), ?_, updated⟩
      simp only [step, here, Option.bind_some, handleReply, updated, Option.map_some]
    | _ => cases updates
  | _ => cases updates

/-- What a run stores in place of its row has a non-empty identifier. -/
theorem Ready.updates_named (ready : Ready s) {item : Row} (updates : s.updates e = some item) :
    item.person.id ≠ "" := by
  cases e with
  | reply run =>
    obtain ⟨⟨userID, phase⟩, here, updates⟩ := Option.bind_eq_some_iff.mp updates
    cases phase with
    | hitPhoto value photo =>
      obtain rfl := Option.some.inj updates
      exact ready.named run _ here trivial
    | _ => cases updates
  | _ => cases updates

/-- Both writes leave the sentinel where it is. -/
theorem Ready.sentinel_moves (ready : Ready s) (h : Moves s e t) : HasSentinel t.items := by
  rcases h.table with ⟨-, -, same⟩ | ⟨item, -, -, added⟩ | ⟨item, -, updates, updated⟩
  · rw [same]
    exact ready.sentinel
  · obtain ⟨kept, evicted, same⟩ := addPerson_eq_some_iff.mp added
    rw [same]
    exact (ready.sentinel.evict evicted).append _
  · have named := ready.updates_named updates
    rcases updatePerson_cases s.items item with
      ⟨empty, -⟩ | ⟨i, row, here, rowID, -, same⟩ | ⟨-, -, -, same⟩
    · exact absurd empty ready.sentinel.ne_nil
    · rw [Option.some.inj (updated.symm.trans same)]
      have later := ready.sentinel.pos here (rowID ▸ named)
      exact (ready.sentinel.delete later (List.getElem?_eq_some_iff.mp here).1).append _
    · rw [Option.some.inj (updated.symm.trans same)]
      exact ready.sentinel.append _

theorem hit_answer {r : LoadRun} {phase : LoadPhase} (answers : s.answer r = some phase) :
    phase.Hit ↔ r.phase.Hit := by
  obtain ⟨userID, asks⟩ := r
  cases asks with
  | hitAsksUser | hitAsksPhoto | missAsksPhoto | missAsksUser =>
    obtain rfl := Option.some.inj answers
    exact Iff.rfl
  | hitUser | hitPhoto | missPhoto | missUser | completed => cases answers

/-- A run never leaves the branch that its search chose, and a search finds no row of
the empty identifier but the sentinel. -/
theorem Ready.named_moves (ready : Ready s) (h : Moves s e t) :
    ∀ (run : ℕ) (r : LoadRun), t.runs[run]? = some r → r.phase.Hit → r.userID ≠ "" := by
  cases h with
  | edit | setupRealm => exact ready.named
  | @hit userID row found named =>
    refine Table.forall_concat ready.named fun _ => ?_
    obtain ⟨row', found', -, named' | ⟨-, unnamed, -⟩⟩ := ready.sentinel.checkPerson userID
    · obtain rfl := Option.some.inj (found.symm.trans found')
      exact named' ▸ named
    · obtain rfl := Option.some.inj (found.symm.trans found')
      exact absurd unnamed named
  | miss => exact Table.forall_concat ready.named nofun
  | @read run r phase here answers =>
    refine forall_runs_setPhase here ready.named ?_
    exact fun hit => ready.named run r here ((hit_answer answers).mp hit)
  | refresh here =>
    have named := ready.named _ _ here trivial
    exact forall_runs_setPhase here ready.named fun _ => named
  | askUser here | serve here | update here | add here =>
    refine forall_runs_setPhase here ready.named ?_
    exact fun ended => ended.elim

theorem Ready.step (ready : Ready s) (taken : s.step e = some t) : Ready t := by
  have h := ready.moves taken
  refine ⟨?_, ready.sentinel_moves h, ready.named_moves h⟩
  cases h <;> exact ready.first

/-! ### The bound -/

/-- The table has between 1 and 10 rows with the sentinel first, and no operation on
it is a trap. -/
def Bounded (s : ProfileCache) : Prop :=
  1 ≤ s.items.length ∧ s.items.length ≤ 10 ∧ HasSentinel s.items ∧
    (∀ id, checkPerson s.items id ≠ none) ∧
    ∀ item, addPerson s.items item ≠ none ∧ updatePerson s.items item ≠ none

/-- An update finds a row to replace, or room. -/
def UpdatesInPlace (s : ProfileCache) (e : Event) : Prop :=
  ∀ item ∈ s.updates e, 0 < rowsOf s.items item.person.id ∨ s.items.length < 10

/-- With a sentinel, only the upper bound can fail. -/
theorem Ready.bounded_iff (ready : Ready s) : Bounded s ↔ s.items.length ≤ 10 := by
  constructor
  · exact fun bounded => bounded.2.1
  · intro upper
    refine ⟨List.length_pos_iff.mpr ready.sentinel.ne_nil, upper, ready.sentinel, ?_, ?_⟩
    · intro id
      obtain ⟨row, found, -⟩ := ready.sentinel.checkPerson id
      exact found ▸ Option.some_ne_none row
    · intro item
      obtain ⟨added, hadd⟩ := exists_addPerson s.items item
      obtain ⟨updated, hupdate⟩ := ready.sentinel.exists_updatePerson item
      exact ⟨hadd ▸ Option.some_ne_none added, hupdate ▸ Option.some_ne_none updated⟩

/-- How many rows an update leaves. -/
theorem length_updatePerson {items items' : List Row} {item : Row}
    (updated : updatePerson items item = some items') :
    items'.length = items.length + if 0 < rowsOf items item.person.id then 0 else 1 := by
  rcases updatePerson_cases items item with
    ⟨-, trap⟩ | ⟨i, row, here, rowID, -, same⟩ | ⟨-, absent, -, same⟩
  · cases trap.symm.trans updated
  · have bound := (List.getElem?_eq_some_iff.mp here).1
    have found : 0 < rowsOf items item.person.id :=
      rowsOf_pos.mpr ⟨row, List.mem_of_getElem? here, rowID⟩
    rw [Option.some.inj (updated.symm.trans same), if_pos found, List.length_append,
      Table.length_delete bound, List.length_singleton]
    omega
  · rw [Option.some.inj (updated.symm.trans same), absent, List.length_append]
    rfl

theorem Ready.updatesInPlace_iff (ready : Ready s) (bounded : Bounded s) :
    UpdatesInPlace s e ↔ ∀ t, s.step e = some t → Bounded t := by
  have upper := bounded.2.1
  constructor
  · intro inPlace t taken
    rw [(ready.step taken).bounded_iff]
    rcases (ready.moves taken).table with
      ⟨-, -, same⟩ | ⟨item, -, -, added⟩ | ⟨item, -, updates, updated⟩
    · rwa [same]
    · obtain ⟨kept, evicted, same⟩ := addPerson_eq_some_iff.mp added
      have room := length_evict evicted
      rw [same, List.length_append, List.length_singleton]
      split at room <;> omega
    · have room := inPlace item updates
      have grown := length_updatePerson updated
      split at grown <;> omega
  · intro kept item updates
    obtain ⟨t, taken, updated⟩ := ready.exists_step_of_updates updates
    have upper' := (kept t taken).2.1
    have grown := length_updatePerson updated
    split at grown
    case isTrue found => exact Or.inl found
    case isFalse => exact Or.inr (by omega)

/-- The table stays bounded exactly in the runs whose updates find a row to replace,
or room. -/
theorem cache_bounded_iff (users : String → Option Dictionary)
    (profiles : String → Option UIImage) (events : List Event) :
    EveryState step Bounded (launched users profiles) events ↔
      EveryStep step UpdatesInPlace (launched users profiles) events := by
  have ready := ready_launched users profiles
  refine everyState_iff_everyStep (I := Ready) (fun _ _ _ ready taken => ready.step taken)
    (fun _ _ ready bounded => ready.updatesInPlace_iff bounded) ready ?_ events
  exact ready.bounded_iff.mpr (by simp)

/-- The events of a run that looks up a user without a row. -/
def missRun (run : ℕ) (userID : String) : List Event :=
  [.loadInfoByID userID, .read run, .reply run, .read run, .reply run]

/-- Nine users fill the table. The first of them is looked up again after an edit, and
is evicted while the lookup waits for the photo. -/
def updateAfterEviction : List Event :=
  (List.range 9).flatMap (fun run => missRun run (toString run)) ++
    [.setUserName "0" "Anna" 0, .loadInfoByID "0", .read 9, .reply 9, .read 9] ++
    missRun 10 "9" ++ [.reply 9]

theorem not_always_bounded :
    ¬ EveryState step Bounded (launched (fun _ => none) (fun _ => none)) updateAfterEviction := by
  intro bounded
  have eleven : (exec step (launched (fun _ => none) (fun _ => none)) updateAfterEviction).map
      (fun s => s.items.length) = some 11 := by decide +kernel
  obtain ⟨t, run, length⟩ := Option.map_eq_some_iff.mp eleven
  rw [← List.append_nil updateAfterEviction] at bounded
  have upper := (bounded.of_append run).2.1
  omega

end ProfileCache

end OnMap
