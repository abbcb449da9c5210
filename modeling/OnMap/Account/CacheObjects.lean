/-
# Captured rows

A run that has found a row captures the object and reads it when the database has
answered. Until then the row belongs to every other run as well: an addition to a
full table deletes `items[1]`, an update deletes the row of its identifier. As long
as no write deletes a row that a run has captured and not read, every captured row
is still there when it is read.
-/

import OnMap.Account.CacheTable

namespace OnMap

open AccountLocalStorage Transition

/-- The object that the run has captured and will read. -/
def LoadPhase.captured : LoadPhase → Option ℕ
  | .hitAsksUser person | .hitUser person _ => some person
  | _ => none

namespace ProfileCache

/-- The object that the step's closure reads. -/
def readsObject (s : ProfileCache) : Event → Option ℕ
  | .reply run => (s.runs[run]?).bind fun r =>
    match r.phase with
    | .hitUser person _ => some person
    | _ => none
  | _ => none

/-- The object that the step reads has not been deleted. -/
def ReadsLive (s : ProfileCache) (e : Event) : Prop :=
  ∀ person ∈ s.readsObject e, s.object? person ≠ none

/-- The row that the step deletes: `items[1]` of a full table, or the first row of the
identifier. -/
def deletes (s : ProfileCache) (e : Event) : Option Row :=
  match s.adds e, s.updates e with
  | some _, _ => if s.items.length = 10 then s.items[1]? else none
  | none, some item => s.items.find? fun row => row.person.id == item.person.id
  | none, none => none

/-- The step deletes no row that a run has captured and will read. -/
def SparesCaptured (s : ProfileCache) (e : Event) : Prop :=
  ∀ row ∈ s.deletes e, ∀ r ∈ s.runs, r.phase.captured ≠ some row.object

instance (s : ProfileCache) (e : Event) : Decidable (ReadsLive s e) :=
  inferInstanceAs (Decidable (∀ person ∈ s.readsObject e, s.object? person ≠ none))

instance (s : ProfileCache) (e : Event) : Decidable (SparesCaptured s e) :=
  inferInstanceAs (Decidable (∀ row ∈ s.deletes e, ∀ r ∈ s.runs, _))

/-! ### The invariant -/

/-- The captured rows are in the table. -/
structure CapturesLive (s : ProfileCache) : Prop where
  ready : Ready s
  live (run : ℕ) (r : LoadRun) : s.runs[run]? = some r →
    ∀ object, r.phase.captured = some object → ∃ row ∈ s.items, row.object = object

variable {s t : ProfileCache} {e : Event}

theorem object?_ne_none {object : ℕ} :
    s.object? object ≠ none ↔ ∃ row ∈ s.items, row.object = object := by
  simp [object?, List.find?_eq_none]

/-- A row that the step does not delete stays. -/
theorem Moves.mem (h : Moves s e t) {row : Row} (here : row ∈ s.items)
    (spared : ∀ deleted ∈ s.deletes e, row ≠ deleted) : row ∈ t.items := by
  rcases h.table with
    ⟨-, -, same⟩ | ⟨item, adds, -, added⟩ | ⟨item, noAdd, updates, updated⟩
  · exact same ▸ here
  · obtain ⟨kept, evicted, same⟩ := addPerson_eq_some_iff.mp added
    rw [same]
    refine List.mem_append_left _ ?_
    rcases evict_cases s.items with ⟨-, same⟩ | ⟨full, second, found, same⟩
    · exact Option.some.inj (evicted.symm.trans same) ▸ here
    · rw [Option.some.inj (evicted.symm.trans same)]
      refine ((Table.mem_delete_iff found).mp here).resolve_left (spared second ?_)
      simp only [deletes, adds, full, if_true, found, Option.mem_def]
  · rcases updatePerson_cases s.items item with
      ⟨-, trap⟩ | ⟨i, first, found, -, searched, same⟩ | ⟨-, -, -, same⟩
    · cases trap.symm.trans updated
    · rw [Option.some.inj (updated.symm.trans same)]
      refine List.mem_append_left _ (((Table.mem_delete_iff found).mp here).resolve_left
        (spared first ?_))
      simp only [deletes, noAdd, updates, searched, Option.mem_def]
    · rw [Option.some.inj (updated.symm.trans same)]
      exact List.mem_append_left _ here

/-- Reading from the server does not change what a run has captured. -/
theorem captured_answer {r : LoadRun} {phase : LoadPhase} (answers : s.answer r = some phase) :
    ∀ object, phase.captured = some object → r.phase.captured = some object := by
  obtain ⟨userID, asks⟩ := r
  cases asks with
  | hitAsksUser | hitAsksPhoto | missAsksPhoto | missAsksUser =>
    obtain rfl := Option.some.inj answers
    exact fun _ captured => captured
  | hitUser | hitPhoto | missPhoto | missUser | completed => cases answers

/-- What holds of the captured rows is checked of the row that a search finds. -/
theorem Moves.forall_captured (P : String → ℕ → Prop) (h : Moves s e t)
    (stays : ∀ (run : ℕ) (r : LoadRun), s.runs[run]? = some r →
      ∀ object, r.phase.captured = some object → P r.userID object)
    (found : ∀ userID row, e = .loadInfoByID userID → checkPerson s.items userID = some row →
      row.person.id ≠ "" → P userID row.object) :
    ∀ (run : ℕ) (r : LoadRun), t.runs[run]? = some r →
      ∀ object, r.phase.captured = some object → P r.userID object := by
  cases h with
  | edit | setupRealm => exact stays
  | hit searched named =>
    refine Table.forall_concat stays ?_
    rintro _ ⟨⟩
    exact found _ _ rfl searched named
  | miss => exact Table.forall_concat stays nofun
  | read here answers =>
    refine forall_runs_setPhase here stays ?_
    exact fun object captured =>
      stays _ _ here object (captured_answer answers object captured)
  | serve here | refresh here | update here | askUser here | add here =>
    refine forall_runs_setPhase here stays ?_
    exact nofun

theorem CapturesLive.step (captures : CapturesLive s) (spares : SparesCaptured s e)
    (taken : s.step e = some t) : CapturesLive t := by
  have h := captures.ready.moves taken
  have stays (row : Row) (here : row ∈ s.items)
      (spared : ∀ deleted ∈ s.deletes e, deleted.object ≠ row.object) : row ∈ t.items := by
    refine h.mem here ?_
    rintro deleted hdeleted rfl
    exact spared row hdeleted rfl
  refine ⟨captures.ready.step taken,
    h.forall_captured (fun _ object => ∃ row ∈ t.items, row.object = object) ?_ ?_⟩
  · intro run r here object captured
    obtain ⟨row, there, same⟩ := captures.live run r here object captured
    refine ⟨row, stays row there fun deleted hdeleted equal => ?_, same⟩
    exact spares deleted hdeleted r (List.mem_of_getElem? here)
      (by rw [captured, equal, same])
  · rintro userID row rfl found -
    obtain ⟨row', found', there, -⟩ := captures.ready.sentinel.checkPerson userID
    obtain rfl := Option.some.inj (found.symm.trans found')
    exact ⟨row, stays row there nofun, rfl⟩

theorem CapturesLive.readsLive (captures : CapturesLive s) : ReadsLive s e := by
  intro person reads
  cases e with
  | reply run =>
    obtain ⟨⟨userID, phase⟩, here, reads⟩ := Option.bind_eq_some_iff.mp reads
    cases phase with
    | hitUser =>
      obtain rfl := Option.some.inj reads
      exact object?_ne_none.mpr (captures.live run _ here _ rfl)
    | _ => cases reads
  | _ => cases reads

/-- In every run whose writes spare the captured rows, no deleted row is read. -/
theorem reads_live (users : String → Option Dictionary) (profiles : String → Option UIImage)
    (events : List Event)
    (spares : EveryStep step SparesCaptured (launched users profiles) events) :
    EveryStep step ReadsLive (launched users profiles) events := by
  refine EveryStep.of_invariant (I := CapturesLive) ?_ ?_ ⟨ready_launched users profiles, nofun⟩
    spares
  · exact fun _ _ _ captures spares taken => captures.step spares taken
  · exact fun _ _ captures _ => captures.readsLive

/-- A lookup that finds no row, an edit, and a lookup that replaces the row before the
next one finds it. -/
def replacedThenFound : List Event :=
  missRun 0 "a" ++
    [.setUserName "a" "Anna" 0, .loadInfoByID "a", .read 1, .reply 1, .read 1, .reply 1,
      .loadInfoByID "a", .read 2, .reply 2]

theorem reads_live_replacedThenFound :
    EveryStep step ReadsLive (launched (fun _ => none) (fun _ => none)) replacedThenFound :=
  reads_live _ _ _ (by decide +kernel)

/-- Two lookups find the row before either has its answer; the first replaces it. -/
def foundThenReplaced : List Event :=
  missRun 0 "a" ++
    [.setUserName "a" "Anna" 0, .loadInfoByID "a", .loadInfoByID "a", .read 1, .reply 1, .read 1,
      .reply 1, .read 2, .reply 2]

theorem not_reads_live :
    ¬ EveryStep step ReadsLive (launched (fun _ => none) (fun _ => none)) foundThenReplaced := by
  decide +kernel

end ProfileCache

end OnMap
