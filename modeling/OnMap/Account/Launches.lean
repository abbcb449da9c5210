/-
# Launches and kills

The setting `first` is kept in the user defaults, the table in Realm. A write to either is
durable once made, and the process may be killed before any of them. `setupRealm` writes
the setting before the sentinel: a process killed between the two leaves a device on which
no later launch adds the sentinel.
-/

import OnMap.Account.CacheTable

namespace OnMap

open AccountLocalStorage Transition

/-- A durable write: the setting, or a Realm transaction on the table. -/
inductive DurableWrite
  | first
  | delete (index : ℕ)
  | add (item : Row)

/-- What survives a kill. -/
structure Storage where
  first : Bool := false
  items : List Row := []

def Storage.write (s : Storage) : DurableWrite → Storage
  | .first => { s with first := true }
  | .delete index => { s with items := Table.delete s.items index }
  | .add item => { s with items := s.items ++ [item] }

/-- A write as a step of the storage. -/
def Storage.step (s : Storage) (w : DurableWrite) : Option Storage := some (s.write w)

namespace AccountLocalStorage

/-! ### The writes of the calls -/

def setupRealmWrites (first : Bool) (object : ℕ) : List DurableWrite :=
  if first then [] else [.first, .add (sentinel object)]

def addPersonWrites (items : List Row) (item : Row) : List DurableWrite :=
  if items.length = 10 then [.delete 1, .add item] else [.add item]

/-- `none` is the trap on an empty table. -/
def updatePersonWrites (items : List Row) (item : Row) : Option (List DurableWrite) :=
  match items with
  | [] => none
  | _ :: _ =>
    match items.findIdx? fun row => row.person.id == item.person.id with
    | some i => some [.delete i, .add item]
    | none => some [.add item]

variable {items : List Row} {item : Row}

/-- Made one after the other, the writes do what the call does. -/
theorem setupRealm_writes (s : ProfileCache) :
    (setupRealmWrites s.first s.nextObject).foldl Storage.write ⟨s.first, s.items⟩ =
      ⟨s.setupRealm.first, s.setupRealm.items⟩ := by
  cases first : s.first <;> simp [setupRealmWrites, ProfileCache.setupRealm, first, Storage.write]

theorem addPerson_writes (first : Bool) (items : List Row) (item : Row) :
    addPerson items item =
      some ((addPersonWrites items item).foldl Storage.write ⟨first, items⟩).items := by
  rw [addPerson, addPersonWrites, evict]
  split
  case isTrue full =>
    have bound : 1 < items.length := by omega
    rw [if_pos bound]
    rfl
  case isFalse => rfl

theorem updatePerson_writes (first : Bool) (items : List Row) (item : Row) :
    updatePerson items item = (updatePersonWrites items item).map fun writes =>
      (writes.foldl Storage.write ⟨first, items⟩).items := by
  cases items with
  | nil => rfl
  | cons head rest =>
    rw [updatePerson, updatePersonWrites]
    cases (head :: rest).findIdx? fun row => row.person.id == item.person.id <;> rfl

end AccountLocalStorage

/-! ### The machine -/

/-- The process of the app: in `setupRealm`, or past it. `writes` is what the running call
has still to write. -/
inductive Process
  | notRunning
  | setupRealm (writes : List DurableWrite)
  | ready (writes : List DurableWrite)

/-- The app on one device. -/
structure Installation where
  storage : Storage := {}
  process : Process := .notRunning

namespace Installation

/-- What can happen: the user launches the app or logs in, the process calls a method,
makes its next write, returns from `setupRealm`, or is killed. -/
inductive Event
  | launch (object : ℕ)
  | loadData (object : ℕ)
  | addPerson (item : Row)
  | updatePerson (item : Row)
  | write
  | returns
  | kill

def setupRealm (s : Installation) (object : ℕ) : Installation :=
  { s with process := .setupRealm (setupRealmWrites s.storage.first object) }

def step (s : Installation) (e : Event) : Option Installation :=
  match e, s.process with
  | .launch object, .notRunning => some (s.setupRealm object)
  | .loadData object, .ready [] => some (s.setupRealm object)
  -- the callers pass the identifier of a user
  | .addPerson item, .ready [] =>
    if item.person.id ≠ "" then
      some { s with process := .ready (addPersonWrites s.storage.items item) }
    else none
  | .updatePerson item, .ready [] =>
    if item.person.id ≠ "" then
      match updatePersonWrites s.storage.items item with
      | some writes => some { s with process := .ready writes }
      -- the trap ends the process
      | none => some { s with process := .notRunning }
    else none
  | .write, .setupRealm (w :: rest) => some ⟨s.storage.write w, .setupRealm rest⟩
  | .write, .ready (w :: rest) => some ⟨s.storage.write w, .ready rest⟩
  | .returns, .setupRealm [] => some { s with process := .ready [] }
  | .kill, .setupRealm _ | .kill, .ready _ => some { s with process := .notRunning }
  | _, _ => none

/-- Record a kill after the setting and before the sentinel. -/
def noteKill (s : Installation) (e : Event) (interrupted : Bool) : Bool :=
  match e, s.process with
  | .kill, .setupRealm [.add _] => true
  | _, _ => interrupted

/-- The range and the fallback of `checkPerson` are valid. -/
def Searchable (s : Installation) : Prop :=
  HasSentinel s.storage.items ∧ ∀ id, checkPerson s.storage.items id ≠ none

/-- `setupRealm` has returned in this process. -/
def SetUp (s : Installation) : Prop := ∃ writes, s.process = .ready writes

/-! ### What the writes keep -/

/-- After the setup every table has its sentinel in front; after an interrupted one none
has a row of the empty identifier. -/
structure Settled (interrupted : Bool) (s : Storage) : Prop where
  first : s.first = true
  table : if interrupted then ∀ row ∈ s.items, row.person.id ≠ "" else HasSentinel s.items

variable {storage : Storage} {interrupted : Bool} {item : Row}

theorem Settled.add (h : Settled interrupted storage) (named : item.person.id ≠ "") :
    Settled interrupted (storage.write (.add item)) := by
  obtain ⟨first, table⟩ := h
  refine ⟨first, ?_⟩
  cases interrupted with
  | false => exact HasSentinel.append table _
  | true =>
    intro row here
    rcases List.mem_append.mp here with old | new
    · exact table row old
    · obtain rfl := List.mem_singleton.mp new
      exact named

theorem Settled.delete (h : Settled interrupted storage) {index : ℕ}
    (bound : index < storage.items.length) (later : interrupted = false → 0 < index) :
    Settled interrupted (storage.write (.delete index)) := by
  obtain ⟨first, table⟩ := h
  refine ⟨first, ?_⟩
  cases interrupted with
  | false => exact HasSentinel.delete table (later rfl) bound
  | true => exact fun row here => table row (Table.mem_of_mem_delete bound here)

/-- A settled storage stays settled while one row is added, whenever the process is
killed. -/
theorem Settled.adds (h : Settled interrupted storage) (named : item.person.id ≠ "") :
    EveryState Storage.step (Settled interrupted) storage [.add item] := by
  refine ⟨h, fun t taken => ?_⟩
  obtain rfl := Option.some.inj taken
  exact h.add named

/-- And while another row is deleted first. -/
theorem Settled.replaces (h : Settled interrupted storage) (named : item.person.id ≠ "")
    {index : ℕ} (bound : index < storage.items.length)
    (later : interrupted = false → 0 < index) :
    EveryState Storage.step (Settled interrupted) storage [.delete index, .add item] := by
  refine ⟨h, fun t taken => ?_⟩
  obtain rfl := Option.some.inj taken
  exact (h.delete bound later).adds named

theorem Settled.addPerson (h : Settled interrupted storage) (named : item.person.id ≠ "") :
    EveryState Storage.step (Settled interrupted) storage (addPersonWrites storage.items item) := by
  rw [addPersonWrites]
  split
  case isTrue full => exact h.replaces named (by omega) fun _ => Nat.one_pos
  case isFalse => exact h.adds named

theorem Settled.updatePerson (h : Settled interrupted storage) (named : item.person.id ≠ "")
    {writes : List DurableWrite} (found : updatePersonWrites storage.items item = some writes) :
    EveryState Storage.step (Settled interrupted) storage writes := by
  rw [updatePersonWrites.eq_def] at found
  split at found
  case h_1 => cases found
  case h_2 =>
    split at found
    case h_1 i first =>
      obtain rfl := Option.some.inj found
      obtain ⟨bound, same, -⟩ := List.findIdx?_eq_some_iff_getElem.mp first
      refine h.replaces named bound fun whole => ?_
      -- the row has the identifier of the item, so it is not the sentinel
      subst whole
      exact HasSentinel.pos h.table (List.getElem?_eq_getElem bound)
        (fun unnamed => named ((beq_iff_eq.mp same).symm.trans unnamed))
    case h_2 =>
      obtain rfl := Option.some.inj found
      exact h.adds named

/-! ### Every launch -/

/-- The first launch and its two writes. Once they are made, or one of them is lost, the
storage is settled, and so it stays at every write of a call. -/
inductive Tracks : Installation × Bool → Prop
  | new : Tracks ({}, false)
  | opened (object : ℕ) : Tracks (⟨{}, .setupRealm [.first, .add (sentinel object)]⟩, false)
  | flagged (object : ℕ) : Tracks (⟨⟨true, []⟩, .setupRealm [.add (sentinel object)]⟩, false)
  | closed {storage : Storage} {interrupted : Bool} (now : Settled interrupted storage) :
      Tracks (⟨storage, .notRunning⟩, interrupted)
  | written {storage : Storage} {interrupted : Bool} (now : Settled interrupted storage) :
      Tracks (⟨storage, .setupRealm []⟩, interrupted)
  | ready {storage : Storage} {interrupted : Bool} {writes : List DurableWrite}
      (kept : EveryState Storage.step (Settled interrupted) storage writes) :
      Tracks (⟨storage, .ready writes⟩, interrupted)

variable {s t : Installation} {e : Event}

/-- In a settled storage `setupRealm` has nothing to write. -/
theorem Settled.setupRealm {process : Process} (h : Settled interrupted storage) (object : ℕ) :
    Tracks (setupRealm ⟨storage, process⟩ object, interrupted) := by
  rw [Installation.setupRealm, setupRealmWrites, if_pos h.first]
  exact .written h

/-- A call of a process that is past its setup. -/
theorem Settled.call (h : Settled interrupted storage)
    (taken : step ⟨storage, .ready []⟩ e = some t) : Tracks (t, interrupted) := by
  cases e with
  | loadData object =>
    obtain rfl := Option.some.inj taken
    exact h.setupRealm object
  | addPerson item =>
    obtain ⟨named, taken⟩ := Option.ite_none_right_eq_some.mp taken
    obtain rfl := Option.some.inj taken
    exact .ready (h.addPerson named)
  | updatePerson item =>
    obtain ⟨named, taken⟩ := Option.ite_none_right_eq_some.mp taken
    dsimp only at taken
    split at taken
    case h_1 writes found =>
      obtain rfl := Option.some.inj taken
      exact .ready (h.updatePerson named found)
    case h_2 =>
      obtain rfl := Option.some.inj taken
      exact .closed h
  | kill =>
    obtain rfl := Option.some.inj taken
    exact .closed h
  | launch | write | returns => cases taken

theorem Tracks.step (h : Tracks (s, interrupted)) (taken : s.step e = some t) :
    Tracks (t, noteKill s e interrupted) := by
  cases h with
  | new =>
    cases e with
    | launch object =>
      obtain rfl := Option.some.inj taken
      exact .opened object
    | _ => cases taken
  | opened object =>
    cases e with
    | write =>
      obtain rfl := Option.some.inj taken
      exact .flagged object
    | kill =>
      -- nothing has been written
      obtain rfl := Option.some.inj taken
      exact .new
    | _ => cases taken
  | flagged object =>
    cases e with
    | write =>
      obtain rfl := Option.some.inj taken
      exact .written ⟨rfl, ⟨_, rfl, rfl⟩⟩
    | kill =>
      -- the setting stays, without the sentinel
      obtain rfl := Option.some.inj taken
      exact .closed ⟨rfl, nofun⟩
    | _ => cases taken
  | closed now =>
    cases e with
    | launch object =>
      obtain rfl := Option.some.inj taken
      exact now.setupRealm object
    | _ => cases taken
  | written now =>
    cases e with
    | returns =>
      obtain rfl := Option.some.inj taken
      exact .ready now
    | kill =>
      obtain rfl := Option.some.inj taken
      exact .closed now
    | _ => cases taken
  | @ready interrupted storage writes kept =>
    cases writes with
    | nil =>
      cases e <;> exact kept.call taken
    | cons w rest =>
      cases e with
      | write =>
        obtain rfl := Option.some.inj taken
        exact .ready (kept.2 _ rfl)
      | kill =>
        obtain rfl := Option.some.inj taken
        exact .closed kept.first
      | _ => cases taken

/-- A settled table has its sentinel exactly if no setup was interrupted. -/
theorem Settled.searchable_iff (h : Settled interrupted s.storage) :
    s.Searchable ↔ interrupted = false := by
  cases interrupted with
  | false =>
    refine iff_of_true ⟨h.table, fun id => ?_⟩ rfl
    obtain ⟨row, found, -⟩ := HasSentinel.checkPerson h.table id
    exact found ▸ Option.some_ne_none row
  | true =>
    refine iff_of_false ?_ nofun
    rintro ⟨⟨row, first, unnamed⟩, -⟩
    exact h.table row (List.mem_of_mem_head? first) unnamed

/-- After every `setupRealm` that returns, the table can be searched exactly if no process
was killed between the setting and the sentinel. -/
theorem cache_survives_iff (events : List Event) :
    EveryState (watch step noteKill) (fun si => si.1.SetUp → (si.1.Searchable ↔ si.2 = false))
      ({}, false) events := by
  refine EveryState.of_invariant (I := Tracks) ?_ ?_ .new events
  · exact watch_kept fun s interrupted e t h taken => h.step taken
  · rintro ⟨s, interrupted⟩ h ⟨writes, ready⟩
    cases h with
    | ready kept => exact Settled.searchable_iff kept.first
    | _ => cases ready

/-- The first launch is killed after its first write. -/
def killedInSetup : List Event :=
  [.launch 0, .write, .kill, .launch 0, .returns]

theorem not_cache_survives : ∃ t, exec step {} killedInSetup = some t ∧ t.SetUp ∧
    ¬ t.Searchable := by
  refine ⟨_, rfl, ⟨[], rfl⟩, ?_⟩
  rintro ⟨⟨row, first, -⟩, -⟩
  cases first

end Installation

end OnMap
