/-
# Looking up profiles

`Account.loadInfoByID` looks a user up in the local table and asks the database
whether the row is still up to date. Each call is a run: a synchronous search, then
at most two reads whose answers the SDK delivers to closures at any later moment,
and at most one write to the table. Any number of runs are under way at once, while
the users edit their profiles on their own devices.

A `Person` that a closure has captured is the row itself, not a copy: it is read
when the closure runs, and reading a deleted one raises an exception (`none`).
-/

import OnMap.Account.LocalStorage

namespace OnMap

open AccountLocalStorage

/-- What `completion` is called with. -/
structure Profile where
  photo : UIImage
  name : String
  surname : String
  deriving DecidableEq, Repr

/-- Where a run stands: it asks the server, or holds an answer that its closure has
not been called with. A `hit` has captured the row it found. -/
inductive LoadPhase
  | hitAsksUser (person : ℕ)
  | hitUser (person : ℕ) (value : Option Dictionary)
  | hitAsksPhoto (value : Option Dictionary)
  | hitPhoto (value : Option Dictionary) (photo : Option UIImage)
  | missAsksPhoto
  | missPhoto (photo : Option UIImage)
  | missAsksUser (photo : Option UIImage)
  | missUser (photo : Option UIImage) (value : Option Dictionary)
  | completed

/-- A call of `loadInfoByID`. -/
structure LoadRun where
  userID : String
  phase : LoadPhase

/-- The server, one device's table, and the runs of that device, by number. `first`
is the setting that the table has been set up. -/
structure ProfileCache where
  users : String → Option Dictionary := fun _ => none
  profiles : String → Option UIImage := fun _ => none
  first : Bool := false
  items : List Row := []
  nextObject : ℕ := 0
  runs : List LoadRun := []
  completions : List (ℕ × Profile) := []

namespace ProfileCache

/-- What can happen: users edit their profiles, the device looks users up, the server
answers a run and the main queue calls a run's closure. -/
inductive Event
  | setUserName (userID name : String) (now : Date)
  | setUserSurname (userID surname : String) (now : Date)
  | uploadPhoto (userID : String) (image : UIImage)
  | updateChildValues (userID : String) (values : List (String × Value))
  | setupRealm
  | loadInfoByID (userID : String)
  | read (run : ℕ)
  | reply (run : ℕ)

/-- The user's current profile, as the program shows it. -/
def profile (s : ProfileCache) (userID : String) : Profile where
  photo := (s.profiles userID).getD .saucer
  name := textAt (s.users userID) "name"
  surname := textAt (s.users userID) "surname"

/-- `setupRealm` adds the sentinel once. -/
def setupRealm (s : ProfileCache) : ProfileCache :=
  if s.first then s else
    { s with first := true, items := s.items ++ [sentinel s.nextObject]
             nextObject := s.nextObject + 1 }

def updateUser (s : ProfileCache) (userID : String) (values : List (String × Value)) :
    ProfileCache :=
  { s with users :=
      Function.update s.users userID (OnMap.updateChildValues values (s.users userID)) }

def setUserName (s : ProfileCache) (userID name : String) (now : Date) : ProfileCache :=
  s.updateUser userID [("name", .string name), ("date", .string (Date.description now))]

def setUserSurname (s : ProfileCache) (userID surname : String) (now : Date) : ProfileCache :=
  s.updateUser userID [("surname", .string surname), ("date", .string (Date.description now))]

/-- `uploadPhoto` stores the photo and does not touch the user's record. -/
def uploadPhoto (s : ProfileCache) (userID : String) (image : UIImage) : ProfileCache :=
  { s with profiles := Function.update s.profiles userID (some image) }

/-- The row of a captured object, if it has not been deleted. -/
def object? (s : ProfileCache) (object : ℕ) : Option Row :=
  s.items.find? fun row => row.object == object

def setPhase (s : ProfileCache) (run : ℕ) (phase : LoadPhase) : ProfileCache :=
  { s with runs := s.runs.modify run fun r => { r with phase := phase } }

/-- The run calls `completion`, which ends it. -/
def complete (s : ProfileCache) (run : ℕ) (result : Profile) : ProfileCache :=
  { s.setPhase run .completed with completions := s.completions ++ [(run, result)] }

/-- The `Person` that `addPerson` and `updatePerson` build. -/
def newItem (s : ProfileCache) (userID : String) (photo : Option UIImage)
    (value : Option Dictionary) : Row where
  object := s.nextObject
  person :=
    { name := textAt value "name", surname := textAt value "surname", id := userID
      date := textAt value "date", image := some (photo.getD .saucer) }

/-- The table after a row has been stored. -/
def store (s : ProfileCache) (items : List Row) : ProfileCache :=
  { s with items := items, nextObject := s.nextObject + 1 }

/-- The search at the start of a run. -/
def loadInfoByID (s : ProfileCache) (userID : String) : Option ProfileCache :=
  (checkPerson s.items userID).map fun row =>
    { s with runs := s.runs ++
        [⟨userID, if row.person.id ≠ "" then .hitAsksUser row.object else .missAsksPhoto⟩] }

/-- The server answers what a run asks. -/
def answer (s : ProfileCache) (r : LoadRun) : Option LoadPhase :=
  match r.phase with
  | .hitAsksUser person => some (.hitUser person (s.users r.userID))
  | .hitAsksPhoto value => some (.hitPhoto value (s.profiles r.userID))
  | .missAsksPhoto => some (.missPhoto (s.profiles r.userID))
  | .missAsksUser photo => some (.missUser photo (s.users r.userID))
  | _ => none

/-- The closure of the database read after a hit: the row serves if its date is the
one that was read. -/
def handleUser (s : ProfileCache) (run person : ℕ) (value : Option Dictionary) :
    Option ProfileCache :=
  (s.object? person).bind fun row =>
    if textAt value "date" ≠ row.person.date then some (s.setPhase run (.hitAsksPhoto value))
    -- `person.image!` traps on a row without an image
    else row.person.image.map fun image =>
      s.complete run ⟨image, row.person.name, row.person.surname⟩

/-- What a run hands to `completion` after it has stored a row. -/
def fetched (photo : Option UIImage) (value : Option Dictionary) : Profile :=
  ⟨photo.getD .saucer, textAt value "name", textAt value "surname"⟩

/-- A run's closure is called with the answer it waits for. -/
def handleReply (s : ProfileCache) (run : ℕ) (r : LoadRun) : Option ProfileCache :=
  match r.phase with
  | .hitUser person value => s.handleUser run person value
  | .hitPhoto value photo =>
    (updatePerson s.items (s.newItem r.userID photo value)).map fun items =>
      (s.store items).complete run (fetched photo value)
  | .missPhoto photo => some (s.setPhase run (.missAsksUser photo))
  | .missUser photo value =>
    (addPerson s.items (s.newItem r.userID photo value)).map fun items =>
      (s.store items).complete run (fetched photo value)
  | _ => none

def step (s : ProfileCache) : Event → Option ProfileCache
  | .setUserName userID name now => some (s.setUserName userID name now)
  | .setUserSurname userID surname now => some (s.setUserSurname userID surname now)
  | .uploadPhoto userID image => some (s.uploadPhoto userID image)
  | .updateChildValues userID values => some (s.updateUser userID values)
  | .setupRealm => some s.setupRealm
  | .loadInfoByID userID => s.loadInfoByID userID
  | .read run => (s.runs[run]?).bind fun r => (s.answer r).map (s.setPhase run)
  | .reply run => (s.runs[run]?).bind (s.handleReply run)

/-- The device after its first `setupRealm`, whatever the server holds. -/
def launched (users : String → Option Dictionary) (profiles : String → Option UIImage) :
    ProfileCache :=
  setupRealm { users := users, profiles := profiles }

/-! ### What a step does -/

/-- The user whose profile the event edits. -/
def Event.edits : Event → Option String
  | .setUserName userID .. | .setUserSurname userID .. => some userID
  | .uploadPhoto userID .. | .updateChildValues userID .. => some userID
  | _ => none

/-- The steps of a device whose table has been set up. -/
inductive Moves (s : ProfileCache) : Event → ProfileCache → Prop
  | edit {e : Event} {userID : String} (edits : e.edits = some userID)
      (users : String → Option Dictionary) (profiles : String → Option UIImage) :
      Moves s e { s with users := users, profiles := profiles }
  | setupRealm : Moves s .setupRealm s
  | hit {userID : String} {row : Row} (found : checkPerson s.items userID = some row)
      (named : row.person.id ≠ "") :
      Moves s (.loadInfoByID userID)
        { s with runs := s.runs ++ [⟨userID, .hitAsksUser row.object⟩] }
  | miss {userID : String} {row : Row} (found : checkPerson s.items userID = some row)
      (unnamed : row.person.id = "") :
      Moves s (.loadInfoByID userID) { s with runs := s.runs ++ [⟨userID, .missAsksPhoto⟩] }
  | read {run : ℕ} {r : LoadRun} {phase : LoadPhase} (here : s.runs[run]? = some r)
      (answers : s.answer r = some phase) : Moves s (.read run) (s.setPhase run phase)
  | serve {run person : ℕ} {userID : String} {value : Option Dictionary} {row : Row}
      {image : UIImage} (here : s.runs[run]? = some ⟨userID, .hitUser person value⟩)
      (kept : s.object? person = some row) (sameDate : textAt value "date" = row.person.date)
      (photo : row.person.image = some image) :
      Moves s (.reply run) (s.complete run ⟨image, row.person.name, row.person.surname⟩)
  | refresh {run person : ℕ} {userID : String} {value : Option Dictionary} {row : Row}
      (here : s.runs[run]? = some ⟨userID, .hitUser person value⟩)
      (kept : s.object? person = some row) (otherDate : textAt value "date" ≠ row.person.date) :
      Moves s (.reply run) (s.setPhase run (.hitAsksPhoto value))
  | update {run : ℕ} {userID : String} {value : Option Dictionary} {photo : Option UIImage}
      {items : List Row} (here : s.runs[run]? = some ⟨userID, .hitPhoto value photo⟩)
      (updated : updatePerson s.items (s.newItem userID photo value) = some items) :
      Moves s (.reply run) ((s.store items).complete run (fetched photo value))
  | askUser {run : ℕ} {userID : String} {photo : Option UIImage}
      (here : s.runs[run]? = some ⟨userID, .missPhoto photo⟩) :
      Moves s (.reply run) (s.setPhase run (.missAsksUser photo))
  | add {run : ℕ} {userID : String} {value : Option Dictionary} {photo : Option UIImage}
      {items : List Row} (here : s.runs[run]? = some ⟨userID, .missUser photo value⟩)
      (added : addPerson s.items (s.newItem userID photo value) = some items) :
      Moves s (.reply run) ((s.store items).complete run (fetched photo value))

variable {s t : ProfileCache} {e : Event}

theorem reply_moves {run : ℕ} (taken : s.step (.reply run) = some t) :
    Moves s (.reply run) t := by
  obtain ⟨⟨userID, phase⟩, here, taken⟩ := Option.bind_eq_some_iff.mp taken
  cases phase with
  | hitUser person value =>
    obtain ⟨row, kept, taken⟩ := Option.bind_eq_some_iff.mp taken
    split at taken
    case isTrue otherDate =>
      obtain rfl := Option.some.inj taken
      exact .refresh here kept otherDate
    case isFalse sameDate =>
      obtain ⟨image, photo, rfl⟩ := Option.map_eq_some_iff.mp taken
      exact .serve here kept (not_not.mp sameDate) photo
  | hitPhoto value photo =>
    obtain ⟨items, updated, rfl⟩ := Option.map_eq_some_iff.mp taken
    exact .update here updated
  | missPhoto photo =>
    obtain rfl := Option.some.inj taken
    exact .askUser here
  | missUser photo value =>
    obtain ⟨items, added, rfl⟩ := Option.map_eq_some_iff.mp taken
    exact .add here added
  | hitAsksUser | hitAsksPhoto | missAsksPhoto | missAsksUser | completed => cases taken

theorem step_moves (ready : s.first = true) (taken : s.step e = some t) : Moves s e t := by
  cases e with
  | setUserName | setUserSurname | uploadPhoto | updateChildValues =>
    obtain rfl := Option.some.inj taken
    exact .edit rfl _ _
  | setupRealm =>
    obtain rfl := Option.some.inj taken
    rw [setupRealm, if_pos ready]
    exact .setupRealm
  | loadInfoByID userID =>
    obtain ⟨row, found, rfl⟩ := Option.map_eq_some_iff.mp taken
    split
    case isTrue named => exact .hit found named
    case isFalse unnamed => exact .miss found (not_not.mp unnamed)
  | read run =>
    obtain ⟨r, here, taken⟩ := Option.bind_eq_some_iff.mp taken
    obtain ⟨phase, answers, rfl⟩ := Option.map_eq_some_iff.mp taken
    exact .read here answers
  | reply run => exact reply_moves taken

/-! What holds of every run is checked of the run that a step takes on. -/

section Runs

variable {P : ℕ → LoadRun → Prop} {r : LoadRun} {run : ℕ} {phase : LoadPhase}

theorem forall_runs_setPhase (here : s.runs[run]? = some r)
    (all : ∀ i r, s.runs[i]? = some r → P i r) (new : P run ⟨r.userID, phase⟩) :
    ∀ i r, (s.setPhase run phase).runs[i]? = some r → P i r :=
  Table.forall_modify here (fun i r _ => all i r) new

end Runs

end ProfileCache

end OnMap
