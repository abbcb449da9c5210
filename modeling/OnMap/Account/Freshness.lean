/-
# Current profiles

A lookup that finds a row asks the database for the date of the user's last edit and
serves the row if the row has the same date. The row then is as current as its date
tells: a new photo leaves the date alone, edits within a second share a date, and a
run that stores a row has read the photo and the record at different moments.

A monitor counts how often a user's photo and record have changed and remembers the
counts at which a run, and then a row, has read them. A date that matches is
misleading exactly when the counts differ.
-/

import OnMap.Account.CacheObjects

namespace OnMap

open AccountLocalStorage Transition

/-- What was read when `now` was at `made` still holds if there was no change since. -/
structure Copied (made now : ℕ) (P : Prop) : Prop where
  le : made ≤ now
  current : made = now → P

theorem Copied.fresh {now : ℕ} {P : Prop} (h : P) : Copied now now P :=
  ⟨Nat.le_refl now, fun _ => h⟩

/-- A change is counted, and what does not change stays true. -/
theorem Copied.later {made now now' : ℕ} {P P' : Prop} (h : Copied made now P)
    (change : now' = now ∧ (P → P') ∨ now' = now + 1) : Copied made now' P' := by
  have le := h.le
  rcases change with ⟨rfl, same⟩ | rfl
  · exact ⟨le, fun unchanged => same (h.current unchanged)⟩
  · exact ⟨by omega, fun unchanged => by omega⟩

/-- The name and the surname. -/
def Profile.text (profile : Profile) : String × String := (profile.name, profile.surname)

/-- The photo that the run has read. -/
def LoadPhase.photo? : LoadPhase → Option (Option UIImage)
  | .hitPhoto _ photo | .missPhoto photo | .missAsksUser photo | .missUser photo _ => some photo
  | _ => none

/-- The record that the run has read. -/
def LoadPhase.value? : LoadPhase → Option (Option Dictionary)
  | .hitUser _ value | .hitAsksPhoto value | .hitPhoto value _ | .missUser _ value => some value
  | _ => none

/-- The server has answered, and the run's closure is about to be called. -/
def LoadPhase.Answered : LoadPhase → Prop
  | .hitUser _ _ | .hitPhoto _ _ | .missPhoto _ | .missUser _ _ => True
  | _ => False

instance : DecidablePred LoadPhase.Answered
  | .hitUser .. | .hitPhoto .. | .missPhoto _ | .missUser .. => isTrue trivial
  | .hitAsksUser _ | .hitAsksPhoto _ | .missAsksPhoto | .missAsksUser _ | .completed => isFalse id

namespace ProfileCache

/-! ### The monitor -/

/-- How often each user's photo and record have changed, the counts at which each run
has read the photo and the record, and the counts of what each row holds. -/
structure ChangeLog where
  changes : String → ℕ × ℕ := fun _ => (0, 0)
  photoAt : ℕ → ℕ × ℕ := fun _ => (0, 0)
  recordAt : ℕ → ℕ × ℕ := fun _ => (0, 0)
  storedAt : ℕ → ℕ × ℕ := fun _ => (0, 0)

/-- One more if the step changes the user's `part`. -/
def countChange {α : Type} [DecidableEq α] (s : ProfileCache) (e : Event) (part : Profile → α)
    (userID : String) (count : ℕ) : ℕ :=
  if (s.step e).any fun t => part (t.profile userID) ≠ part (s.profile userID) then count + 1
  else count

def noteChanges (s : ProfileCache) (e : Event) (log : ChangeLog) : ChangeLog :=
  { log with changes := fun userID =>
      (countChange s e Profile.photo userID (log.changes userID).1,
        countChange s e Profile.text userID (log.changes userID).2) }

/-- The run asks for the record or for the photo. -/
def ChangeLog.noteAnswer (log : ChangeLog) (run : ℕ) (r : LoadRun) : ChangeLog :=
  match r.phase with
  | .hitAsksUser _ | .missAsksUser _ =>
    { log with recordAt := Function.update log.recordAt run (log.changes r.userID) }
  | _ => { log with photoAt := Function.update log.photoAt run (log.changes r.userID) }

def noteRead (s : ProfileCache) (run : ℕ) (log : ChangeLog) : ChangeLog :=
  match s.runs[run]? with
  | some r => log.noteAnswer run r
  | none => log

/-- A stored row holds the photo of the one read and the record of the other. -/
def noteStore (s : ProfileCache) (run : ℕ) (log : ChangeLog) : ChangeLog :=
  { log with
    storedAt := Function.update log.storedAt s.nextObject
      ((log.photoAt run).1, (log.recordAt run).2) }

def note (s : ProfileCache) (e : Event) (log : ChangeLog) : ChangeLog :=
  match e with
  | .setupRealm | .loadInfoByID _ => log
  | .read run => noteRead s run log
  | .reply run => if (s.stores e).isSome then noteStore s run log else log
  | _ => noteChanges s e log

/-- The profile has not changed since any of the run's reads. -/
def UpToDate (log : ChangeLog) (run : ℕ) (r : LoadRun) : Prop :=
  (r.phase.photo?.isSome → log.photoAt run = log.changes r.userID) ∧
    (r.phase.value?.isSome → log.recordAt run = log.changes r.userID)

/-- A run whose reads are up to date goes on, and hands over the user's current profile
when it calls `completion`. -/
def HandsCurrent (sm : ProfileCache × ChangeLog) : Event → Prop
  | .reply run => ∀ r ∈ sm.1.runs[run]?, r.phase.Answered → UpToDate sm.2 run r →
    ∃ t ∈ sm.1.step (.reply run), t.completions = sm.1.completions ∨
      t.completions = sm.1.completions ++ [(run, sm.1.profile r.userID)]
  | _ => True

/-- A captured row is there, and if it is served for its date, its photo and its record
have not changed since they were read. -/
def DateTells (sm : ProfileCache × ChangeLog) (userID : String) : LoadPhase → Prop
  | .hitUser person value => ∃ row ∈ sm.1.object? person,
    textAt value "date" = row.person.date → sm.2.storedAt person = sm.2.changes userID
  | _ => True

/-- Where a run's record is up to date, the date of its captured row tells the truth. -/
def DatesTell (sm : ProfileCache × ChangeLog) : Event → Prop
  | .reply run => ∀ r ∈ sm.1.runs[run]?, UpToDate sm.2 run r → DateTells sm r.userID r.phase
  | _ => True

section Decidable

variable (sm : ProfileCache × ChangeLog)

instance (log : ChangeLog) (run : ℕ) (r : LoadRun) : Decidable (UpToDate log run r) :=
  inferInstanceAs (Decidable (_ ∧ _))

instance (userID : String) : DecidablePred (DateTells sm userID)
  | .hitUser person _ => inferInstanceAs (Decidable (∃ row ∈ sm.1.object? person, _))
  | .hitAsksUser _ | .hitAsksPhoto _ | .hitPhoto .. | .missAsksPhoto | .missPhoto _
  | .missAsksUser _ | .missUser .. | .completed => isTrue trivial

instance : DecidablePred (HandsCurrent sm)
  | .reply run => inferInstanceAs (Decidable (∀ r ∈ sm.1.runs[run]?, _))
  | .setUserName .. | .setUserSurname .. | .uploadPhoto .. | .updateChildValues .. | .setupRealm
  | .loadInfoByID _ | .read _ => isTrue trivial

instance : DecidablePred (DatesTell sm)
  | .reply run => inferInstanceAs (Decidable (∀ r ∈ sm.1.runs[run]?, _))
  | .setUserName .. | .setUserSurname .. | .uploadPhoto .. | .updateChildValues .. | .setupRealm
  | .loadInfoByID _ | .read _ => isTrue trivial

end Decidable

section Moves

variable {s t : ProfileCache} {e : Event} {log : ChangeLog} {run : ℕ}

theorem Moves.profile (h : Moves s e t) (noEdit : e.edits = none) : t.profile = s.profile := by
  cases h with
  | edit edits => cases noEdit.symm.trans edits
  | _ => rfl

/-- A write appends a new object to old rows. -/
theorem Moves.stored (h : Moves s e t) :
    (s.stores e = none ∧ t.items = s.items ∧ t.nextObject = s.nextObject) ∨
      ∃ item kept, s.stores e = some item ∧ item.object = s.nextObject ∧
        t.nextObject = s.nextObject + 1 ∧ t.items = kept ++ [item] ∧ kept ⊆ s.items := by
  cases h with
  | edit edits =>
    obtain ⟨noAdd, noUpdate⟩ := not_stores_of_edits (s := s) edits
    exact Or.inl ⟨by rw [stores, noAdd, noUpdate, Option.or_none], rfl, rfl⟩
  | setupRealm | hit | miss | read => exact Or.inl ⟨rfl, rfl, rfl⟩
  | serve here | refresh here | askUser here =>
    exact Or.inl ⟨by simp [stores, adds, updates, here], rfl, rfl⟩
  | @update run userID value photo items here updated =>
    have stored : s.stores (.reply run) = some (s.newItem userID photo value) := by
      simp [stores, adds, updates, here]
    rcases updatePerson_cases s.items (s.newItem userID photo value) with
      ⟨-, trap⟩ | ⟨i, row, found, -, -, same⟩ | ⟨-, -, -, same⟩
    · cases trap.symm.trans updated
    · refine Or.inr ⟨_, _, stored, rfl, rfl, Option.some.inj (updated.symm.trans same), ?_⟩
      exact fun other h => (Table.mem_delete_iff found).mpr (Or.inr h)
    · exact Or.inr ⟨_, _, stored, rfl, rfl, Option.some.inj (updated.symm.trans same),
        List.Subset.refl _⟩
  | @add run userID value photo items here added =>
    have stored : s.stores (.reply run) = some (s.newItem userID photo value) := by
      simp [stores, adds, updates, here]
    obtain ⟨kept, evicted, same⟩ := addPerson_eq_some_iff.mp added
    exact Or.inr ⟨_, kept, stored, rfl, rfl, same, fun _ => mem_of_evict evicted⟩

end Moves

/-! ### Objects -/

/-- An object is one row, and a run has captured a row of the user it looks up. -/
structure Objects (s : ProfileCache) : Prop where
  below (row : Row) : row ∈ s.items → row.object < s.nextObject
  unique (row other : Row) : row ∈ s.items → other ∈ s.items → other.object = row.object →
    other = row
  captured (run : ℕ) (r : LoadRun) : s.runs[run]? = some r →
    ∀ object, r.phase.captured = some object → object < s.nextObject ∧
      ∀ row ∈ s.items, row.object = object → row.person.id = r.userID

section Objects

variable {s t : ProfileCache} {e : Event}

theorem Objects.of_launched (users : String → Option Dictionary)
    (profiles : String → Option UIImage) : Objects (launched users profiles) where
  below row h := by
    obtain rfl := List.mem_singleton.mp h
    exact Nat.one_pos
  unique row other h h' _ := (List.mem_singleton.mp h').trans (List.mem_singleton.mp h).symm
  captured _ _ none := nomatch none

/-- New objects are not old ones. -/
theorem Objects.rows_step (objects : Objects s) (h : Moves s e t) :
    (∀ row ∈ t.items, row.object < t.nextObject) ∧
      (∀ row ∈ t.items, ∀ other ∈ t.items, other.object = row.object → other = row) ∧
      s.nextObject ≤ t.nextObject ∧
      ∀ row ∈ t.items, row.object < s.nextObject → row ∈ s.items := by
  rcases h.stored with ⟨-, same, next⟩ | ⟨item, kept, -, fresh, next, same, old⟩
  · rw [same, next]
    exact ⟨objects.below, fun row h other h' => objects.unique row other h h', Nat.le_refl _,
      fun row h _ => h⟩
  · have cases_mem (row : Row) (h : row ∈ t.items) :
        row ∈ s.items ∧ row.object < s.nextObject ∨ row = item := by
      rw [same, List.mem_append, List.mem_singleton] at h
      exact h.imp_left fun h => ⟨old h, objects.below row (old h)⟩
    refine ⟨fun row h => ?_, fun row h other h' equal => ?_, by omega, fun row h below => ?_⟩
    · rcases cases_mem row h with ⟨-, below⟩ | rfl <;> omega
    · rcases cases_mem row h with ⟨h, below⟩ | rfl
      · rcases cases_mem other h' with ⟨h', -⟩ | rfl
        · exact objects.unique row other h h' equal
        · omega
      · rcases cases_mem other h' with ⟨-, below⟩ | rfl
        · omega
        · rfl
    · rcases cases_mem row h with ⟨h, -⟩ | rfl
      · exact h
      · omega

theorem Objects.step (objects : Objects s) (ready : Ready s) (taken : s.step e = some t) :
    Objects t := by
  have h := ready.moves taken
  obtain ⟨below, unique, grows, old⟩ := objects.rows_step h
  refine ⟨below, fun row other h h' => unique row h other h',
    h.forall_captured (fun userID object => object < t.nextObject ∧
      ∀ row ∈ t.items, row.object = object → row.person.id = userID) ?_ ?_⟩
  · intro run r here object captured
    obtain ⟨bound, owner⟩ := objects.captured run r here object captured
    refine ⟨by omega, fun row there same => ?_⟩
    exact owner row (old row there (same ▸ bound)) same
  · rintro userID row - found named
    obtain ⟨row', found', there, rowID | ⟨-, unnamed, -⟩⟩ := ready.sentinel.checkPerson userID
    · obtain rfl := Option.some.inj (found.symm.trans found')
      have bound := objects.below row there
      refine ⟨by omega, fun other h same => ?_⟩
      rw [objects.unique row other there (old other h (same ▸ bound)) same]
      exact rowID
    · obtain rfl := Option.some.inj (found.symm.trans found')
      exact absurd unnamed named

end Objects

/-! ### Reads and rows -/

/-- What a run has read was the profile when it was read. -/
structure HonestRun (profile : String → Profile) (log : ChangeLog) (run : ℕ) (r : LoadRun) :
    Prop where
  photo (photo : Option UIImage) : r.phase.photo? = some photo →
    Copied (log.photoAt run).1 (log.changes r.userID).1
      (photo.getD .saucer = (profile r.userID).photo)
  record (value : Option Dictionary) : r.phase.value? = some value →
    Copied (log.recordAt run).2 (log.changes r.userID).2
      ((textAt value "name", textAt value "surname") = (profile r.userID).text)

/-- What a row holds was the profile when it was read. -/
structure HonestRow (profile : String → Profile) (log : ChangeLog) (row : Row) : Prop where
  photo : ∃ image, row.person.image = some image ∧
    Copied (log.storedAt row.object).1 (log.changes row.person.id).1
      (image = (profile row.person.id).photo)
  record : Copied (log.storedAt row.object).2 (log.changes row.person.id).2
    ((row.person.name, row.person.surname) = (profile row.person.id).text)

structure Honest (sm : ProfileCache × ChangeLog) : Prop where
  ready : Ready sm.1
  objects : Objects sm.1
  runs (run : ℕ) (r : LoadRun) : sm.1.runs[run]? = some r → HonestRun sm.1.profile sm.2 run r
  rows (row : Row) : row ∈ sm.1.items → row.person.id ≠ "" → HonestRow sm.1.profile sm.2 row

section Honest

variable {s t : ProfileCache} {e : Event} {log log' : ChangeLog} {run : ℕ} {r : LoadRun}
  {row : Row}

/-- What a user's profile has kept or the change of which has been counted. -/
def KeptOrCounted {α : Type} (s t : ProfileCache) (part : Profile → α) (userID : String)
    (before after : ℕ) : Prop :=
  after = before ∧ part (t.profile userID) = part (s.profile userID) ∨ after = before + 1

/-- Every user's photo and record are the same, or their change has been counted. -/
def Counted (s : ProfileCache) (log : ChangeLog) (t : ProfileCache) (log' : ChangeLog) : Prop :=
  ∀ userID,
    KeptOrCounted s t Profile.photo userID (log.changes userID).1 (log'.changes userID).1 ∧
      KeptOrCounted s t Profile.text userID (log.changes userID).2 (log'.changes userID).2

theorem KeptOrCounted.copied {α : Type} {part : Profile → α} {userID : String}
    {made before after : ℕ} {copy : α} (change : KeptOrCounted s t part userID before after)
    (h : Copied made before (copy = part (s.profile userID))) :
    Copied made after (copy = part (t.profile userID)) :=
  h.later (change.imp_left fun ⟨count, same⟩ => ⟨count, fun equal => equal.trans same.symm⟩)

theorem HonestRun.later (h : HonestRun s.profile log run r) (counted : Counted s log t log')
    (photoAt : log'.photoAt run = log.photoAt run)
    (recordAt : log'.recordAt run = log.recordAt run) : HonestRun t.profile log' run r where
  photo photo read := photoAt ▸ (counted r.userID).1.copied (h.photo photo read)
  record value read := recordAt ▸ (counted r.userID).2.copied (h.record value read)

theorem HonestRow.later (h : HonestRow s.profile log row) (counted : Counted s log t log')
    (storedAt : log'.storedAt row.object = log.storedAt row.object) :
    HonestRow t.profile log' row where
  photo := by
    obtain ⟨image, stored, copied⟩ := h.photo
    rw [storedAt]
    exact ⟨image, stored, (counted row.person.id).1.copied copied⟩
  record := by
    rw [storedAt]
    exact (counted row.person.id).2.copied h.record

/-! What the monitor leaves alone. -/

theorem note_of_edits {userID : String} (edits : e.edits = some userID) :
    note s e log = noteChanges s e log := by
  cases e with
  | setUserName | setUserSurname | uploadPhoto | updateChildValues => rfl
  | setupRealm | loadInfoByID | read | reply => cases edits

theorem changes_noteRead : (noteRead s run log).changes = log.changes := by
  unfold noteRead ChangeLog.noteAnswer
  split
  · split <;> rfl
  · rfl

theorem storedAt_noteRead : (noteRead s run log).storedAt = log.storedAt := by
  unfold noteRead ChangeLog.noteAnswer
  split
  · split <;> rfl
  · rfl

theorem noteRead_of_ne (s : ProfileCache) (log : ChangeLog) {i : ℕ} (other : i ≠ run) :
    (noteRead s run log).photoAt i = log.photoAt i ∧
      (noteRead s run log).recordAt i = log.recordAt i := by
  unfold noteRead ChangeLog.noteAnswer
  split
  · split <;> simp [Function.update_of_ne other]
  · exact ⟨rfl, rfl⟩

theorem note_reply : (note s (.reply run) log).changes = log.changes ∧
    (note s (.reply run) log).photoAt = log.photoAt ∧
      (note s (.reply run) log).recordAt = log.recordAt := by
  simp only [note]
  split <;> exact ⟨rfl, rfl, rfl⟩

theorem storedAt_note_of_not_stores (log : ChangeLog) (h : s.stores e = none) :
    (note s e log).storedAt = log.storedAt := by
  cases e with
  | read => exact storedAt_noteRead
  | reply => simp only [note, h, Option.isSome_none, Bool.false_eq_true, if_false]
  | _ => rfl

theorem keptOrCounted_countChange {α : Type} [DecidableEq α] (taken : s.step e = some t)
    (part : Profile → α) (userID : String) (count : ℕ) :
    KeptOrCounted s t part userID count (countChange s e part userID count) := by
  simp only [countChange, taken, Option.any_some, decide_eq_true_eq]
  split
  case isTrue => exact Or.inr rfl
  case isFalse same => exact Or.inl ⟨rfl, not_not.mp same⟩

/-- Every change of a profile is counted. -/
theorem Moves.counted (h : Moves s e t) (log : ChangeLog) (taken : s.step e = some t) :
    Counted s log t (note s e log) := by
  intro userID
  cases edits : e.edits with
  | some =>
    rw [note_of_edits edits]
    exact ⟨keptOrCounted_countChange taken .., keptOrCounted_countChange taken ..⟩
  | none =>
    have same : (note s e log).changes = log.changes := by
      cases e with
      | setupRealm | loadInfoByID => rfl
      | read run => exact changes_noteRead
      | reply run => exact note_reply.1
      | setUserName | setUserSurname | uploadPhoto | updateChildValues => cases edits
    rw [same, KeptOrCounted, KeptOrCounted, h.profile edits]
    exact ⟨Or.inl ⟨rfl, rfl⟩, Or.inl ⟨rfl, rfl⟩⟩

/-- A read is up to date when it is made, and the other one stays as it is. -/
theorem HonestRun.read {phase : LoadPhase} (h : HonestRun s.profile log run r)
    (here : s.runs[run]? = some r) (answers : s.answer r = some phase) :
    HonestRun s.profile (noteRead s run log) run r ∧
      HonestRun s.profile (noteRead s run log) run ⟨r.userID, phase⟩ := by
  have noted : noteRead s run log = log.noteAnswer run r := by rw [noteRead, here]
  rw [noted]
  obtain ⟨userID, asks⟩ := r
  cases asks with
  | hitAsksUser person =>
    obtain rfl := Option.some.inj answers
    refine ⟨⟨nofun, nofun⟩, nofun, ?_⟩
    rintro _ ⟨⟩
    simp only [ChangeLog.noteAnswer, Function.update_self]
    exact .fresh rfl
  | hitAsksPhoto value =>
    obtain rfl := Option.some.inj answers
    refine ⟨⟨nofun, h.record⟩, ?_, h.record⟩
    rintro _ ⟨⟩
    simp only [ChangeLog.noteAnswer, Function.update_self]
    exact .fresh rfl
  | missAsksPhoto =>
    obtain rfl := Option.some.inj answers
    refine ⟨⟨nofun, nofun⟩, ?_, nofun⟩
    rintro _ ⟨⟩
    simp only [ChangeLog.noteAnswer, Function.update_self]
    exact .fresh rfl
  | missAsksUser photo =>
    obtain rfl := Option.some.inj answers
    refine ⟨⟨h.photo, nofun⟩, h.photo, ?_⟩
    rintro _ ⟨⟩
    simp only [ChangeLog.noteAnswer, Function.update_self]
    exact .fresh rfl
  | hitUser | hitPhoto | missPhoto | missUser | completed => cases answers

theorem Honest.runs_step (honest : Honest (s, log)) (h : Moves s e t)
    (counted : Counted s log t (note s e log)) :
    ∀ (run : ℕ) (r : LoadRun), t.runs[run]? = some r →
      HonestRun t.profile (note s e log) run r := by
  have replied (run : ℕ) (counted : Counted s log t (note s (.reply run) log)) (i : ℕ)
      (r : LoadRun) (there : s.runs[i]? = some r) :
      HonestRun t.profile (note s (.reply run) log) i r :=
    (honest.runs i r there).later counted (congrFun note_reply.2.1 i) (congrFun note_reply.2.2 i)
  cases h with
  | edit edits =>
    intro run r here
    rw [note_of_edits edits] at counted ⊢
    exact (honest.runs run r here).later counted rfl rfl
  | setupRealm => exact honest.runs
  | hit | miss =>
    exact Table.forall_concat honest.runs ⟨nofun, nofun⟩
  | @read run r phase here answers =>
    obtain ⟨before, after⟩ := (honest.runs run r here).read here answers
    refine forall_runs_setPhase here (fun i r' there => ?_) after
    by_cases same : i = run
    · subst same
      obtain rfl := Option.some.inj (here.symm.trans there)
      exact before
    · obtain ⟨photoAt, recordAt⟩ := noteRead_of_ne s log same
      exact (honest.runs i r' there).later counted photoAt recordAt
  | @serve run person userID value row image here =>
    exact forall_runs_setPhase here (replied run counted) ⟨nofun, nofun⟩
  | @refresh run person userID value row here =>
    have kept := replied run counted run _ here
    exact forall_runs_setPhase here (replied run counted) ⟨nofun, kept.record⟩
  | @update run userID value photo items here | @add run userID value photo items here =>
    exact forall_runs_setPhase here (replied run counted) ⟨nofun, nofun⟩
  | @askUser run userID photo here =>
    have kept := replied run counted run _ here
    exact forall_runs_setPhase here (replied run counted) ⟨kept.photo, nofun⟩

/-- A stored row is made of the two answers of a run. -/
theorem stores_eq_some {item : Row} (h : s.stores e = some item) :
    ∃ run r photo value, e = .reply run ∧ s.runs[run]? = some r ∧
      r.phase.photo? = some photo ∧ r.phase.value? = some value ∧
        item = s.newItem r.userID photo value := by
  cases e with
  | reply run =>
    cases here : s.runs[run]? with
    | none => simp [stores, adds, updates, here] at h
    | some r =>
      obtain ⟨userID, phase⟩ := r
      cases phase with
      | hitPhoto value photo =>
        simp only [stores, adds, updates, here, Option.bind_some, Option.none_or,
          Option.some.injEq] at h
        exact ⟨run, ⟨userID, .hitPhoto value photo⟩, photo, value, rfl, here, rfl, rfl, h.symm⟩
      | missUser photo value =>
        simp only [stores, adds, here, Option.bind_some, Option.some_or, Option.some.injEq] at h
        exact ⟨run, ⟨userID, .missUser photo value⟩, photo, value, rfl, here, rfl, rfl, h.symm⟩
      | _ => simp [stores, adds, updates, here] at h
  | _ => cases h

/-- A new row is as honest as the run that stores it. -/
theorem HonestRun.newItem {photo : Option UIImage} {value : Option Dictionary}
    (h : HonestRun s.profile log run r) (readPhoto : r.phase.photo? = some photo)
    (readRecord : r.phase.value? = some value) :
    HonestRow s.profile (noteStore s run log) (s.newItem r.userID photo value) where
  photo := by
    refine ⟨photo.getD .saucer, rfl, ?_⟩
    simp only [noteStore, ProfileCache.newItem, Function.update_self]
    exact h.photo photo readPhoto
  record := by
    simp only [noteStore, ProfileCache.newItem, Function.update_self]
    exact h.record value readRecord

theorem Honest.rows_step (honest : Honest (s, log)) (h : Moves s e t)
    (counted : Counted s log t (note s e log)) :
    ∀ row ∈ t.items, row.person.id ≠ "" → HonestRow t.profile (note s e log) row := by
  intro row there named
  rcases h.stored with ⟨noStore, same, -⟩ | ⟨item, kept, stored, object, -, same, old⟩
  · have storedAt := congrFun (storedAt_note_of_not_stores log noStore) row.object
    exact (honest.rows row (same ▸ there) named).later counted storedAt
  · obtain ⟨run, r, photo, value, rfl, here, readPhoto, readRecord, rfl⟩ := stores_eq_some stored
    have noted : note s (.reply run) log = noteStore s run log := by
      simp only [note, stored, Option.isSome_some, if_true]
    rw [noted] at counted ⊢
    rw [same, List.mem_append, List.mem_singleton] at there
    rcases there with there | rfl
    · refine (honest.rows row (old there) named).later counted ?_
      have below := honest.objects.below row (old there)
      exact Function.update_of_ne (Nat.ne_of_lt below) ..
    · rw [h.profile rfl]
      exact (honest.runs run r here).newItem readPhoto readRecord

theorem Honest.step (honest : Honest (s, log)) (taken : s.step e = some t) :
    Honest (t, note s e log) := by
  have h := honest.ready.moves taken
  have counted := h.counted log taken
  exact ⟨honest.ready.step taken, honest.objects.step honest.ready taken,
    honest.runs_step h counted, honest.rows_step h counted⟩

/-- An honest run whose reads are up to date has read the current profile. -/
theorem HonestRun.fetched_eq {profile : String → Profile} {photo : Option UIImage}
    {value : Option Dictionary} (h : HonestRun profile log run r) (upToDate : UpToDate log run r)
    (readPhoto : r.phase.photo? = some photo) (readRecord : r.phase.value? = some value) :
    fetched photo value = profile r.userID := by
  have photoNow := (h.photo photo readPhoto).current (by rw [upToDate.1 (readPhoto ▸ rfl)])
  have recordNow := (h.record value readRecord).current (by rw [upToDate.2 (readRecord ▸ rfl)])
  obtain ⟨name, surname⟩ := Prod.ext_iff.mp recordNow
  simp only at name surname
  rw [fetched, photoNow, name, surname]
  rfl

/-- An honest row without changes since it was read is the current profile. -/
theorem HonestRow.profile_eq {profile : String → Profile} (h : HonestRow profile log row)
    (unchanged : log.storedAt row.object = log.changes row.person.id) :
    ∃ image, row.person.image = some image ∧
      (⟨image, row.person.name, row.person.surname⟩ : Profile) = profile row.person.id := by
  obtain ⟨image, stored, copied⟩ := h.photo
  have photoNow := copied.current (by rw [unchanged])
  have recordNow := h.record.current (by rw [unchanged])
  obtain ⟨name, surname⟩ := Prod.ext_iff.mp recordNow
  simp only at name surname
  refine ⟨image, stored, ?_⟩
  rw [photoNow, name, surname]
  rfl

theorem object?_eq_some {object : ℕ} (h : s.object? object = some row) :
    row ∈ s.items ∧ row.object = object :=
  ⟨List.mem_of_find?_eq_some h, by simpa using List.find?_some h⟩

/-- A row whose date matches is served as the current profile; otherwise the run asks on. -/
theorem Honest.handleUser {person : ℕ} {userID : String} {value : Option Dictionary}
    (honest : Honest (s, log)) (here : s.runs[run]? = some ⟨userID, .hitUser person value⟩)
    (there : s.object? person = some row)
    (unchanged : textAt value "date" = row.person.date →
      log.storedAt person = log.changes userID) :
    ∃ t, s.handleUser run person value = some t ∧ (t.completions = s.completions ∨
      t.completions = s.completions ++ [(run, s.profile userID)]) := by
  obtain ⟨hrow, rfl⟩ := object?_eq_some there
  have owner : row.person.id = userID := (honest.objects.captured run _ here _ rfl).2 row hrow rfl
  have named : row.person.id ≠ "" := owner ▸ honest.ready.named run _ here trivial
  simp only [ProfileCache.handleUser, there, Option.bind_some]
  split
  case isTrue => exact ⟨_, rfl, Or.inl rfl⟩
  case isFalse sameDate =>
    have unchanged := unchanged (not_not.mp sameDate)
    rw [← owner] at unchanged ⊢
    obtain ⟨image, stored, current⟩ := (honest.rows row hrow named).profile_eq unchanged
    rw [stored]
    exact ⟨_, rfl, Or.inr (by rw [← current]; rfl)⟩

theorem Honest.handsCurrent (honest : Honest (s, log)) (datesTell : DatesTell (s, log) e) :
    HandsCurrent (s, log) e := by
  cases e with
  | reply run =>
    intro r here answered upToDate
    have honestRun := honest.runs run r here
    have served := datesTell r here upToDate
    simp only [ProfileCache.step, Option.mem_def.mp here, Option.bind_some]
    obtain ⟨userID, phase⟩ := r
    cases phase with
    | hitUser person value =>
      obtain ⟨row, there, unchanged⟩ := served
      exact honest.handleUser here there unchanged
    | hitPhoto value photo =>
      obtain ⟨items, updated⟩ :=
        honest.ready.sentinel.exists_updatePerson (s.newItem userID photo value)
      simp only [handleReply, updated, Option.map_some]
      refine ⟨_, rfl, Or.inr ?_⟩
      rw [honestRun.fetched_eq upToDate rfl rfl]
      rfl
    | missPhoto photo => exact ⟨_, rfl, Or.inl rfl⟩
    | missUser photo value =>
      obtain ⟨items, added⟩ := exists_addPerson s.items (s.newItem userID photo value)
      simp only [handleReply, added, Option.map_some]
      refine ⟨_, rfl, Or.inr ?_⟩
      rw [honestRun.fetched_eq upToDate rfl rfl]
      rfl
    | hitAsksUser | hitAsksPhoto | missAsksPhoto | missAsksUser | completed => exact answered.elim
  | _ => trivial

end Honest

/-- In every run in which matching dates tell the truth about the rows served, whoever has
read since the last change hands over the current profile. -/
theorem hands_current (users : String → Option Dictionary) (profiles : String → Option UIImage)
    (events : List Event)
    (datesTell : EveryStep (watch step note) DatesTell (launched users profiles, {}) events) :
    EveryStep (watch step note) HandsCurrent (launched users profiles, {}) events := by
  refine EveryStep.of_invariant (I := Honest) (watch_kept_of_guard ?_) ?_ ?_ datesTell
  · exact fun _ _ _ _ honest _ taken => honest.step taken
  · exact fun _ _ honest datesTell => honest.handsCurrent datesTell
  · refine ⟨ready_launched users profiles, .of_launched users profiles, nofun, ?_⟩
    rintro row there named
    obtain rfl := List.mem_singleton.mp there
    exact absurd rfl named

/-- The name changes after the first lookup, and with it the date: the second lookup
refreshes the row and the third one serves it. -/
def nameChange : List Event :=
  [.setUserName "u" "Anna" 0] ++ missRun 0 "u" ++
    [.setUserName "u" "Olga" 60000, .loadInfoByID "u", .read 1, .reply 1, .read 1, .reply 1,
      .loadInfoByID "u", .read 2, .reply 2]

theorem hands_current_nameChange :
    EveryStep (watch step note) HandsCurrent (launched (fun _ => none) (fun _ => none), {})
      nameChange :=
  hands_current _ _ _ (by decide +kernel)

/-- The photo changes after the first lookup, a minute later. -/
def photoChange : List Event :=
  [.setUserName "u" "Anna" 0] ++ missRun 0 "u" ++
    [.uploadPhoto "u" ⟨"portrait"⟩, .loadInfoByID "u", .read 1, .reply 1]

/-- The second lookup serves the row without the new photo. -/
theorem not_hands_current :
    ¬ EveryStep (watch step note) HandsCurrent (launched (fun _ => none) (fun _ => none), {})
      photoChange := by
  decide +kernel

end ProfileCache

end OnMap
