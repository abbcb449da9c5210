/-
# Lookups come to an end

A run of `loadInfoByID` waits for the server or for its closure, at most four times, and then
calls its completion. No run completes twice. What keeps a run from completing is the row that
its search has found: a closure that reads it after it has been deleted is a trap, and a run
that has no such row goes on.
-/

import OnMap.Account.Freshness

namespace OnMap

open AccountLocalStorage Transition

/-- How many answers and closures the run waits for, at most. -/
def LoadPhase.left : LoadPhase → ℕ
  | .hitAsksUser _ | .missAsksPhoto => 4
  | .hitUser .. | .missPhoto _ => 3
  | .hitAsksPhoto _ | .missAsksUser _ => 2
  | .hitPhoto .. | .missUser .. => 1
  | .completed => 0

namespace ProfileCache

/-- Events of the server and of the main queue. -/
def Event.delivers : Event → Bool
  | .read _ | .reply _ => true
  | _ => false

/-- What all runs wait for. -/
def left (s : ProfileCache) : ℕ := (s.runs.map fun r => r.phase.left).sum

/-- The closure of the run would read a row that has been deleted. -/
def ReadsDeleted (s : ProfileCache) (r : LoadRun) : Prop :=
  ∃ person value, r.phase = .hitUser person value ∧ s.object? person = none

variable {s t : ProfileCache} {e : Event} {r : LoadRun} {run : ℕ}

/-! ### What a step completes -/

/-- The step leaves each run's user, and completes none. -/
def KeepsRuns (s t : ProfileCache) : Prop :=
  t.completions = s.completions ∧
    ∀ (run : ℕ) (r : LoadRun), s.runs[run]? = some r →
      ∃ phase, t.runs[run]? = some ⟨r.userID, phase⟩ ∧ (phase = .completed ↔ r.phase = .completed)

theorem keepsRuns_refl (s : ProfileCache) : KeepsRuns s s :=
  ⟨rfl, fun _ r here => ⟨r.phase, here, Iff.rfl⟩⟩

theorem keepsRuns_append (s : ProfileCache) (new : LoadRun) :
    KeepsRuns s { s with runs := s.runs ++ [new] } := by
  refine ⟨rfl, fun run r here => ⟨r.phase, ?_, Iff.rfl⟩⟩
  rw [List.getElem?_append_left (List.getElem?_eq_some_iff.mp here).1, here]

/-- A run that goes on to another phase leaves the others where they are. -/
theorem runs_setPhase (here : s.runs[run]? = some r) (phase : LoadPhase) :
    (s.setPhase run phase).runs[run]? = some ⟨r.userID, phase⟩ ∧
      ∀ other, run ≠ other → (s.setPhase run phase).runs[other]? = s.runs[other]? := by
  constructor
  · rw [setPhase, List.getElem?_modify_eq, here]
    rfl
  · exact fun other apart => List.getElem?_modify_ne _ _ apart

theorem keepsRuns_setPhase (here : s.runs[run]? = some r) (open_ : r.phase ≠ .completed)
    {phase : LoadPhase} (still : phase ≠ .completed) : KeepsRuns s (s.setPhase run phase) := by
  refine ⟨rfl, fun other r' there => ?_⟩
  obtain ⟨now, rest⟩ := runs_setPhase here phase
  by_cases same : run = other
  · subst same
    obtain rfl := Option.some.inj (here.symm.trans there)
    exact ⟨phase, now, iff_of_false still open_⟩
  · exact ⟨r'.phase, (rest other same).trans there, Iff.rfl⟩

/-- A step completes no run, or one that had not completed. -/
theorem Moves.completes (h : Moves s e t) :
    KeepsRuns s t ∨
      ∃ run r result, s.runs[run]? = some r ∧ r.phase ≠ .completed ∧
        t.runs = (s.setPhase run .completed).runs ∧
          t.completions = s.completions ++ [(run, result)] := by
  cases h with
  | edit | setupRealm => exact Or.inl (keepsRuns_refl s)
  | hit | miss => exact Or.inl (keepsRuns_append s _)
  | @read run r phase here answers =>
    left
    obtain ⟨userID, asks⟩ := r
    cases asks with
    | hitAsksUser | hitAsksPhoto | missAsksPhoto | missAsksUser =>
      obtain rfl := Option.some.inj answers
      exact keepsRuns_setPhase here nofun nofun
    | hitUser | hitPhoto | missPhoto | missUser | completed => cases answers
  | refresh here | askUser here => exact Or.inl (keepsRuns_setPhase here nofun nofun)
  | serve here | update here | add here =>
    exact Or.inr ⟨_, _, _, here, nofun, rfl, rfl⟩

/-! ### Deliveries end -/

theorem left_setPhase (here : s.runs[run]? = some r) (phase : LoadPhase) :
    (s.setPhase run phase).left + r.phase.left = s.left + phase.left :=
  Table.sum_modify here (fun r => r.phase.left) fun r => { r with phase := phase }

/-- Every answer and every closure takes off some of what the runs wait for. -/
theorem Moves.left_lt (h : Moves s e t) (delivers : e.delivers = true) : t.left < s.left := by
  have off {run : ℕ} {r : LoadRun} {phase : LoadPhase} (here : s.runs[run]? = some r)
      (less : phase.left < r.phase.left) : (s.setPhase run phase).left < s.left := by
    have count := left_setPhase here phase
    omega
  cases h with
  | edit edits =>
    cases e with
    | read | reply => cases edits
    | _ => cases delivers
  | setupRealm | hit | miss => cases delivers
  | @read run r phase here answers =>
    refine off here ?_
    obtain ⟨userID, asks⟩ := r
    cases asks with
    | hitAsksUser | hitAsksPhoto | missAsksPhoto | missAsksUser =>
      obtain rfl := Option.some.inj answers
      simp [LoadPhase.left]
    | hitUser | hitPhoto | missPhoto | missUser | completed => cases answers
  | refresh here | askUser here => exact off here (by simp [LoadPhase.left])
  | serve here => exact off here (by simp [LoadPhase.left])
  | update here | add here => exact off here (by simp [LoadPhase.left])

/-! ### What keeps a run from completing -/

/-- The table has its sentinel, an object is one row, and the row of a user has an image. -/
structure Sound (s : ProfileCache) : Prop where
  ready : Ready s
  objects : Objects s
  images (row : Row) : row ∈ s.items → row.person.id ≠ "" → row.person.image.isSome = true

theorem sound_launched (users : String → Option Dictionary)
    (profiles : String → Option UIImage) : Sound (launched users profiles) where
  ready := ready_launched users profiles
  objects := Objects.of_launched users profiles
  images row h named := by
    rw [items_launched, List.mem_singleton] at h
    exact absurd (h ▸ rfl) named

theorem Sound.step (sound : Sound s) (taken : s.step e = some t) : Sound t := by
  refine ⟨sound.ready.step taken, sound.objects.step sound.ready taken, fun row h named => ?_⟩
  rcases (sound.ready.moves taken).stored with
    ⟨-, same, -⟩ | ⟨item, kept, stored, -, -, same, old⟩
  · exact sound.images row (same ▸ h) named
  · rw [same, List.mem_append, List.mem_singleton] at h
    rcases h with h | rfl
    · exact sound.images row (old h) named
    · obtain ⟨_, _, _, _, -, -, -, -, new⟩ := stores_eq_some stored
      rw [new]
      rfl

/-- Every run has completed, would read a deleted row, or goes on. -/
theorem Sound.completed_or_goes_on (sound : Sound s) (here : s.runs[run]? = some r) :
    r.phase = .completed ∨ s.ReadsDeleted r ∨
      ∃ e t, e.delivers = true ∧ s.step e = some t := by
  obtain ⟨userID, phase⟩ := r
  have reads (phase' : LoadPhase) (answers : s.answer ⟨userID, phase⟩ = some phase') :
      ∃ e t, e.delivers = true ∧ s.step e = some t :=
    ⟨.read run, s.setPhase run phase', rfl, by
      simp only [ProfileCache.step, here, Option.bind_some, answers, Option.map_some]⟩
  have replies (t : ProfileCache) (handled : s.handleReply run ⟨userID, phase⟩ = some t) :
      ∃ e t, e.delivers = true ∧ s.step e = some t :=
    ⟨.reply run, t, rfl, by
      simp only [ProfileCache.step, here, Option.bind_some, handled]⟩
  cases phase with
  | completed => exact Or.inl rfl
  | hitAsksUser | hitAsksPhoto | missAsksPhoto | missAsksUser =>
    exact Or.inr (Or.inr (reads _ rfl))
  | missPhoto => exact Or.inr (Or.inr (replies _ rfl))
  | hitPhoto value photo =>
    obtain ⟨items, updated⟩ :=
      sound.ready.sentinel.exists_updatePerson (s.newItem userID photo value)
    exact Or.inr (Or.inr (replies ((s.store items).complete run (fetched photo value))
      (by simp only [handleReply, updated, Option.map_some])))
  | missUser photo value =>
    obtain ⟨items, added⟩ := exists_addPerson s.items (s.newItem userID photo value)
    exact Or.inr (Or.inr (replies ((s.store items).complete run (fetched photo value))
      (by simp only [handleReply, added, Option.map_some])))
  | hitUser person value =>
    cases kept : s.object? person with
    | none => exact Or.inr (Or.inl ⟨person, value, rfl, kept⟩)
    | some row =>
      -- the row is that of the user, and has an image to serve
      obtain ⟨there, same⟩ := object?_eq_some kept
      have owner := (sound.objects.captured run _ here person rfl).2 row there same
      have named : row.person.id ≠ "" := owner ▸ sound.ready.named run _ here trivial
      obtain ⟨image, photo⟩ := Option.isSome_iff_exists.mp (sound.images row there named)
      refine Or.inr (Or.inr ?_)
      by_cases sameDate : textAt value "date" = row.person.date
      · refine replies (s.complete run ⟨image, row.person.name, row.person.surname⟩) ?_
        simp only [handleReply, handleUser, kept, Option.bind_some, sameDate, ne_eq, not_true,
          if_false, photo, Option.map_some]
      · refine replies (s.setPhase run (.hitAsksPhoto value)) ?_
        simp only [handleReply, handleUser, kept, Option.bind_some, sameDate, ne_eq, not_false_iff,
          if_true]

end ProfileCache

end OnMap
