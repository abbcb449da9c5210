/-
# Message cells and the profile cache

The lookups of a chat screen's model are runs of `Account.loadInfoByID`, and their completions
are called by these runs: once each, after they have been started. All screens share the
account, so the runs of this screen are some of those under way, and a completion that belongs
to no lookup of the model is another screen's.

The model alone is closed under completions that come at any time. Here they come from the
cache, and what the cells show is what the cache has handed out.
-/

import OnMap.Account.Completions
import OnMap.ChatRoom.ModelChatRoom
import OnMap.Library.Progress

namespace OnMap

open Transition

/-- The account, the model of a chat screen, and which runs its lookups are, in their order. -/
structure AvatarLookups (κ : Type) where
  account : ProfileCache
  model : ModelChatRoom κ
  asked : List ℕ := []

/-! ### What is assigned has been passed -/

namespace ModelChatRoom

/-- Cells wait and are assigned to because they have been passed, and get what the lookup of
their user has completed with. -/
structure FromPasses {κ : Type} (mp : ModelChatRoom κ × List (Pass κ)) : Prop where
  looked : ∀ load ∈ mp.1.loads, ∃ pass ∈ mp.2, pass.id = load.userID ∧ pass.cell = load.cell
  waiting (i : ℕ) (id : String) (cell : κ) : mp.1.Waits i id cell →
    ∃ pass ∈ mp.2, pass.id = id ∧ pass.cell = cell
  assigned (cell : κ) (info : OtherMessageInfo) : (cell, info) ∈ mp.1.assigned →
    ∃ pass ∈ mp.2, pass.cell = cell ∧ ∃ load ∈ mp.1.loads, load.userID = pass.id ∧
      ∃ profile, load.result = some profile ∧ info = .ofProfile profile

variable {κ : Type} {m t : ModelChatRoom κ} {passes : List (Pass κ)} {e : Event κ}

theorem fromPasses_opened (cells : κ → MessageCell) :
    FromPasses (opened cells, ([] : List (Pass κ))) where
  looked _ none := nomatch none
  waiting _ _ _ waits := nomatch waits.1
  assigned _ _ none := nomatch none

/-- A pair that waits after one more has been enqueued waited before, or is the new one. -/
theorem waits_enqueue_cases (queues : m.que1.length = m.que2.length) {i : ℕ} {id id' : String}
    {cell cell' : κ} (h : (m.enqueue id cell).Waits i id' cell') :
    m.Waits i id' cell' ∨ id' = id ∧ cell' = cell := by
  obtain ⟨user, waiting⟩ := h
  rw [enqueue] at user waiting
  rcases Nat.lt_or_ge i m.que1.length with earlier | later
  · rw [List.getElem?_append_left earlier] at user
    rw [List.getElem?_append_left (queues ▸ earlier)] at waiting
    exact Or.inl ⟨user, waiting⟩
  · rw [List.getElem?_append_right later, List.getElem?_singleton] at user
    rw [List.getElem?_append_right (queues ▸ later), List.getElem?_singleton, ← queues] at waiting
    split at user
    case isTrue last =>
      rw [if_pos last] at waiting
      exact Or.inr ⟨(Option.some.inj user).symm, (Option.some.inj waiting).symm⟩
    case isFalse => cases user

theorem FromPasses.more (h : FromPasses (m, passes)) (later : List (Pass κ)) :
    FromPasses (m, passes ++ later) where
  looked load here := by
    obtain ⟨pass, passed, same⟩ := h.looked load here
    exact ⟨pass, List.mem_append_left _ passed, same⟩
  waiting i id cell waits := by
    obtain ⟨pass, passed, same⟩ := h.waiting i id cell waits
    exact ⟨pass, List.mem_append_left _ passed, same⟩
  assigned cell info mem := by
    obtain ⟨pass, passed, same⟩ := h.assigned cell info mem
    exact ⟨pass, List.mem_append_left _ passed, same⟩

/-- A passed cell can wait. -/
theorem FromPasses.enqueue (h : FromPasses (m, passes)) (queues : m.que1.length = m.que2.length)
    {id : String} {cell : κ} (passed : ∃ pass ∈ passes, pass.id = id ∧ pass.cell = cell) :
    FromPasses (m.enqueue id cell, passes) where
  looked := h.looked
  waiting i id' cell' waits := by
    rcases waits_enqueue_cases queues waits with before | ⟨rfl, rfl⟩
    · exact h.waiting i id' cell' before
    · exact passed
  assigned := h.assigned

/-- A lookup that completes changes no other. -/
theorem FromPasses.settle (h : FromPasses (m, passes)) (consistent : Consistent (m, passes))
    {index : ℕ} {id : String} {cell : κ} {profile : Profile}
    (here : m.loads[index]? = some ⟨id, cell, none⟩) :
    FromPasses ({ m with loads := m.loads.modify index ({ · with result := some profile }) },
      passes) where
  looked load there := by
    rcases (consistent.mem_settled here).mp there with rfl | ⟨old, -⟩
    · exact h.looked ⟨id, cell, none⟩ (List.mem_of_getElem? here)
    · exact h.looked load old
  waiting := h.waiting
  assigned cell' info mem := by
    obtain ⟨pass, passed, same, load, there, user, profile', done, given⟩ :=
      h.assigned cell' info mem
    refine ⟨pass, passed, same, load, (consistent.mem_settled here).mpr (Or.inr ⟨there, ?_⟩), user,
      profile', done, given⟩
    -- the lookup that completes had handed out nothing
    intro own
    obtain rfl := List.inj_on_of_nodup_map consistent.once there (List.mem_of_getElem? here) own
    cases done

variable [DecidableEq κ]

/-- A passed cell can be assigned what the lookup of its user has completed with. -/
theorem FromPasses.assign (h : FromPasses (m, passes)) {pass : Pass κ} (passed : pass ∈ passes)
    {load : AvatarLoad κ} (here : load ∈ m.loads) (user : load.userID = pass.id)
    {profile : Profile} (done : load.result = some profile) :
    FromPasses (m.assign pass.cell (.ofProfile profile), passes) where
  looked := h.looked
  waiting := h.waiting
  assigned cell info mem := by
    rcases List.mem_append.mp mem with before | now
    · exact h.assigned cell info before
    · obtain ⟨rfl, rfl⟩ := Prod.mk.inj (List.mem_singleton.mp now)
      exact ⟨pass, passed, rfl, load, here, user, profile, done, rfl⟩

theorem FromPasses.step (h : FromPasses (m, passes)) (consistent : Consistent (m, passes))
    (moves : Moves m e t) : FromPasses (t, notePass m e passes) := by
  cases moves with
  | @shown id cell load profile here user done =>
    have passed : ⟨id, cell, m.assigned.length⟩ ∈ passes ++ [⟨id, cell, m.assigned.length⟩] :=
      List.mem_append_right _ (List.mem_singleton_self _)
    exact (h.more _).assign passed here user done
  | waits =>
    exact (h.more _).enqueue consistent.queues
      ⟨_, List.mem_append_right _ (List.mem_singleton_self _), rfl, rfl⟩
  | @asks id cell new =>
    have passed : ∃ pass ∈ passes ++ [⟨id, cell, m.assigned.length⟩],
        pass.id = id ∧ pass.cell = cell :=
      ⟨_, List.mem_append_right _ (List.mem_singleton_self _), rfl, rfl⟩
    have waiting := ((h.more _).enqueue consistent.queues passed).waiting
    refine ⟨fun load there => ?_, waiting, fun cell' info mem => ?_⟩
    · rcases List.mem_append.mp there with old | last
      · exact (h.more _).looked load old
      · obtain rfl := List.mem_singleton.mp last
        exact passed
    · obtain ⟨pass, passed, same, load, there, rest⟩ := (h.more _).assigned cell' info mem
      exact ⟨pass, passed, same, load, List.mem_append_left _ there, rest⟩
  | @completes index id cell profile here =>
    obtain ⟨pass, passed, user, same⟩ := h.looked _ (List.mem_of_getElem? here)
    have settled : FromPasses ({ m with
        loads := m.loads.modify index ({ · with result := some profile }) }, passes) :=
      h.settle consistent here
    have there : ⟨id, cell, some profile⟩ ∈
        m.loads.modify index ({ · with result := some profile }) :=
      (consistent.mem_settled here).mpr (Or.inl rfl)
    have assigned := settled.assign passed there user.symm rfl
    rw [same] at assigned
    exact ⟨assigned.looked, assigned.waiting, assigned.assigned⟩
  | runs here there =>
    -- the closure carries what the lookup of the cell's user has completed with
    obtain ⟨load, known, profile, done, given, user⟩ :=
      consistent.blocks _ (List.mem_of_getElem? here)
    obtain ⟨pass, passed, id, same⟩ := h.waiting _ _ _ ⟨user, there⟩
    have assigned := h.assign passed known id.symm done
    rw [same, ← given] at assigned
    exact ⟨assigned.looked, assigned.waiting, assigned.assigned⟩

/-! ### What the cells show -/

/-- A cell is as it was, or has the fields of an assignment to it. -/
def CellsHold (cells : κ → MessageCell) (m : ModelChatRoom κ) : Prop :=
  ∀ cell, m.cells cell = cells cell ∨
    ∃ info, (cell, info) ∈ m.assigned ∧ Holds (cell, info) (cell, m.cells cell)

theorem CellsHold.assign {cells : κ → MessageCell} (h : CellsHold cells m) (cell : κ)
    (info : OtherMessageInfo) : CellsHold cells (m.assign cell info) := by
  intro other
  by_cases same : other = cell
  · subst same
    exact Or.inr ⟨info, List.mem_append_right _ (List.mem_singleton_self _),
      holds_assign m other info⟩
  · rw [assign_cells_of_ne info same]
    refine (h other).imp_right ?_
    rintro ⟨info', mem, holds⟩
    exact ⟨info', List.mem_append_left _ mem, holds⟩

theorem CellsHold.step {cells : κ → MessageCell} (h : CellsHold cells m) (moves : Moves m e t) :
    CellsHold cells t := by
  cases moves with
  | shown => exact h.assign _ _
  | waits | asks => exact h
  | @completes index id cell profile here =>
    have settled : CellsHold cells { m with
      buffer := Function.update m.buffer id (some (.ofProfile profile))
      loads := m.loads.modify index ({ · with result := some profile }) } := h
    exact settled.assign cell _
  | @runs index i info cell here there =>
    have taken : CellsHold cells { m with main := m.main.eraseIdx index } := h
    exact taken.assign cell info

end ModelChatRoom

/-! ### The lookups of a screen -/

namespace AvatarLookups

variable {κ : Type} [DecidableEq κ]

/-- What can happen: the table binds a cell to a message of the user, the main queue runs a
closure of the model, and whatever happens to the account, lookups of other screens included. -/
inductive Event (κ : Type)
  | setAvatarAndOwnerMessage (id : String) (cell : κ)
  | run (block : ℕ)
  | account (e : ProfileCache.Event)

/-- Nothing is buffered of a user who has not been looked up. -/
def setAvatarAndOwnerMessage (s : AvatarLookups κ) (id : String) (cell : κ) :
    Option (AvatarLookups κ) :=
  let model := s.model.setAvatarAndOwnerMessage id cell
  match s.model.buffer id with
  | some _ => some { s with model := model }
  | none => (s.account.loadInfoByID id).map fun account =>
    { account := account, model := model, asked := s.asked ++ [s.account.runs.length] }

/-- A run calls its completion: that of a lookup of the model, or of another screen. -/
def completion (s : AvatarLookups κ) (call : ℕ × Profile) : Option (AvatarLookups κ) :=
  match s.asked.findIdx? (· == call.1) with
  | some load => (s.model.complete load call.2).map fun model => { s with model := model }
  | none => some s

/-- A step of the account, and the completions that it calls. -/
def accountStep (s : AvatarLookups κ) (e : ProfileCache.Event) : Option (AvatarLookups κ) :=
  (s.account.step e).bind fun account =>
    (account.completions.drop s.account.completions.length).foldlM completion
      { s with account := account }

def step (s : AvatarLookups κ) : Event κ → Option (AvatarLookups κ)
  | .setAvatarAndOwnerMessage id cell => s.setAvatarAndOwnerMessage id cell
  | .run block => (s.model.runBlock block).map fun model => { s with model := model }
  | .account e => s.accountStep e

/-- A new screen, over an account whose table has been set up. -/
def opened (users : String → Option Dictionary) (profiles : String → Option UIImage)
    (cells : κ → MessageCell) : AvatarLookups κ where
  account := .launched users profiles
  model := .opened cells

/-- Record the calls of `setAvatarAndOwnerMessage`. -/
def notePass (s : AvatarLookups κ) :
    Event κ → List (ModelChatRoom.Pass κ) → List (ModelChatRoom.Pass κ)
  | .setAvatarAndOwnerMessage id cell =>
    ModelChatRoom.notePass s.model (.setAvatarAndOwnerMessage id cell)
  | _ => id

/-- Record the calls, and the cells as they are written. -/
def note (s : AvatarLookups κ) (e : Event κ) (record : ModelChatRoom.Record κ) :
    ModelChatRoom.Record κ where
  passes := notePass s e record.passes
  written := record.written ++ ((s.step e).map fun t => s.model.written t.model).getD []

/-- The run looks the user up, has completed if the lookup has, and with the same profile. -/
def RunOf (account : ProfileCache) (load : AvatarLoad κ) (run : ℕ) : Prop :=
  ∃ r, account.runs[run]? = some r ∧ r.userID = load.userID ∧
    (r.phase = .completed ↔ load.result.isSome = true) ∧
      ∀ profile ∈ load.result, (run, profile) ∈ account.completions

/-- The lookups of the model are the runs that it has asked for. -/
structure Linked (sp : AvatarLookups κ × List (ModelChatRoom.Pass κ)) : Prop where
  sound : sp.1.account.Sound
  consistent : ModelChatRoom.Consistent (sp.1.model, sp.2)
  fromPasses : ModelChatRoom.FromPasses (sp.1.model, sp.2)
  once : sp.1.asked.Nodup
  count : sp.1.asked.length = sp.1.model.loads.length
  runs (i run : ℕ) (load : AvatarLoad κ) : sp.1.asked[i]? = some run →
    sp.1.model.loads[i]? = some load → RunOf sp.1.account load run

section Steps

variable {s t : AvatarLookups κ} {passes : List (ModelChatRoom.Pass κ)} {run : ℕ}
  {account : ProfileCache}

omit [DecidableEq κ] in
theorem linked_opened (users : String → Option Dictionary) (profiles : String → Option UIImage)
    (cells : κ → MessageCell) :
    Linked (opened users profiles cells, ([] : List (ModelChatRoom.Pass κ))) where
  sound := ProfileCache.sound_launched users profiles
  consistent := ModelChatRoom.consistent_opened cells
  fromPasses := ModelChatRoom.fromPasses_opened cells
  once := List.nodup_nil
  count := rfl
  runs _ _ _ none := nomatch none

omit [DecidableEq κ] in
/-- A run that keeps its user and is not completed is still that of its lookup. -/
theorem RunOf.keeps {load : AvatarLoad κ} (h : RunOf s.account load run)
    (keeps : s.account.KeepsRuns account) : RunOf account load run := by
  obtain ⟨r, here, user, completed, handed⟩ := h
  obtain ⟨phase, there, same⟩ := keeps.2 run r here
  refine ⟨⟨r.userID, phase⟩, there, user, same.trans completed, ?_⟩
  rw [keeps.1]
  exact handed

omit [DecidableEq κ] in
theorem Linked.exists_load (h : Linked (s, passes)) {i : ℕ} (asked : s.asked[i]? = some run) :
    ∃ load, s.model.loads[i]? = some load := by
  have bound := (List.getElem?_eq_some_iff.mp asked).1
  exact ⟨_, List.getElem?_eq_getElem (h.count ▸ bound)⟩

/-- A step of the account that completes no run. -/
theorem Linked.accountStep_of_keeps (h : Linked (s, passes)) {e : ProfileCache.Event}
    (taken : s.account.step e = some account) (keeps : s.account.KeepsRuns account) :
    s.step (.account e) = some { s with account := account } ∧
      Linked ({ s with account := account }, passes) := by
  constructor
  · rw [step, accountStep, taken, Option.bind_some, keeps.1, List.drop_length]
    rfl
  · exact ⟨h.sound.step taken, h.consistent, h.fromPasses, h.once, h.count,
      fun i run load asked here => (h.runs i run load asked here).keeps keeps⟩

omit [DecidableEq κ] in
/-- The completion of another run leaves a lookup as it is. -/
theorem RunOf.other {load : AvatarLoad κ} {r : LoadRun} {other : ℕ} {result : Profile}
    (h : RunOf s.account load other) (apart : run ≠ other)
    (here : s.account.runs[run]? = some r)
    (runs : account.runs = (s.account.setPhase run .completed).runs)
    (called : account.completions = s.account.completions ++ [(run, result)]) :
    RunOf account load other := by
  obtain ⟨r', there, user, completed, handed⟩ := h
  refine ⟨r', ?_, user, completed, fun profile done => ?_⟩
  · rw [runs, (ProfileCache.runs_setPhase here .completed).2 other apart, there]
  · rw [called]
    exact List.mem_append_left _ (handed profile done)

/-- A step of the account that completes a run: the model takes the completion of its own
lookup, and leaves those of other screens alone. -/
theorem Linked.accountStep_of_completes (h : Linked (s, passes)) {e : ProfileCache.Event}
    (taken : s.account.step e = some account) {r : LoadRun} {result : Profile}
    (here : s.account.runs[run]? = some r) (open_ : r.phase ≠ .completed)
    (runs : account.runs = (s.account.setPhase run .completed).runs)
    (called : account.completions = s.account.completions ++ [(run, result)]) :
    ∃ model, s.step (.account e) = some { s with account := account, model := model } ∧
      Linked ({ s with account := account, model := model }, passes) ∧
        (model = s.model ∨ ∃ moved, s.model.step moved = some model) ∧
          model.que1 = s.model.que1 ∧
            model.main.length ≤ s.model.main.length + s.model.que1.length := by
  have stepped : s.step (.account e) =
      completion { s with account := account } (run, result) := by
    rw [step, accountStep, taken, Option.bind_some, called, List.drop_left]
    exact bind_pure _
  have sound := h.sound.step taken
  rw [stepped, completion]
  cases found : s.asked.findIdx? (· == run) with
  | none =>
    have absent := List.findIdx?_eq_none_iff.mp found
    refine ⟨s.model, rfl, ⟨sound, h.consistent, h.fromPasses, h.once, h.count,
      fun i other load asked there => ?_⟩, Or.inl rfl, rfl, Nat.le_add_right ..⟩
    refine (h.runs i other load asked there).other (fun same => ?_) here runs called
    exact absurd (absent other (List.mem_of_getElem? asked)) (by simp [same])
  | some i =>
    obtain ⟨bound, same, -⟩ := List.findIdx?_eq_some_iff_getElem.mp found
    have asked : s.asked[i]? = some run := by
      rw [List.getElem?_eq_getElem bound, beq_iff_eq.mp same]
    obtain ⟨⟨id, cell, done⟩, looked⟩ := h.exists_load asked
    obtain ⟨r', there, user, completed, -⟩ := h.runs i run _ asked looked
    obtain rfl := Option.some.inj (here.symm.trans there)
    cases done with
    | some profile => exact absurd (completed.mpr rfl) open_
    | none =>
      let model := { s.model with
        loads := s.model.loads.modify i ({ · with result := some result }) }.completion id cell
          result
      have handled : s.model.complete i result = some model := by
        simp only [ModelChatRoom.complete, looked, model]
      have moves : ModelChatRoom.Moves s.model (.complete i result) model := .completes looked
      refine ⟨model, ?_, ⟨sound, h.consistent.step (e := .complete i result) handled,
        h.fromPasses.step h.consistent moves, h.once, ?_, ?_⟩,
        Or.inr ⟨.complete i result, handled⟩, rfl, ?_⟩
      · simp only [handled, Option.map_some]
      · exact h.count.trans (List.length_modify ..).symm
      · intro j other load askedFor at_
        refine Table.forall_modify (P := fun j load => ∀ other, s.asked[j]? = some other →
          RunOf account load other) looked ?_ ?_ j load at_ other askedFor
        · intro k load' apart there' other' asked'
          refine (h.runs k other' load' asked' there').other (fun same => apart ?_) here runs called
          exact (List.getElem?_inj bound h.once).mp (asked.trans (same ▸ asked'.symm))
        · intro other' asked'
          obtain rfl := Option.some.inj (asked.symm.trans asked')
          refine ⟨⟨r.userID, .completed⟩, ?_, user, by simp, ?_⟩
          · rw [runs, (ProfileCache.runs_setPhase here .completed).1]
          · rintro profile ⟨⟩
            rw [called]
            exact List.mem_append_right _ (List.mem_singleton_self _)
      · have few : (s.model.indexes id).length ≤ s.model.que1.length := by
          rw [ModelChatRoom.indexes]
          exact Nat.le_trans (List.length_filter_le ..) (Nat.le_of_eq List.length_range)
        have main : model.main.length = s.model.main.length + (s.model.indexes id).length := by
          simp only [model, ModelChatRoom.completion, ModelChatRoom.assign, List.length_append,
            List.length_map]
          rfl
        omega

/-- Every step of the account can be taken: the model takes each completion. -/
theorem Linked.accountStep (h : Linked (s, passes)) {e : ProfileCache.Event}
    (taken : s.account.step e = some account) :
    ∃ model, s.step (.account e) = some { s with account := account, model := model } ∧
      Linked ({ s with account := account, model := model }, passes) ∧
        (model = s.model ∨ ∃ moved, s.model.step moved = some model) ∧
          model.que1 = s.model.que1 ∧
            model.main.length ≤ s.model.main.length + s.model.que1.length := by
  rcases (h.sound.ready.moves taken).completes with
    keeps | ⟨run, r, result, here, open_, runs, called⟩
  · obtain ⟨stepped, linked⟩ := h.accountStep_of_keeps taken keeps
    exact ⟨s.model, stepped, linked, Or.inl rfl, rfl, Nat.le_add_right ..⟩
  · exact h.accountStep_of_completes taken here open_ runs called

/-- A call that looks the user up starts a run of its own. -/
theorem Linked.setAvatarAndOwnerMessage (h : Linked (s, passes)) {id : String} {cell : κ}
    (taken : s.setAvatarAndOwnerMessage id cell = some t) :
    Linked (t, notePass s (.setAvatarAndOwnerMessage id cell) passes) := by
  let e : ModelChatRoom.Event κ := .setAvatarAndOwnerMessage id cell
  have modelled : s.model.step e = some (s.model.setAvatarAndOwnerMessage id cell) := rfl
  have consistent := h.consistent.step modelled
  have moves := h.consistent.moves modelled
  have fromPasses := h.fromPasses.step h.consistent moves
  rw [AvatarLookups.setAvatarAndOwnerMessage] at taken
  cases buffered : s.model.buffer id with
  | some info =>
    simp only [buffered, Option.some.injEq] at taken
    subst taken
    -- the lookups are those of before
    have loads : (s.model.setAvatarAndOwnerMessage id cell).loads = s.model.loads := by
      simp only [ModelChatRoom.setAvatarAndOwnerMessage, buffered]
      split <;> rfl
    refine ⟨h.sound, consistent, fromPasses, h.once, loads ▸ h.count, ?_⟩
    exact fun i run load asked here => h.runs i run load asked (loads ▸ here)
  | none =>
    simp only [buffered, Option.map_eq_some_iff] at taken
    obtain ⟨account, searched, rfl⟩ := taken
    have taken : s.account.step (.loadInfoByID id) = some account := searched
    have loads : (s.model.setAvatarAndOwnerMessage id cell).loads =
        s.model.loads ++ [⟨id, cell, none⟩] := by
      simp only [ModelChatRoom.setAvatarAndOwnerMessage, buffered]
      rfl
    obtain ⟨row, -, rfl⟩ := Option.map_eq_some_iff.mp searched
    have old (i run : ℕ) (load : AvatarLoad κ) (asked : s.asked[i]? = some run)
        (here : s.model.loads[i]? = some load) :=
      (h.runs i run load asked here).keeps (ProfileCache.keepsRuns_append s.account
        ⟨id, if row.person.id ≠ "" then .hitAsksUser row.object else .missAsksPhoto⟩)
    refine ⟨h.sound.step taken, consistent, fromPasses, ?_, ?_, ?_⟩
    · refine List.nodup_append.mpr ⟨h.once, List.nodup_singleton _, ?_⟩
      -- the runs asked for so far have smaller numbers
      rintro run mem other last rfl
      obtain ⟨i, asked⟩ := List.mem_iff_getElem?.mp mem
      obtain ⟨load, looked⟩ := h.exists_load asked
      obtain ⟨r, there, -⟩ := h.runs i run load asked looked
      have bound := (List.getElem?_eq_some_iff.mp there).1
      exact absurd (List.mem_singleton.mp last) (Nat.ne_of_lt bound)
    · simp [loads, h.count]
    · intro i run load asked here
      simp only [loads] at here
      rcases Nat.lt_or_ge i s.asked.length with earlier | later
      · rw [List.getElem?_append_left earlier] at asked
        rw [List.getElem?_append_left (h.count ▸ earlier)] at here
        exact old i run load asked here
      · rw [List.getElem?_append_right later, List.getElem?_singleton] at asked
        rw [List.getElem?_append_right (h.count ▸ later), List.getElem?_singleton] at here
        split at asked
        case isFalse => cases asked
        case isTrue last =>
          rw [if_pos (h.count ▸ last)] at here
          obtain rfl := Option.some.inj asked
          obtain rfl := Option.some.inj here
          refine ⟨_, List.getElem?_concat_length, rfl, ?_, ?_⟩
          · split <;> simp
          · rintro profile ⟨⟩

theorem Linked.step (h : Linked (s, passes)) {e : Event κ} (taken : s.step e = some t) :
    Linked (t, notePass s e passes) := by
  cases e with
  | setAvatarAndOwnerMessage id cell => exact h.setAvatarAndOwnerMessage taken
  | run block =>
    obtain ⟨model, run, rfl⟩ := Option.map_eq_some_iff.mp taken
    have modelled : s.model.step (.run block) = some model := run
    have loads : model.loads = s.model.loads := by
      cases h.consistent.moves modelled
      rfl
    refine ⟨h.sound, h.consistent.step modelled,
      h.fromPasses.step h.consistent (h.consistent.moves modelled), h.once, loads ▸ h.count, ?_⟩
    exact fun i run load asked here => h.runs i run load asked (loads ▸ here)
  | account e =>
    obtain ⟨account, moved, -⟩ := Option.bind_eq_some_iff.mp taken
    obtain ⟨model, stepped, linked, -⟩ := h.accountStep moved
    exact Option.some.inj (stepped.symm.trans taken) ▸ linked

/-- A step moves the model at most once. -/
theorem Linked.model_step (h : Linked (s, passes)) {e : Event κ} (taken : s.step e = some t) :
    t.model = s.model ∨ ∃ moved, s.model.step moved = some t.model := by
  cases e with
  | setAvatarAndOwnerMessage id cell =>
    refine Or.inr ⟨.setAvatarAndOwnerMessage id cell, ?_⟩
    simp only [AvatarLookups.step, AvatarLookups.setAvatarAndOwnerMessage] at taken
    split at taken
    · obtain rfl := Option.some.inj taken
      rfl
    · obtain ⟨account, -, rfl⟩ := Option.map_eq_some_iff.mp taken
      rfl
  | run block =>
    obtain ⟨model, run, rfl⟩ := Option.map_eq_some_iff.mp taken
    exact Or.inr ⟨.run block, run⟩
  | account e =>
    obtain ⟨account, moved, -⟩ := Option.bind_eq_some_iff.mp taken
    obtain ⟨model, stepped, -, moves, -⟩ := h.accountStep moved
    obtain rfl := Option.some.inj (stepped.symm.trans taken)
    exact moves

/-! ### What is under way -/

/-- Events of the server and of the main queue. -/
def Event.delivers : Event κ → Bool
  | .setAvatarAndOwnerMessage .. => false
  | .run _ => true
  | .account e => e.delivers

/-- The closures that wait, and for every answer that is still to come as many as there are
waiting cells, and one. -/
def work (s : AvatarLookups κ) : ℕ :=
  s.account.left * (s.model.que1.length + 1) + s.model.main.length

theorem work_lt_work (h : Linked (s, passes)) {e : Event κ} (delivers : e.delivers = true)
    (taken : s.step e = some t) : t.work < s.work := by
  cases e with
  | setAvatarAndOwnerMessage => cases delivers
  | run block =>
    obtain ⟨model, run, rfl⟩ := Option.map_eq_some_iff.mp taken
    obtain ⟨⟨i, info⟩, here, run⟩ := Option.bind_eq_some_iff.mp run
    obtain ⟨cell, -, rfl⟩ := Option.map_eq_some_iff.mp run
    have bound := (List.getElem?_eq_some_iff.mp here).1
    simp only [work, ModelChatRoom.assign, List.length_eraseIdx_of_lt bound]
    omega
  | account e =>
    obtain ⟨account, moved, -⟩ := Option.bind_eq_some_iff.mp taken
    obtain ⟨model, stepped, -, -, que1, main⟩ := h.accountStep moved
    obtain rfl := Option.some.inj (stepped.symm.trans taken)
    have less : account.left < s.account.left := (h.sound.ready.moves moved).left_lt delivers
    have enough := Nat.mul_le_mul_right (s.model.que1.length + 1) less
    rw [Nat.succ_mul] at enough
    simp only [work, que1]
    omega

/-- Without work nothing is delivered. -/
theorem Linked.stopped (h : Linked (s, passes)) (rest : s.work = 0) (e : Event κ)
    (delivers : e.delivers = true) : s.step e = none := by
  cases taken : s.step e with
  | none => rfl
  | some t => exact absurd (work_lt_work h delivers taken) (by omega)

/-- Where nothing more is delivered, a passed cell has been assigned its user's profile, unless
the lookup of this user has found a row that has been deleted. -/
theorem Linked.served (h : Linked (s, passes))
    (stopped : ∀ e, e.delivers = true → s.step e = none) {pass : ModelChatRoom.Pass κ}
    (passed : pass ∈ passes) :
    ∃ run r, s.account.runs[run]? = some r ∧ r.userID = pass.id ∧ (s.account.ReadsDeleted r ∨
      ∃ profile, (run, profile) ∈ s.account.completions ∧
        (pass.cell, .ofProfile profile) ∈ s.model.assigned.drop pass.before) := by
  obtain ⟨load, known, user, -⟩ := h.consistent.served pass passed
  obtain ⟨i, looked⟩ := List.mem_iff_getElem?.mp known
  have bound : i < s.asked.length := h.count ▸ (List.getElem?_eq_some_iff.mp looked).1
  obtain ⟨r, here, same, completed, handed⟩ :=
    h.runs i _ load (List.getElem?_eq_getElem bound) looked
  refine ⟨s.asked[i], r, here, same.trans user, ?_⟩
  rcases h.sound.completed_or_goes_on here with done | deleted | ⟨e, account, delivers, moved⟩
  · obtain ⟨profile, result⟩ := Option.isSome_iff_exists.mp (completed.mp done)
    refine Or.inr ⟨profile, handed profile result, ?_⟩
    have idle : s.model.main = [] := by
      by_contra waiting
      obtain ⟨block, rest, queue⟩ := List.exists_cons_of_ne_nil waiting
      -- the oldest closure finds its cell
      have within := h.consistent.lt_length (queue ▸ List.mem_cons_self : block ∈ s.model.main)
      have stuck := stopped (.run 0) rfl
      simp [AvatarLookups.step, ModelChatRoom.runBlock, queue,
        List.getElem?_eq_getElem within] at stuck
    exact h.consistent.assigned known result idle passed user.symm
  · exact Or.inl deleted
  · obtain ⟨model, stepped, -⟩ := h.accountStep moved
    rw [stopped (.account e) delivers] at stepped
    cases stepped

/-- The lookups are linked, and the record and the cells hold what was assigned. -/
structure Recorded (cells : κ → MessageCell) (sr : AvatarLookups κ × ModelChatRoom.Record κ) :
    Prop where
  linked : Linked (sr.1, sr.2.passes)
  written : List.Forall₂ ModelChatRoom.Holds sr.1.model.assigned sr.2.written
  shown : ModelChatRoom.CellsHold cells sr.1.model

variable {cells : κ → MessageCell} {record : ModelChatRoom.Record κ}

omit [DecidableEq κ] in
theorem recorded_opened (users : String → Option Dictionary) (profiles : String → Option UIImage)
    (cells : κ → MessageCell) : Recorded cells (opened users profiles cells, {}) where
  linked := linked_opened users profiles cells
  written := .nil
  shown _ := Or.inl rfl

theorem Recorded.step (h : Recorded cells (s, record)) {e : Event κ} (taken : s.step e = some t) :
    Recorded cells (t, note s e record) := by
  have linked := h.linked.step taken
  simp only [note, taken, Option.map_some, Option.getD_some]
  rcases h.linked.model_step taken with same | ⟨moved, stepped⟩
  · refine ⟨linked, ?_, same ▸ h.shown⟩
    simp only [same, ModelChatRoom.written, List.drop_length, List.map_nil, List.append_nil]
    exact h.written
  · have moves := h.linked.consistent.moves stepped
    obtain ⟨new, assigned, holds⟩ := moves.written
    exact ⟨linked, assigned ▸ List.rel_append h.written holds, h.shown.step moves⟩

/-- What holds of a chat screen whose table started with these cells: the model can take every
completion of its lookups and forgets no cell, and a cell that is not as it was shows a profile
that the account has handed out for a user that the cell has been passed with. -/
structure ShowsLookups (cells : κ → MessageCell) (sr : AvatarLookups κ × ModelChatRoom.Record κ) :
    Prop where
  takes : ∀ e account, sr.1.account.step e = some account →
    ∃ t, sr.1.step (.account e) = some t ∧ t.account = account
  remembers : ModelChatRoom.NothingForgotten (sr.1.model, sr.2)
  shows (cell : κ) : sr.1.model.cells cell = cells cell ∨
    ∃ pass ∈ sr.2.passes, pass.cell = cell ∧ ∃ run r profile, sr.1.account.runs[run]? = some r ∧
      r.userID = pass.id ∧ (run, profile) ∈ sr.1.account.completions ∧
        (sr.1.model.cells cell).Shows profile

theorem Recorded.showsLookups (h : Recorded cells (s, record)) :
    ShowsLookups cells (s, record) where
  takes e account moved := by
    obtain ⟨model, stepped, -⟩ := h.linked.accountStep moved
    exact ⟨_, stepped, rfl⟩
  remembers := ModelChatRoom.Recorded.nothingForgotten ⟨h.linked.consistent, h.written⟩
  shows cell := by
    refine (h.shown cell).imp_right ?_
    rintro ⟨info, mem, -, avatar, text⟩
    obtain ⟨pass, passed, same, load, known, user, profile, done, rfl⟩ :=
      h.linked.fromPasses.assigned cell info mem
    obtain ⟨i, looked⟩ := List.mem_iff_getElem?.mp known
    have bound : i < s.asked.length := h.linked.count ▸ (List.getElem?_eq_some_iff.mp looked).1
    obtain ⟨r, here, owner, -, handed⟩ :=
      h.linked.runs i _ load (List.getElem?_eq_getElem bound) looked
    exact ⟨pass, passed, same, s.asked[i], r, profile, here, owner.trans user,
      handed profile done, avatar, text⟩

end Steps

theorem recorded_kept {cells : κ → MessageCell} (sr : AvatarLookups κ × ModelChatRoom.Record κ)
    (e : Event κ) (tr : AvatarLookups κ × ModelChatRoom.Record κ) (h : Recorded cells sr)
    (taken : watch step note sr e = some tr) : Recorded cells tr := by
  obtain ⟨moved, noted⟩ := watch_eq_some.mp taken
  have recorded := h.step moved
  rwa [noted] at recorded

/-- From every reachable state, the answers and closures under way are bounded in number. When
none is left, every cell that was passed has been written since, and then showed a profile that
a lookup of its user has completed with, unless this lookup found a row that was deleted before
it was read. -/
theorem lookups_end {users : String → Option Dictionary} {profiles : String → Option UIImage}
    {cells : κ → MessageCell} {events deliveries : List (Event κ)} {s t : AvatarLookups κ}
    {record after : ModelChatRoom.Record κ}
    (run : exec (watch step note) (opened users profiles cells, {}) events = some (s, record))
    (delivers : ∀ e ∈ deliveries, e.delivers = true)
    (delivered : exec (watch step note) (s, record) deliveries = some (t, after)) :
    deliveries.length + t.work ≤ s.work ∧
      ((∀ e, e.delivers = true → t.step e = none) → ∀ pass ∈ after.passes,
        ∃ run r, t.account.runs[run]? = some r ∧ r.userID = pass.id ∧
          (t.account.ReadsDeleted r ∨ ∃ profile, (run, profile) ∈ t.account.completions ∧
            ∃ cell, (pass.cell, cell) ∈ after.written.drop pass.before ∧ cell.Shows profile)) := by
  have recorded : Recorded cells (s, record) :=
    exec_invariant (I := Recorded cells) recorded_kept (recorded_opened users profiles cells) run
  constructor
  · refine length_add_work_le (watch step note) (fun sr => sr.1.work) (I := Recorded cells)
      (fun sr e tr h _ taken => recorded_kept sr e tr h taken) ?_ recorded delivers delivered
    exact fun sr e tr h now taken => work_lt_work h.linked now (watch_eq_some.mp taken).1
  · intro stopped pass passed
    have ended : Recorded cells (t, after) :=
      exec_invariant (I := Recorded cells) recorded_kept recorded delivered
    obtain ⟨run, r, here, user, deleted | ⟨profile, handed, assigned⟩⟩ :=
      ended.linked.served stopped passed
    · exact ⟨run, r, here, user, Or.inl deleted⟩
    · exact ⟨run, r, here, user, Or.inr ⟨profile, handed,
        ModelChatRoom.exists_written (List.forall₂_drop pass.before ended.written) assigned⟩⟩

/-- Two cells are passed with a user, whom another screen looks up as well. -/
def twoCells : List (Event Bool) :=
  [.account (.setUserName "a" "Аня" 0), .setAvatarAndOwnerMessage "a" true,
   .account (.loadInfoByID "a"), .setAvatarAndOwnerMessage "a" false]

/-- The answers to both lookups, and the closures for the two cells. -/
def twoAnswers : List (Event Bool) :=
  [.account (.read 0), .account (.read 1), .account (.reply 1), .account (.reply 0),
   .account (.read 0), .account (.reply 0), .run 1, .account (.read 1), .account (.reply 1),
   .run 0]

theorem lookups_end_twoCells : ∃ s t record after,
    exec (watch step note) (opened (fun _ => none) (fun _ => none) fun _ => {}, {}) twoCells =
      some (s, record) ∧ exec (watch step note) (s, record) twoAnswers = some (t, after) ∧
        twoAnswers.length ≤ s.work ∧
          (after.passes.map fun pass => (pass.id, pass.cell)) = [("a", true), ("a", false)] ∧
            ∀ pass ∈ after.passes, ∃ run r, t.account.runs[run]? = some r ∧ r.userID = pass.id ∧
              (t.account.ReadsDeleted r ∨ ∃ profile, (run, profile) ∈ t.account.completions ∧
                ∃ cell, (pass.cell, cell) ∈ after.written.drop pass.before ∧
                  cell.Shows profile) := by
  obtain ⟨⟨s, record⟩, run, ⟨t, after⟩, delivered, passed, rest⟩ :
      ∃ sr ∈ exec (watch step note) (opened (fun _ => none) (fun _ => none) fun _ => {}, {})
        twoCells, ∃ tr ∈ exec (watch step note) sr twoAnswers,
        (tr.2.passes.map fun pass => (pass.id, pass.cell)) = [("a", true), ("a", false)] ∧
          tr.1.work = 0 := by
    decide +kernel
  have delivers : ∀ e ∈ twoAnswers, e.delivers = true := by decide
  have both := lookups_end run delivers delivered
  have ended : Recorded (fun _ => {}) (t, after) := exec_invariant (I := Recorded _) recorded_kept
    (exec_invariant (I := Recorded _) recorded_kept (recorded_opened ..) run) delivered
  exact ⟨s, t, record, after, run, delivered, by omega, passed,
    both.2 (ended.linked.stopped rest)⟩

end AvatarLookups

end OnMap
