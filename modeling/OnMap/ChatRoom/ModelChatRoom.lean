/-
# The message cells and their owners' profiles

The screen of a chat room shows each message of another user in a cell with the
owner's photo and name. `ModelChatRoom` looks every owner up once. While a lookup is
under way its buffer holds a placeholder, and the cells that wait are kept in two
parallel arrays; the completion assigns the profile to its own cell at once and to the
waiting cells by closures on the main queue.

The table reuses its cells for other rows, and the two arrays are never pruned. Lookups
complete in any order, and closures run in any order.
-/

import OnMap.Account.LoadInfo
import OnMap.Library.Transition
import Mathlib.Data.List.Forall2
import Mathlib.Data.List.Nodup

namespace OnMap

open Transition

/-- The fields of a message cell that show its owner. A label or an image view that is
not connected is `none`. -/
structure MessageCell where
  textOwner : Option String := none
  imageAvatar : Option UIImage := none
  ownerLabel : Option (Option String) := none
  theAvatar : Option (Option UIImage) := none
  deriving DecidableEq, Repr

namespace MessageCell

/-- The observer of `textOwner` runs before the assignment and shows the value before it. -/
def setTextOwner (cell : MessageCell) (newValue : Option String) : MessageCell :=
  { cell with ownerLabel := cell.ownerLabel.map fun _ => cell.textOwner, textOwner := newValue }

def setImageAvatar (cell : MessageCell) (newValue : Option UIImage) : MessageCell :=
  { cell with theAvatar := cell.theAvatar.map fun _ => newValue, imageAvatar := newValue }

/-- The avatar and the owner's text of the cell are those of the profile. -/
def Shows (cell : MessageCell) (profile : Profile) : Prop :=
  cell.imageAvatar = some profile.photo ∧
    cell.textOwner = some (profile.name ++ " " ++ profile.surname ++ ":")

end MessageCell

structure OtherMessageInfo where
  avatar : UIImage
  nameOwner : String
  deriving DecidableEq, Repr

namespace OtherMessageInfo

/-- What is buffered while a lookup is under way. -/
def download : OtherMessageInfo := ⟨⟨"deleteButton"⟩, "download"⟩

/-- What is buffered for a profile. -/
def ofProfile (profile : Profile) : OtherMessageInfo :=
  ⟨profile.photo, profile.name ++ " " ++ profile.surname ++ ":"⟩

/-- No user's name is taken for the placeholder: it ends in a colon. -/
theorem nameOwner_ofProfile_ne (profile : Profile) :
    (ofProfile profile).nameOwner ≠ "download" := by
  intro same
  have last := congrArg (fun text : String => text.toList.getLast?) same
  simp [ofProfile, List.getLast?_cons, List.getLast?_append] at last

end OtherMessageInfo

/-- A call of `Account.loadInfoByID` for a cell, with what it completed with. -/
structure AvatarLoad (κ : Type) where
  userID : String
  cell : κ
  result : Option Profile := none

/-- What is buffered for the user of a lookup. -/
def AvatarLoad.info {κ : Type} (load : AvatarLoad κ) : OtherMessageInfo :=
  (load.result.map OtherMessageInfo.ofProfile).getD .download

/-- The fields of the model, the lookups it has started, the closures it has put on the
main queue (the captured index and profile), and the cells. `assigned` records every
assignment to a cell. -/
structure ModelChatRoom (κ : Type) where
  buffer : String → Option OtherMessageInfo := fun _ => none
  que1 : List String := []
  que2 : List κ := []
  loads : List (AvatarLoad κ) := []
  main : List (ℕ × OtherMessageInfo) := []
  cells : κ → MessageCell := fun _ => {}
  assigned : List (κ × OtherMessageInfo) := []

namespace ModelChatRoom

variable {κ : Type} [DecidableEq κ]

/-- What can happen: the table binds a cell to a message of the user, a lookup calls its
completion, the main queue runs a closure. -/
inductive Event (κ : Type)
  | setAvatarAndOwnerMessage (id : String) (cell : κ)
  | complete (load : ℕ) (profile : Profile)
  | run (block : ℕ)

/-- `cell.imageAvatar = info.avatar; cell.textOwner = info.nameOwner` -/
def assign (m : ModelChatRoom κ) (cell : κ) (info : OtherMessageInfo) : ModelChatRoom κ :=
  { m with
    cells := Function.update m.cells cell
      (((m.cells cell).setImageAvatar (some info.avatar)).setTextOwner (some info.nameOwner))
    assigned := m.assigned ++ [(cell, info)] }

theorem assign_cells_self (m : ModelChatRoom κ) (cell : κ) (info : OtherMessageInfo) :
    (m.assign cell info).cells cell =
      ((m.cells cell).setImageAvatar (some info.avatar)).setTextOwner (some info.nameOwner) :=
  Function.update_self ..

theorem assign_cells_of_ne {m : ModelChatRoom κ} {cell other : κ} (info : OtherMessageInfo)
    (apart : other ≠ cell) : (m.assign cell info).cells other = m.cells other :=
  Function.update_of_ne apart ..

/-- The cell waits for the profile of the user. -/
def enqueue (m : ModelChatRoom κ) (id : String) (cell : κ) : ModelChatRoom κ :=
  { m with que1 := m.que1 ++ [id], que2 := m.que2 ++ [cell] }

def setAvatarAndOwnerMessage (m : ModelChatRoom κ) (id : String) (cell : κ) : ModelChatRoom κ :=
  match m.buffer id with
  | some info => if info.nameOwner ≠ "download" then m.assign cell info else m.enqueue id cell
  | none =>
    let m := { m with buffer := Function.update m.buffer id (some .download) }.enqueue id cell
    { m with loads := m.loads ++ [⟨id, cell, none⟩] }

/-- The indexes at which the completion finds the user in `que1`. -/
def indexes (m : ModelChatRoom κ) (id : String) : List ℕ :=
  (List.range m.que1.length).filter fun i => m.que1[i]? == some id

/-- The completion of `loadInfoByID`. The weak reference to its cell is not `nil`, as
`que2` keeps every cell. -/
def completion (m : ModelChatRoom κ) (id : String) (cell : κ) (profile : Profile) :
    ModelChatRoom κ :=
  let info := OtherMessageInfo.ofProfile profile
  let m := { m with buffer := Function.update m.buffer id (some info) }.assign cell info
  { m with main := m.main ++ (m.indexes id).map fun i => (i, info) }

/-- The completion of a lookup runs, once. -/
def complete (m : ModelChatRoom κ) (index : ℕ) (profile : Profile) : Option (ModelChatRoom κ) :=
  match m.loads[index]? with
  | some ⟨id, cell, none⟩ =>
    some ({ m with loads := m.loads.modify index ({ · with result := some profile }) }.completion
      id cell profile)
  | _ => none

/-- A closure on the main queue; `none` is a subscript of `que2` out of range. -/
def runBlock (m : ModelChatRoom κ) (index : ℕ) : Option (ModelChatRoom κ) :=
  (m.main[index]?).bind fun block =>
    (m.que2[block.1]?).map fun cell =>
      { m with main := m.main.eraseIdx index }.assign cell block.2

def step (m : ModelChatRoom κ) : Event κ → Option (ModelChatRoom κ)
  | .setAvatarAndOwnerMessage id cell => some (m.setAvatarAndOwnerMessage id cell)
  | .complete load profile => m.complete load profile
  | .run block => m.runBlock block

/-- The model of a new screen, over the table's cells. -/
def opened (cells : κ → MessageCell) : ModelChatRoom κ := { cells := cells }

/-! ### Waiting cells -/

/-- A call of `setAvatarAndOwnerMessage`, and how many assignments came before it. -/
structure Pass (κ : Type) where
  id : String
  cell : κ
  before : ℕ

/-- Record the calls. -/
def notePass (m : ModelChatRoom κ) : Event κ → List (Pass κ) → List (Pass κ)
  | .setAvatarAndOwnerMessage id cell, passes => passes ++ [⟨id, cell, m.assigned.length⟩]
  | _, passes => passes

/-- The cells that a step to `t` has assigned to, with the fields that they have then. -/
def written (m t : ModelChatRoom κ) : List (κ × MessageCell) :=
  (t.assigned.drop m.assigned.length).map fun assignment =>
    (assignment.1, t.cells assignment.1)

/-- What is recorded of a run: the calls, and the cells as they were written. -/
structure Record (κ : Type) where
  passes : List (Pass κ) := []
  written : List (κ × MessageCell) := []

def note (m : ModelChatRoom κ) (e : Event κ) (record : Record κ) : Record κ where
  passes := notePass m e record.passes
  written := record.written ++ ((m.step e).map m.written).getD []

/-- Each user is looked up at most once; the two arrays have one length, which bounds the
indexes that closures have captured; and once a lookup has completed and no closure waits,
every cell passed with its user has been written after it was passed, and then had the
avatar and the owner's text of its profile. -/
def NothingForgotten (mr : ModelChatRoom κ × Record κ) : Prop :=
  (mr.1.loads.map AvatarLoad.userID).Nodup ∧
    mr.1.que1.length = mr.1.que2.length ∧
    (∀ block ∈ mr.1.main, block.1 < mr.1.que2.length) ∧
    ∀ load ∈ mr.1.loads, ∀ profile, load.result = some profile → mr.1.main = [] →
      ∀ pass ∈ mr.2.passes, pass.id = load.userID →
        ∃ cell, (pass.cell, cell) ∈ mr.2.written.drop pass.before ∧ cell.Shows profile

/-- The cell waits for the user at the index. -/
def Waits (m : ModelChatRoom κ) (i : ℕ) (id : String) (cell : κ) : Prop :=
  m.que1[i]? = some id ∧ m.que2[i]? = some cell

/-- A passed cell waits while its user is looked up; then a closure is under way for it,
or it has got the profile. -/
def Served (m : ModelChatRoom κ) (load : AvatarLoad κ) (pass : Pass κ) : Prop :=
  match load.result with
  | none => ∃ i, m.Waits i pass.id pass.cell
  | some profile => (∃ i, m.Waits i pass.id pass.cell ∧ (i, .ofProfile profile) ∈ m.main) ∨
    (pass.cell, .ofProfile profile) ∈ m.assigned.drop pass.before

/-- What is buffered follows the lookups, closures carry what a lookup has completed
with, and every passed cell is served. -/
structure Consistent (mp : ModelChatRoom κ × List (Pass κ)) : Prop where
  once : (mp.1.loads.map AvatarLoad.userID).Nodup
  queues : mp.1.que1.length = mp.1.que2.length
  buffered : ∀ load ∈ mp.1.loads, mp.1.buffer load.userID = some load.info
  known : ∀ id info, mp.1.buffer id = some info → ∃ load ∈ mp.1.loads, load.userID = id
  blocks : ∀ block ∈ mp.1.main, ∃ load ∈ mp.1.loads, ∃ profile, load.result = some profile ∧
    block.2 = .ofProfile profile ∧ mp.1.que1[block.1]? = some load.userID
  earlier : ∀ pass ∈ mp.2, pass.before ≤ mp.1.assigned.length
  served : ∀ pass ∈ mp.2, ∃ load ∈ mp.1.loads, load.userID = pass.id ∧ mp.1.Served load pass

/-- What a step does, in terms of the lookups. -/
inductive Moves (m : ModelChatRoom κ) : Event κ → ModelChatRoom κ → Prop
  | shown {id : String} {cell : κ} {load : AvatarLoad κ} {profile : Profile}
      (here : load ∈ m.loads) (user : load.userID = id) (done : load.result = some profile) :
      Moves m (.setAvatarAndOwnerMessage id cell) (m.assign cell (.ofProfile profile))
  | waits {id : String} {cell : κ} {load : AvatarLoad κ} (here : load ∈ m.loads)
      (user : load.userID = id) (open_ : load.result = none) :
      Moves m (.setAvatarAndOwnerMessage id cell) (m.enqueue id cell)
  | asks {id : String} {cell : κ} (new : ∀ load ∈ m.loads, load.userID ≠ id) :
      Moves m (.setAvatarAndOwnerMessage id cell)
        { m with
          buffer := Function.update m.buffer id (some .download)
          que1 := m.que1 ++ [id], que2 := m.que2 ++ [cell]
          loads := m.loads ++ [⟨id, cell, none⟩] }
  | completes {index : ℕ} {id : String} {cell : κ} {profile : Profile}
      (here : m.loads[index]? = some ⟨id, cell, none⟩) :
      Moves m (.complete index profile)
        ({ m with loads := m.loads.modify index ({ · with result := some profile }) }.completion
          id cell profile)
  | runs {index i : ℕ} {info : OtherMessageInfo} {cell : κ}
      (here : m.main[index]? = some (i, info)) (there : m.que2[i]? = some cell) :
      Moves m (.run index) ({ m with main := m.main.eraseIdx index }.assign cell info)

section Steps

variable {m t : ModelChatRoom κ} {passes : List (Pass κ)} {e : Event κ}

/-! ### One step -/

theorem Consistent.moves (h : Consistent (m, passes)) (taken : m.step e = some t) :
    Moves m e t := by
  cases e with
  | setAvatarAndOwnerMessage id cell =>
    obtain rfl := Option.some.inj taken
    rw [setAvatarAndOwnerMessage]
    -- what is buffered tells how far the lookup of the user is
    cases buffered : m.buffer id with
    | none =>
      refine .asks fun load here user => ?_
      have placed := h.buffered load here
      rw [user, buffered] at placed
      cases placed
    | some info =>
      obtain ⟨load, here, user⟩ := h.known id info buffered
      have placed := h.buffered load here
      rw [user, buffered] at placed
      obtain rfl := Option.some.inj placed
      cases done : load.result with
      | none =>
        have placeholder : ¬ load.info.nameOwner ≠ "download" := by
          simp [AvatarLoad.info, done, OtherMessageInfo.download]
        simp only [if_neg placeholder]
        exact .waits here user done
      | some profile =>
        have info : load.info = .ofProfile profile := by simp [AvatarLoad.info, done]
        simp only [info, if_pos (OtherMessageInfo.nameOwner_ofProfile_ne profile)]
        exact .shown here user done
  | complete index profile =>
    rw [step, complete] at taken
    split at taken
    case h_1 here =>
      obtain rfl := Option.some.inj taken
      exact .completes here
    case h_2 => cases taken
  | run index =>
    obtain ⟨⟨i, info⟩, here, taken⟩ := Option.bind_eq_some_iff.mp taken
    obtain ⟨cell, there, rfl⟩ := Option.map_eq_some_iff.mp taken
    exact .runs here there

omit [DecidableEq κ] in
/-- A step that extends the arrays, the queue and the record serves as before. -/
theorem Served.mono {load : AvatarLoad κ} {pass : Pass κ} (h : m.Served load pass)
    (waits : ∀ i, m.Waits i pass.id pass.cell → t.Waits i pass.id pass.cell)
    (main : ∀ block ∈ m.main, block ∈ t.main) (assigned : List.IsPrefix m.assigned t.assigned) :
    t.Served load pass := by
  obtain ⟨more, assigned⟩ := assigned
  rw [Served] at h ⊢
  cases done : load.result with
  | none =>
    simp only [done] at h ⊢
    exact h.imp waits
  | some profile =>
    simp only [done] at h ⊢
    rw [← assigned, List.drop_append]
    rcases h with ⟨i, waiting, queued⟩ | got
    · exact Or.inl ⟨i, waits i waiting, main _ queued⟩
    · exact Or.inr (List.mem_append_left _ got)

omit [DecidableEq κ] in
/-- The lookups after one has completed. -/
theorem Consistent.mem_settled (h : Consistent (m, passes)) {index : ℕ} {id : String} {cell : κ}
    {profile : Profile} (here : m.loads[index]? = some ⟨id, cell, none⟩) {load : AvatarLoad κ} :
    load ∈ m.loads.modify index ({ · with result := some profile }) ↔
      load = ⟨id, cell, some profile⟩ ∨ load ∈ m.loads ∧ load.userID ≠ id := by
  -- each user is looked up once, so no other index has a lookup of this one
  have apart (j : ℕ) (other : AvatarLoad κ) (there : m.loads[j]? = some other)
      (user : other.userID = id) : index = j := by
    have ids (k : ℕ) (l : AvatarLoad κ) (at_ : m.loads[k]? = some l) :
        (m.loads.map AvatarLoad.userID)[k]? = some l.userID := by
      rw [List.getElem?_map, at_]
      rfl
    have bound : index < (m.loads.map AvatarLoad.userID).length :=
      (List.getElem?_eq_some_iff.mp (ids index _ here)).1
    refine (List.getElem?_inj bound h.once).mp ?_
    exact (ids index _ here).trans (user ▸ (ids j _ there).symm)
  constructor
  · intro mem
    obtain ⟨j, there⟩ := List.mem_iff_getElem?.mp mem
    by_cases same : index = j
    · subst same
      rw [List.getElem?_modify_eq, here] at there
      exact Or.inl (Option.some.inj there).symm
    · rw [List.getElem?_modify_ne _ _ same] at there
      exact Or.inr ⟨List.mem_of_getElem? there, fun user => same (apart j load there user)⟩
  · rintro (rfl | ⟨mem, other⟩)
    · refine List.mem_of_getElem? (i := index) ?_
      rw [List.getElem?_modify_eq, here]
      rfl
    · obtain ⟨j, there⟩ := List.mem_iff_getElem?.mp mem
      refine List.mem_of_getElem? (i := j) ?_
      rw [List.getElem?_modify_ne _ _ fun same => ?_]
      · exact there
      · subst same
        exact other (Option.some.inj (here.symm.trans there) ▸ rfl)

omit [DecidableEq κ] in
theorem Waits.enqueue {i : ℕ} {id : String} {cell : κ} (h : m.Waits i id cell) (id' : String)
    (cell' : κ) : (m.enqueue id' cell').Waits i id cell := by
  obtain ⟨user, waiting⟩ := h
  exact ⟨by rw [ModelChatRoom.enqueue, List.getElem?_append_left
      (List.getElem?_eq_some_iff.mp user).1, user],
    by rw [ModelChatRoom.enqueue, List.getElem?_append_left
      (List.getElem?_eq_some_iff.mp waiting).1, waiting]⟩

omit [DecidableEq κ] in
/-- The cell that is enqueued waits at the end of both arrays. -/
theorem Consistent.waits_enqueue (h : Consistent (m, passes)) (id : String) (cell : κ) :
    (m.enqueue id cell).Waits m.que1.length id cell := by
  have queues : m.que1.length = m.que2.length := h.queues
  refine ⟨List.getElem?_concat_length, ?_⟩
  rw [queues]
  exact List.getElem?_concat_length

omit [DecidableEq κ] in
theorem Consistent.earlier_note (h : Consistent (m, passes)) (e : Event κ)
    (grown : List.IsPrefix m.assigned t.assigned) :
    ∀ pass ∈ notePass m e passes, pass.before ≤ t.assigned.length := by
  intro pass mem
  have later : m.assigned.length ≤ t.assigned.length := grown.length_le
  cases e with
  | setAvatarAndOwnerMessage id cell =>
    rcases List.mem_append.mp mem with old | new
    · exact Nat.le_trans (h.earlier pass old) later
    · exact List.mem_singleton.mp new ▸ later
  | complete | run => exact Nat.le_trans (h.earlier pass mem) later

theorem Consistent.shown (h : Consistent (m, passes)) {id : String} {cell : κ}
    {load : AvatarLoad κ} {profile : Profile} (here : load ∈ m.loads) (user : load.userID = id)
    (done : load.result = some profile) :
    Consistent (m.assign cell (.ofProfile profile),
      passes ++ [⟨id, cell, m.assigned.length⟩]) where
  once := h.once
  queues := h.queues
  buffered := h.buffered
  known := h.known
  blocks := h.blocks
  earlier := h.earlier_note (.setAvatarAndOwnerMessage id cell) (List.prefix_append ..)
  served := by
    intro pass mem
    rcases List.mem_append.mp mem with old | new
    · obtain ⟨load, here, user, served⟩ := h.served pass old
      exact ⟨load, here, user, served.mono (fun _ waits => waits) (fun _ queued => queued)
        (List.prefix_append ..)⟩
    · obtain rfl := List.mem_singleton.mp new
      refine ⟨load, here, user, ?_⟩
      simp only [Served, done, assign, List.drop_left, List.mem_singleton]
      exact Or.inr trivial

omit [DecidableEq κ] in
theorem Consistent.waits (h : Consistent (m, passes)) {id : String} {cell : κ}
    {load : AvatarLoad κ} (here : load ∈ m.loads) (user : load.userID = id)
    (open_ : load.result = none) :
    Consistent (m.enqueue id cell, passes ++ [⟨id, cell, m.assigned.length⟩]) where
  once := h.once
  queues := by simp [enqueue, h.queues]
  buffered := h.buffered
  known := h.known
  blocks := by
    intro block mem
    obtain ⟨load, here, profile, done, info, user⟩ := h.blocks block mem
    refine ⟨load, here, profile, done, info, ?_⟩
    rw [enqueue, List.getElem?_append_left (List.getElem?_eq_some_iff.mp user).1, user]
  earlier := h.earlier_note (.setAvatarAndOwnerMessage id cell) List.prefix_rfl
  served := by
    intro pass mem
    rcases List.mem_append.mp mem with old | new
    · obtain ⟨load, here, user, served⟩ := h.served pass old
      exact ⟨load, here, user, served.mono (fun _ waits => waits.enqueue id cell)
        (fun _ queued => queued) List.prefix_rfl⟩
    · obtain rfl := List.mem_singleton.mp new
      refine ⟨load, here, user, ?_⟩
      simp only [Served, open_]
      exact ⟨_, h.waits_enqueue id cell⟩

omit [DecidableEq κ] in
theorem Consistent.asks (h : Consistent (m, passes)) {id : String} {cell : κ}
    (new : ∀ load ∈ m.loads, load.userID ≠ id) :
    Consistent
      ({ m with
          buffer := Function.update m.buffer id (some .download)
          que1 := m.que1 ++ [id], que2 := m.que2 ++ [cell]
          loads := m.loads ++ [⟨id, cell, none⟩] },
        passes ++ [⟨id, cell, m.assigned.length⟩]) where
  once := by
    rw [List.map_append, List.map_singleton]
    refine List.nodup_append.mpr ⟨h.once, List.nodup_singleton _, ?_⟩
    intro user old other last same
    obtain ⟨load, here, rfl⟩ := List.mem_map.mp old
    exact new load here (same.trans (List.mem_singleton.mp last))
  queues := by simp [h.queues]
  buffered := by
    intro load mem
    rcases List.mem_append.mp mem with old | last
    · simp only [Function.update_of_ne (new load old)]
      exact h.buffered load old
    · obtain rfl := List.mem_singleton.mp last
      exact Function.update_self ..
  known := by
    intro user info buffered
    by_cases same : user = id
    · exact ⟨_, List.mem_append_right _ (List.mem_singleton_self _), same.symm⟩
    · simp only [Function.update_of_ne same] at buffered
      obtain ⟨load, here, known⟩ := h.known user info buffered
      exact ⟨load, List.mem_append_left _ here, known⟩
  blocks := by
    intro block mem
    obtain ⟨load, here, profile, done, info, user⟩ := h.blocks block mem
    refine ⟨load, List.mem_append_left _ here, profile, done, info, ?_⟩
    simp only
    rw [List.getElem?_append_left (List.getElem?_eq_some_iff.mp user).1, user]
  earlier := h.earlier_note (.setAvatarAndOwnerMessage id cell) List.prefix_rfl
  served := by
    intro pass mem
    rcases List.mem_append.mp mem with old | new
    · obtain ⟨load, here, user, served⟩ := h.served pass old
      exact ⟨load, List.mem_append_left _ here, user, served.mono
        (fun _ waits => waits.enqueue id cell) (fun _ queued => queued) List.prefix_rfl⟩
    · -- the new lookup is that of the new pass, which waits at the end of the arrays
      obtain rfl := List.mem_singleton.mp new
      exact ⟨_, List.mem_append_right _ (List.mem_singleton_self _), rfl, _,
        h.waits_enqueue id cell⟩

omit [DecidableEq κ] in
/-- A completion finds every waiting cell of its user. -/
theorem Waits.mem_indexes {i : ℕ} {id : String} {cell : κ} (h : m.Waits i id cell) :
    i ∈ m.indexes id := by
  have bound := (List.getElem?_eq_some_iff.mp h.1).1
  exact List.mem_filter.mpr ⟨List.mem_range.mpr bound, beq_iff_eq.mpr h.1⟩

theorem Consistent.completes (h : Consistent (m, passes)) {index : ℕ} {id : String} {cell : κ}
    {profile : Profile} (here : m.loads[index]? = some ⟨id, cell, none⟩) :
    Consistent
      (({ m with loads := m.loads.modify index ({ · with result := some profile }) }.completion
        id cell profile), passes) where
  once := by
    have ids : (m.loads.modify index ({ · with result := some profile })).map AvatarLoad.userID =
        m.loads.map AvatarLoad.userID := by
      refine List.ext_getElem? fun j => ?_
      rw [List.getElem?_map, List.getElem?_map, List.getElem?_modify]
      split <;> cases m.loads[j]? <;> rfl
    exact ids ▸ h.once
  queues := h.queues
  buffered := by
    intro load mem
    rcases (h.mem_settled here).mp mem with rfl | ⟨old, other⟩
    · exact Function.update_self ..
    · simp only [completion, assign, Function.update_of_ne other]
      exact h.buffered load old
  known := by
    intro user info buffered
    by_cases same : user = id
    · exact ⟨_, (h.mem_settled here).mpr (Or.inl rfl), same.symm⟩
    · simp only [completion, assign, Function.update_of_ne same] at buffered
      obtain ⟨load, old, known⟩ := h.known user info buffered
      exact ⟨load, (h.mem_settled here).mpr (Or.inr ⟨old, known ▸ same⟩), known⟩
  blocks := by
    intro block mem
    rcases List.mem_append.mp mem with old | new
    · obtain ⟨load, there, profile', done, info, user⟩ := h.blocks block old
      by_cases same : load.userID = id
      · -- the lookup that completes had not completed before
        have equal := List.inj_on_of_nodup_map h.once there (List.mem_of_getElem? here) same
        rw [equal] at done
        cases done
      · exact ⟨load, (h.mem_settled here).mpr (Or.inr ⟨there, same⟩), profile', done, info, user⟩
    · obtain ⟨i, found, rfl⟩ := List.mem_map.mp new
      refine ⟨_, (h.mem_settled here).mpr (Or.inl rfl), profile, rfl, rfl, ?_⟩
      exact beq_iff_eq.mp (List.mem_filter.mp found).2
  earlier := h.earlier_note (.complete index profile) (List.prefix_append ..)
  served := by
    intro pass mem
    obtain ⟨load, there, user, served⟩ := h.served pass mem
    by_cases same : load.userID = id
    · -- the cells that wait for this lookup get a closure each
      obtain rfl := List.inj_on_of_nodup_map h.once there (List.mem_of_getElem? here) same
      obtain ⟨i, waits⟩ := served
      have found : i ∈ m.indexes id := Waits.mem_indexes (user ▸ waits)
      refine ⟨_, (h.mem_settled here).mpr (Or.inl rfl), user, Or.inl ⟨i, waits, ?_⟩⟩
      exact List.mem_append_right _ (List.mem_map_of_mem found)
    · refine ⟨load, (h.mem_settled here).mpr (Or.inr ⟨there, same⟩), user, ?_⟩
      exact served.mono (fun _ waits => waits)
        (fun _ queued => List.mem_append_left _ queued) (List.prefix_append ..)

theorem Consistent.runs (h : Consistent (m, passes)) {index i : ℕ} {info : OtherMessageInfo}
    {cell : κ} (here : m.main[index]? = some (i, info)) (there : m.que2[i]? = some cell) :
    Consistent ({ m with main := m.main.eraseIdx index }.assign cell info, passes) where
  once := h.once
  queues := h.queues
  buffered := h.buffered
  known := h.known
  blocks block mem := h.blocks block (List.mem_of_mem_eraseIdx mem)
  earlier := h.earlier_note (.run index) (List.prefix_append ..)
  served := by
    intro pass mem
    obtain ⟨load, known, user, served⟩ := h.served pass mem
    refine ⟨load, known, user, ?_⟩
    rw [Served] at served ⊢
    cases done : load.result with
    | none =>
      simp only [done] at served ⊢
      exact served
    | some profile =>
      simp only [done] at served ⊢
      rcases served with ⟨j, waits, queued⟩ | got
      · obtain ⟨k, queued⟩ := List.mem_iff_getElem?.mp queued
        by_cases same : k = index
        · -- the closure that runs is the one under way for this cell
          subst same
          obtain ⟨rfl, rfl⟩ := Prod.mk.inj (Option.some.inj (here.symm.trans queued))
          obtain rfl := Option.some.inj (there.symm.trans waits.2)
          right
          simp only [assign, List.drop_append_of_le_length (h.earlier pass mem)]
          exact List.mem_append_right _ (List.mem_singleton_self _)
        · exact Or.inl ⟨j, waits, List.mem_eraseIdx_iff_getElem?.mpr ⟨k, same, queued⟩⟩
      · right
        simp only [assign, List.drop_append]
        exact List.mem_append_left _ got

theorem Consistent.step (h : Consistent (m, passes)) (taken : m.step e = some t) :
    Consistent (t, notePass m e passes) := by
  cases h.moves taken with
  | shown here user done => exact h.shown here user done
  | waits here user open_ => exact h.waits here user open_
  | asks new => exact h.asks new
  | completes here => exact h.completes here
  | runs here there => exact h.runs here there

omit [DecidableEq κ] in
theorem consistent_opened (cells : κ → MessageCell) :
    Consistent (opened cells, ([] : List (Pass κ))) where
  once := List.nodup_nil
  queues := rfl
  buffered _ none := nomatch none
  known _ _ none := nomatch none
  blocks _ none := nomatch none
  earlier _ none := nomatch none
  served _ none := nomatch none

omit [DecidableEq κ] in
/-- The closures find their cells. -/
theorem Consistent.lt_length (h : Consistent (m, passes)) {block : ℕ × OtherMessageInfo}
    (queued : block ∈ m.main) : block.1 < m.que2.length := by
  obtain ⟨_, -, _, -, -, user⟩ := h.blocks block queued
  have queues : m.que1.length = m.que2.length := h.queues
  exact queues ▸ (List.getElem?_eq_some_iff.mp user).1

omit [DecidableEq κ] in
/-- A cell passed with a user whose lookup has completed has been assigned the profile,
once no closure waits. -/
theorem Consistent.assigned (h : Consistent (m, passes)) {load : AvatarLoad κ}
    (here : load ∈ m.loads) {profile : Profile} (done : load.result = some profile)
    (idle : m.main = []) {pass : Pass κ} (passed : pass ∈ passes) (user : pass.id = load.userID) :
    (pass.cell, .ofProfile profile) ∈ m.assigned.drop pass.before := by
  obtain ⟨other, known, same, served⟩ := h.served pass passed
  obtain rfl := List.inj_on_of_nodup_map h.once known here (same.trans user)
  rw [Served, done] at served
  rcases served with ⟨i, -, queued⟩ | got
  · rw [idle] at queued
    cases queued
  · exact got

/-! ### What is written into the cells -/

/-- The cell had the fields of the assignment when it was written. -/
def Holds (assignment : κ × OtherMessageInfo) (written : κ × MessageCell) : Prop :=
  written.1 = assignment.1 ∧ written.2.imageAvatar = some assignment.2.avatar ∧
    written.2.textOwner = some assignment.2.nameOwner

theorem holds_assign (m : ModelChatRoom κ) (cell : κ) (info : OtherMessageInfo) :
    Holds (cell, info) (cell, (m.assign cell info).cells cell) := by
  rw [assign_cells_self]
  exact ⟨rfl, rfl, rfl⟩

theorem written_assign (m : ModelChatRoom κ) (cell : κ) (info : OtherMessageInfo) :
    List.Forall₂ Holds [(cell, info)] [(cell, (m.assign cell info).cells cell)] :=
  .cons (holds_assign m cell info) .nil

/-- A step assigns to one cell at most, whose fields then are those of the assignment. -/
theorem Moves.written (h : Moves m e t) :
    ∃ new, t.assigned = m.assigned ++ new ∧ List.Forall₂ Holds new (m.written t) := by
  cases h with
  | @shown id cell load profile here user done =>
    refine ⟨_, rfl, ?_⟩
    rw [ModelChatRoom.written, assign, List.drop_left]
    exact written_assign m cell _
  | waits | asks =>
    refine ⟨[], (List.append_nil _).symm, ?_⟩
    simp only [ModelChatRoom.written, enqueue, List.drop_length, List.map_nil]
    exact .nil
  | @completes index id cell profile here =>
    refine ⟨_, rfl, ?_⟩
    rw [ModelChatRoom.written, completion, assign, List.drop_left]
    exact written_assign { m with
      buffer := Function.update m.buffer id (some (.ofProfile profile))
      loads := m.loads.modify index ({ · with result := some profile }) } cell _
  | @runs index i info cell here there =>
    refine ⟨_, rfl, ?_⟩
    rw [ModelChatRoom.written, assign, List.drop_left]
    exact written_assign { m with main := m.main.eraseIdx index } cell info

omit [DecidableEq κ] in
/-- An assignment of the profile was recorded with the cell that showed it. -/
theorem exists_written {assigned : List (κ × OtherMessageInfo)} {written : List (κ × MessageCell)}
    (recorded : List.Forall₂ Holds assigned written) {cell : κ} {profile : Profile}
    (mem : (cell, .ofProfile profile) ∈ assigned) :
    ∃ shown, (cell, shown) ∈ written ∧ shown.Shows profile := by
  induction recorded with
  | nil => cases mem
  | @cons assignment entry assigned written holds _ ih =>
    rcases List.mem_cons.mp mem with rfl | later
    · obtain ⟨other, shown⟩ := entry
      obtain ⟨rfl, avatar, text⟩ := holds
      exact ⟨shown, List.mem_cons_self, avatar, text⟩
    · obtain ⟨shown, there, shows⟩ := ih later
      exact ⟨shown, List.mem_cons_of_mem _ there, shows⟩

/-- The lookups are consistent, and the record holds what was assigned. -/
structure Recorded (mr : ModelChatRoom κ × Record κ) : Prop where
  consistent : Consistent (mr.1, mr.2.passes)
  written : List.Forall₂ Holds mr.1.assigned mr.2.written

theorem Recorded.step {record : Record κ} (h : Recorded (m, record)) (taken : m.step e = some t) :
    Recorded (t, note m e record) where
  consistent := h.consistent.step taken
  written := by
    obtain ⟨new, assigned, holds⟩ := (h.consistent.moves taken).written
    simp only [note, taken, Option.map_some, Option.getD_some, assigned]
    exact List.rel_append h.written holds

omit [DecidableEq κ] in
theorem Recorded.nothingForgotten {mr : ModelChatRoom κ × Record κ} (h : Recorded mr) :
    NothingForgotten mr := by
  refine ⟨h.consistent.once, h.consistent.queues, fun _ => h.consistent.lt_length, ?_⟩
  intro load here profile done idle pass passed user
  exact exists_written (List.forall₂_drop pass.before h.written)
    (h.consistent.assigned here done idle passed user)

end Steps

/-- In every run, no waiting cell is forgotten and no profile is looked up twice. -/
theorem nothing_forgotten (cells : κ → MessageCell) (events : List (Event κ)) :
    EveryState (watch step note) NothingForgotten (opened cells, {}) events := by
  refine EveryState.of_invariant (I := Recorded) ?_ (fun _ h => h.nothingForgotten)
    ⟨consistent_opened cells, .nil⟩ events
  exact watch_kept fun m record e t h taken => h.step taken

end ModelChatRoom

end OnMap
