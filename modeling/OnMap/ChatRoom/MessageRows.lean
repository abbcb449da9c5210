/-
# The rows of a chat

The table of a chat draws the newest message first. It takes a cell of one kind for the user's own
messages and of another kind for those of the others, sets the text and the time, and passes a
cell of the second kind to the model, which sets the picture of the author.

Cells are reused, and pictures come late: until all lookups are done, a message may be drawn
beside the picture of another author. In the end it stands beside that of its own, as long as no
room gets shorter than the table and no late profile is the last one to come for its cell.
-/

import OnMap.ChatRoom.MessageTable
import OnMap.ChatRoom.ReusedCells
import OnMap.Cloud.Authorship

namespace OnMap

open Transition

/-- `Calendar.current`: its time zone is a setting of the phone. -/
structure Calendar where
  hour : Date → ℕ
  minute : Date → ℕ

/-- The interpolated text of the two components. -/
def Calendar.text (calendar : Calendar) (timeSend : Date) : String :=
  toString (calendar.hour timeSend) ++ ":" ++ toString (calendar.minute timeSend)

/-- `idCellMyMessage` and `idCellOtherMessage` -/
inductive CellIdentifier | myMessage | otherMessage
  deriving DecidableEq, Repr

/-- `textMessage` and `textTimeSend` of a cell, which its labels show. -/
structure MessageTexts where
  textMessage : Option String := none
  textTimeSend : Option String := none
  deriving DecidableEq, Repr

/-- What `getInfoMessage` returns: the message, its owner and its time. -/
abbrev RowInfo := Option String × Option String × Option Date

/-- The time of a cell stays if there is no new one. -/
def MessageTexts.set (texts : MessageTexts) (calendar : Calendar) (info : RowInfo) :
    MessageTexts where
  textMessage := info.1
  textTimeSend := (info.2.2.map calendar.text).or texts.textTimeSend

/-- The screen of a chat with the cells of its table. -/
structure MessageRows (κ : Type) where
  table : ChatRoomViewController
  model : ModelChatRoom κ
  myAccountId : String
  texts : κ → MessageTexts := fun _ => {}

namespace MessageRows

variable {κ : Type} [DecidableEq κ]

/-- What can happen: the rest of the screen does something, the table draws a row in a cell, a
lookup completes, the main queue runs a closure of the model. -/
inductive Event (κ : Type)
  | table (e : ChatRoomViewController.Event)
  | cellForRow (row : ℕ) (cell : κ)
  | complete (load : ℕ) (profile : Profile)
  | run (block : ℕ)

def infoOfRow (s : MessageRows κ) (row : ℕ) : Option RowInfo :=
  s.table.messenger.getInfoAboutMessage (s.table.indexOfRow row)

/-- The kind of cell that a message is drawn in. -/
def identifierOf (s : MessageRows κ) (info : RowInfo) : CellIdentifier :=
  if some s.myAccountId = info.2.1 then .myMessage else .otherMessage

/-- The cell gets the texts, and is passed to the model if the owner is somebody else. -/
def fill (s : MessageRows κ) (calendar : Calendar) (info : RowInfo) (cell : κ) :
    MessageRows κ :=
  { s with
    model := match s.identifierOf info, info.2.1 with
      | .otherMessage, some id => s.model.setAvatarAndOwnerMessage id cell
      | _, _ => s.model
    texts := Function.update s.texts cell ((s.texts cell).set calendar info) }

/-- `tableView(_:cellForRowAt:)`, with a cell that has been dequeued. -/
def cellForRow (calendar : Calendar) (identifier : κ → CellIdentifier) (s : MessageRows κ)
    (row : ℕ) (cell : κ) : Option (MessageRows κ) :=
  if row < s.table.rows then
    (s.infoOfRow row).bind fun info =>
      if identifier cell = s.identifierOf info then some (s.fill calendar info cell) else none
  else none

def step (calendar : Calendar) (identifier : κ → CellIdentifier) (s : MessageRows κ) :
    Event κ → Option (MessageRows κ)
  | .table e => (s.table.step e).map fun table => { s with table := table }
  | .cellForRow row cell => s.cellForRow calendar identifier row cell
  | .complete load profile =>
    (s.model.complete load profile).map fun model => { s with model := model }
  | .run block => (s.model.runBlock block).map fun model => { s with model := model }

/-- A new screen for the chat of the name. -/
def opened (messenger : FirestoreMessenger) (name myAccountId : String) (cells : κ → MessageCell) :
    MessageRows κ where
  table := .loaded (messenger.startDiscussRoom name).1
  model := .opened cells
  myAccountId := myAccountId

/-! ### Messages in cells -/

/-- The rows count from the newest message. -/
def messageOfRow (s : MessageRows κ) (row : ℕ) : Option Message :=
  s.table.messenger.currentChatRoom.bind fun room => room.messages.reverse[row]?

/-- Record which message each cell was last drawn for. -/
def noteDrawn (s : MessageRows κ) (e : Event κ) (drawn : κ → Option Message) :
    κ → Option Message :=
  match e with
  | .cellForRow row cell => Function.update drawn cell (s.messageOfRow row)
  | _ => drawn

/-- Every row can be drawn, and in the end there is one for each message. The cells show the
messages they were drawn for, on the side of their owners, and in the end with the pictures
of these. -/
structure ShowsMessages (calendar : Calendar) (identifier : κ → CellIdentifier)
    (sm : MessageRows κ × (κ → Option Message)) : Prop where
  rows : ∀ row < sm.1.table.rows, ∃ kind, ∀ cell, identifier cell = kind →
    ∃ t, sm.1.cellForRow calendar identifier row cell = some t
  told : sm.1.table.main = [] → ∀ room ∈ sm.1.table.messenger.currentChatRoom,
    sm.1.table.rows = room.messages.length
  texts : ∀ cell, ∀ m ∈ sm.2 cell, sm.1.texts cell =
    ⟨some m.message, some (calendar.text m.date)⟩
  side : ∀ cell, ∀ m ∈ sm.2 cell, identifier cell = .myMessage ↔ m.owner = sm.1.myAccountId
  pictures : (∀ load ∈ sm.1.model.loads, load.result.isSome = true) → sm.1.model.main = [] →
    ∀ cell, ∀ m ∈ sm.2 cell, m.owner ≠ sm.1.myAccountId →
      ∃ load ∈ sm.1.model.loads, load.userID = m.owner ∧
        ∃ profile ∈ load.result, (sm.1.model.cells cell).imageAvatar = some profile.photo

/-- The three arrays of a room that comes have one length, as those of every stored room do. -/
def BringsAligned : ChatRoomViewController.Event → Prop
  | .roomReply data | .roomSnapshot data =>
    ∀ fields ∈ data, ∀ room ∈ ChatRoom.ofDictonary fields, room.Aligned
  | _ => True

/-- A profile comes to a cell drawn for its user, or to a cell whose own is still to come. -/
def ProfileInTime (sm : MessageRows κ × (κ → Option Message)) (e : ModelChatRoom.Event κ) :
    Prop :=
  ∀ late ∈ sm.1.model.assigns e, ∀ m ∈ sm.2 late.1,
    m.owner = late.2 ∨ sm.1.model.Unsettled late.1 m.owner

def InTurn (sm : MessageRows κ × (κ → Option Message)) : Event κ → Prop
  | .table e => sm.1.table.KeepsRows e ∧ BringsAligned e
  | .cellForRow .. => True
  | .complete load profile => ProfileInTime sm (.complete load profile)
  | .run block => ProfileInTime sm (.run block)

instance (s : ChatRoomViewController) : DecidablePred s.KeepsRows
  | .roomReply data | .roomSnapshot data =>
    inferInstanceAs (Decidable (∀ fields ∈ data, ∀ room ∈ ChatRoom.ofDictonary fields, _))
  | .sendMessage .. => inferInstanceAs (Decidable (_ → _ ≤ _))
  | .closeDiscussRoom | .run _ | .reloadData | .cellForRow _ => isTrue trivial

instance : DecidablePred BringsAligned
  | .roomReply data | .roomSnapshot data =>
    inferInstanceAs (Decidable (∀ fields ∈ data, ∀ room ∈ ChatRoom.ofDictonary fields, _ ∧ _))
  | .sendMessage .. | .closeDiscussRoom | .run _ | .reloadData | .cellForRow _ => isTrue trivial

instance (sm : MessageRows κ × (κ → Option Message)) : DecidablePred (ProfileInTime sm) := fun e =>
  inferInstanceAs (Decidable (∀ late ∈ sm.1.model.assigns e, ∀ m ∈ sm.2 late.1, _ ∨ _))

instance (sm : MessageRows κ × (κ → Option Message)) : DecidablePred (InTurn sm)
  | .table _ => inferInstanceAs (Decidable (_ ∧ _))
  | .cellForRow .. => isTrue trivial
  | .complete .. | .run _ => inferInstanceAs (Decidable (ProfileInTime _ _))

/-! ### Rows -/

section Steps

variable {calendar : Calendar} {identifier : κ → CellIdentifier} {s t : MessageRows κ}
  {drawn : κ → Option Message} {e : Event κ} {cell : κ} {row : ℕ} {m : Message}

/-- The table asks for rows in range, of a room with arrays of one length. While it has not been
told of all messages it is about to reload. -/
structure Drawable (table : ChatRoomViewController) : Prop where
  inRange : table.RowsInRange
  aligned : ∀ room ∈ table.messenger.currentChatRoom, room.Aligned
  reloads : table.messenger.currentChatRoom = none ∨ table.rows = table.messenger.countMessages ∨
    table.main ≠ []

/-- A row has a message, or there is no room. -/
inductive RowHolds : Option Message → RowInfo → Prop
  | closed : RowHolds none (none, none, none)
  | message (m : Message) : RowHolds (some m) (some m.message, some m.owner, some m.date)

omit [DecidableEq κ] in
theorem Drawable.rowHolds (h : Drawable s.table) (told : row < s.table.rows) :
    ∃ info, s.infoOfRow row = some info ∧ RowHolds (s.messageOfRow row) info := by
  cases loaded : s.table.messenger.currentChatRoom with
  | none =>
    refine ⟨(none, none, none), ?_, ?_⟩
    · rw [infoOfRow, FirestoreMessenger.getInfoAboutMessage, loaded]
    · rw [messageOfRow, loaded]
      exact .closed
  | some room =>
    have aligned := h.aligned room loaded
    have count : s.table.messenger.countMessages = room.messages.length := by
      simp [FirestoreMessenger.countMessages, loaded, aligned.length_messages]
    have bound : row < room.messages.length := by
      rcases ChatRoomViewController.rowsInRange_iff.mp h.inRange with closed | told'
      · rw [loaded] at closed
        cases closed
      · omega
    obtain ⟨m, here⟩ : ∃ m, room.messages.reverse[row]? = some m :=
      ⟨_, List.getElem?_eq_getElem (by simpa using bound)⟩
    refine ⟨(some m.message, some m.owner, some m.date), ?_, ?_⟩
    · rw [List.getElem?_reverse bound] at here
      obtain ⟨owner, message, time⟩ := ChatRoom.getElem?_messages.mp here
      have index : (s.table.indexOfRow row).toNat = room.messages.length - 1 - row := by
        rw [ChatRoomViewController.indexOfRow, count]
        omega
      have inside : ¬ s.table.indexOfRow row < 0 := by
        rw [ChatRoomViewController.indexOfRow, count]
        omega
      simp [infoOfRow, FirestoreMessenger.getInfoAboutMessage, FirestoreMessenger.element, loaded,
        inside, index, owner, message, time]
    · rw [messageOfRow, loaded, Option.bind_some, here]
      exact .message m

theorem aligned_handleRoom {messenger : FirestoreMessenger} {data : Option Dictionary}
    (aligned : ∀ room ∈ messenger.currentChatRoom, room.Aligned)
    (brought : ∀ fields ∈ data, ∀ room ∈ ChatRoom.ofDictonary fields, room.Aligned) :
    ∀ room ∈ (messenger.handleRoom data).currentChatRoom, room.Aligned := by
  cases data with
  | none => exact aligned
  | some fields => exact brought fields rfl

theorem aligned_sendMessage {messenger : FirestoreMessenger} (owner message : String) (now : Date)
    (aligned : ∀ room ∈ messenger.currentChatRoom, room.Aligned) :
    ∀ room ∈ (messenger.sendMessage owner message now).1.currentChatRoom, room.Aligned := by
  have cached : (messenger.currentChatRoom.getD .empty).Aligned := by
    cases loaded : messenger.currentChatRoom with
    | none => exact ChatRoom.aligned_empty
    | some room => exact aligned room loaded
  intro room here
  rw [FirestoreMessenger.sendMessage] at here
  split at here
  · obtain rfl := Option.some.inj here
    exact cached
  · obtain rfl := Option.some.inj here
    exact cached.appending _

/-- Whatever changes the room has the table reloaded. -/
theorem Drawable.reloads_step {table later : ChatRoomViewController}
    {e : ChatRoomViewController.Event} (h : Drawable table) (taken : table.step e = some later) :
    later.messenger.currentChatRoom = none ∨ later.rows = later.messenger.countMessages ∨
      later.main ≠ [] := by
  cases e with
  | roomReply data | roomSnapshot data =>
    obtain rfl := Option.some.inj taken
    cases data with
    | none => exact h.reloads
    | some fields => exact Or.inr (Or.inr (by simp [ChatRoomViewController.handleRoom,
        ChatRoomViewController.async]))
  | sendMessage owner message now =>
    obtain rfl := Option.some.inj taken
    exact Or.inr (Or.inr (by simp [ChatRoomViewController.sendMessage,
      ChatRoomViewController.reloadTableView, ChatRoomViewController.async]))
  | closeDiscussRoom =>
    obtain rfl := Option.some.inj taken
    exact Or.inl rfl
  | run index =>
    obtain ⟨block, -, rfl⟩ := Option.map_eq_some_iff.mp taken
    cases block with
    | reloadTableView => exact Or.inr (Or.inr (by simp [ChatRoomViewController.runBlock,
        ChatRoomViewController.reloadTableView, ChatRoomViewController.async]))
    | reloadData => exact Or.inr (Or.inl rfl)
  | reloadData =>
    obtain rfl := Option.some.inj taken
    exact Or.inr (Or.inl rfl)
  | cellForRow row =>
    obtain ⟨-, answered⟩ := Option.ite_none_right_eq_some.mp taken
    obtain ⟨-, -, rfl⟩ := Option.map_eq_some_iff.mp answered
    exact h.reloads

/-- Rows stay drawable in the steps of the rest of the screen. -/
theorem Drawable.step {table later : ChatRoomViewController} {e : ChatRoomViewController.Event}
    (h : Drawable table) (keeps : table.KeepsRows e) (brought : BringsAligned e)
    (taken : table.step e = some later) : Drawable later where
  inRange := (ChatRoomViewController.keepsRows_iff h.inRange).mp keeps later taken
  reloads := h.reloads_step taken
  aligned := by
    cases e with
    | roomReply data | roomSnapshot data =>
      obtain rfl := Option.some.inj taken
      cases data with
      | none => exact h.aligned
      | some fields => exact aligned_handleRoom h.aligned brought
    | sendMessage owner message now =>
      obtain rfl := Option.some.inj taken
      exact aligned_sendMessage owner message now h.aligned
    | closeDiscussRoom =>
      obtain rfl := Option.some.inj taken
      exact fun room closed => absurd closed (Option.some_ne_none room).symm
    | run index =>
      obtain ⟨block, -, rfl⟩ := Option.map_eq_some_iff.mp taken
      cases block <;> exact h.aligned
    | reloadData =>
      obtain rfl := Option.some.inj taken
      exact h.aligned
    | cellForRow row =>
      obtain ⟨-, answered⟩ := Option.ite_none_right_eq_some.mp taken
      obtain ⟨-, -, rfl⟩ := Option.map_eq_some_iff.mp answered
      exact h.aligned

/-! ### Drawing -/

/-- What the texts say of a cell that was drawn for a message. -/
def Draws (calendar : Calendar) (identifier : κ → CellIdentifier) (s : MessageRows κ) (cell : κ)
    (m : Message) : Prop :=
  s.texts cell = ⟨some m.message, some (calendar.text m.date)⟩ ∧
    (identifier cell = .myMessage ↔ m.owner = s.myAccountId)

/-- What a cell that is passed to the model waits for: the owner of its message. -/
def ownerIn (identifier : κ → CellIdentifier) (drawn : κ → Option Message) (cell : κ) :
    Option String :=
  if identifier cell = .otherMessage then (drawn cell).map Message.owner else none

/-- The model has been passed the cells with the owners of their messages. -/
def Passed (identifier : κ → CellIdentifier) (model : ModelChatRoom κ)
    (drawn : κ → Option Message) : Prop :=
  ∃ passes : List (ModelChatRoom.Pass κ), ModelChatRoom.Consistent (model, passes) ∧
    ModelChatRoom.InOrder (model, passes) ∧
      ∀ cell, ModelChatRoom.lastID passes cell = ownerIn identifier drawn cell

/-- What the screen keeps while it takes its steps in turn. -/
structure Holds (calendar : Calendar) (identifier : κ → CellIdentifier)
    (sm : MessageRows κ × (κ → Option Message)) : Prop where
  table : Drawable sm.1.table
  draws : ∀ cell, ∀ m ∈ sm.2 cell, Draws calendar identifier sm.1 cell m
  passed : Passed identifier sm.1.model sm.2

/-- A cell drawn without a message waits for nobody. -/
theorem Passed.forget (h : Passed identifier s.model drawn) (cell : κ) :
    Passed identifier s.model (Function.update drawn cell none) := by
  obtain ⟨passes, consistent, inOrder, last⟩ := h
  have kept (other : κ) (apart : other ≠ cell) :
      ModelChatRoom.lastID (passes.filter (·.cell ≠ cell)) other =
        ModelChatRoom.lastID passes other := by
    rw [ModelChatRoom.lastID, ModelChatRoom.lastID, ← List.filter_reverse, List.find?_filter]
    congr 2
    funext pass
    by_cases same : pass.cell = other <;> simp [same, apart]
  have gone : ModelChatRoom.lastID (passes.filter (·.cell ≠ cell)) cell = none := by
    rw [ModelChatRoom.lastID, Option.map_eq_none_iff, List.find?_eq_none]
    intro pass mem
    simpa using (List.mem_filter.mp (List.mem_reverse.mp mem)).2
  refine ⟨passes.filter (·.cell ≠ cell), ?_, ?_, ?_⟩
  · exact { consistent with
      earlier := fun pass mem => consistent.earlier pass (List.mem_of_mem_filter mem)
      served := fun pass mem => consistent.served pass (List.mem_of_mem_filter mem) }
  · intro other userID waits
    by_cases same : other = cell
    · rw [same, gone] at waits
      cases waits
    · rw [kept other same] at waits
      exact inOrder other userID waits
  · intro other
    by_cases same : other = cell
    · rw [same, gone]
      simp [ownerIn]
    · rw [kept other same, last other, ownerIn, ownerIn, Function.update_of_ne same]

/-- A cell of the other kind is passed with the owner of its message. -/
theorem Passed.pass (h : Passed identifier s.model drawn) (other : identifier cell = .otherMessage)
    (m : Message) :
    Passed identifier (s.model.setAvatarAndOwnerMessage m.owner cell)
      (Function.update drawn cell (some m)) := by
  obtain ⟨passes, consistent, inOrder, last⟩ := h
  have taken : s.model.step (.setAvatarAndOwnerMessage m.owner cell) =
      some (s.model.setAvatarAndOwnerMessage m.owner cell) := rfl
  have inTime : ModelChatRoom.InTime (s.model, passes) (.setAvatarAndOwnerMessage m.owner cell) :=
    fun late none => absurd none (Option.some_ne_none late).symm
  refine ⟨_, consistent.step taken, inOrder.step consistent inTime taken, fun cell' => ?_⟩
  rw [ModelChatRoom.notePass, ModelChatRoom.lastID_concat]
  split
  case isTrue same =>
    subst same
    simp [ownerIn, other]
  case isFalse apart =>
    rw [last, ownerIn, ownerIn, Function.update_of_ne (Ne.symm apart)]

/-- The user's own messages are not passed on. -/
theorem Passed.own (h : Passed identifier s.model drawn) (mine : identifier cell = .myMessage)
    (m : Message) : Passed identifier s.model (Function.update drawn cell (some m)) := by
  obtain ⟨passes, consistent, inOrder, last⟩ := h
  refine ⟨passes, consistent, inOrder, fun cell' => ?_⟩
  by_cases same : cell' = cell
  · subst same
    simp [last, ownerIn, mine]
  · rw [last, ownerIn, ownerIn, Function.update_of_ne same]

/-- The model takes a step that passes no cell. -/
theorem Passed.step (h : Passed identifier s.model drawn) {e : ModelChatRoom.Event κ}
    {model : ModelChatRoom κ} (taken : s.model.step e = some model)
    (passes : ∀ passes, ModelChatRoom.notePass s.model e passes = passes)
    (inTime : ProfileInTime (s, drawn) e) : Passed identifier model drawn := by
  obtain ⟨earlier, consistent, inOrder, last⟩ := h
  have guard : ModelChatRoom.InTime (s.model, earlier) e := by
    intro late assigned id waits
    rw [Option.mem_def, last] at waits
    rw [ownerIn] at waits
    split at waits
    · obtain ⟨m, here, rfl⟩ := Option.map_eq_some_iff.mp waits
      exact inTime late assigned m here
    · cases waits
  refine ⟨earlier, ?_, ?_, last⟩
  · have next := consistent.step taken
    rwa [passes] at next
  · have next := inOrder.step consistent guard taken
    rwa [passes] at next

omit [DecidableEq κ] in
theorem identifierOf_message (s : MessageRows κ) (m : Message) :
    s.identifierOf (some m.message, some m.owner, some m.date) = .myMessage ↔
      m.owner = s.myAccountId := by
  by_cases mine : m.owner = s.myAccountId <;> simp [identifierOf, mine, eq_comm]

omit [DecidableEq κ] in
theorem Draws.congr {before after : MessageRows κ} (h : Draws calendar identifier before cell m)
    (texts : after.texts cell = before.texts cell)
    (account : after.myAccountId = before.myAccountId) :
    Draws calendar identifier after cell m := by
  rw [Draws, texts, account]
  exact h

/-- What drawing a row does to the cells, whatever the row holds. -/
theorem Holds.fill (h : Holds calendar identifier (s, drawn)) {info : RowInfo}
    {m? : Option Message} (holds : RowHolds m? info)
    (kind : identifier cell = s.identifierOf info) :
    Holds calendar identifier (s.fill calendar info cell, Function.update drawn cell m?) := by
  have others (other : κ) (apart : other ≠ cell) (m : Message)
      (here : Function.update drawn cell m? other = some m) :
      Draws calendar identifier (s.fill calendar info cell) other m := by
    rw [Function.update_of_ne apart] at here
    exact (h.draws other m here).congr (Function.update_of_ne apart ..) rfl
  cases holds with
  | closed =>
    refine ⟨h.table, fun other m here => ?_, h.passed.forget cell⟩
    rw [Option.mem_def] at here
    dsimp only at here
    by_cases same : other = cell
    · rw [same, Function.update_self] at here
      cases here
    · exact others other same m here
  | message m =>
    have side : identifier cell = .myMessage ↔ m.owner = s.myAccountId := by
      rw [kind, identifierOf_message]
    refine ⟨h.table, fun other m' here => ?_, ?_⟩
    · rw [Option.mem_def] at here
      dsimp only at here
      by_cases same : other = cell
      · subst same
        rw [Function.update_self] at here
        obtain rfl := Option.some.inj here
        exact ⟨Function.update_self .., side⟩
      · exact others other same m' here
    · by_cases mine : m.owner = s.myAccountId
      · have own : identifier cell = .myMessage := side.mpr mine
        have unpassed : (s.fill calendar (some m.message, some m.owner, some m.date) cell).model =
            s.model := by
          rw [MessageRows.fill, ← kind, own]
        rw [unpassed]
        exact h.passed.own own m
      · have other : identifier cell = .otherMessage := by
          cases which : identifier cell with
          | myMessage => exact absurd (side.mp which) mine
          | otherMessage => rfl
        have passed : (s.fill calendar (some m.message, some m.owner, some m.date) cell).model =
            s.model.setAvatarAndOwnerMessage m.owner cell := by
          rw [MessageRows.fill, ← kind, other]
        rw [passed]
        exact h.passed.pass other m

theorem Holds.step (h : Holds calendar identifier (s, drawn)) (inTurn : InTurn (s, drawn) e)
    (taken : s.step calendar identifier e = some t) :
    Holds calendar identifier (t, noteDrawn s e drawn) := by
  cases e with
  | table e =>
    obtain ⟨table, next, rfl⟩ := Option.map_eq_some_iff.mp taken
    exact ⟨h.table.step inTurn.1 inTurn.2 next, h.draws, h.passed⟩
  | cellForRow row cell =>
    obtain ⟨told, answered⟩ := Option.ite_none_right_eq_some.mp taken
    obtain ⟨info, there, holds⟩ := h.table.rowHolds told
    rw [there, Option.bind_some] at answered
    obtain ⟨kind, filled⟩ := Option.ite_none_right_eq_some.mp answered
    obtain rfl := Option.some.inj filled
    exact h.fill holds kind
  | complete load profile =>
    obtain ⟨model, next, rfl⟩ := Option.map_eq_some_iff.mp taken
    have asked : s.model.step (.complete load profile) = some model := next
    exact ⟨h.table, h.draws, h.passed.step asked (fun _ => rfl) inTurn⟩
  | run block =>
    obtain ⟨model, next, rfl⟩ := Option.map_eq_some_iff.mp taken
    have queued : s.model.step (.run block) = some model := next
    exact ⟨h.table, h.draws, h.passed.step queued (fun _ => rfl) inTurn⟩

theorem Holds.showsMessages {sm : MessageRows κ × (κ → Option Message)}
    (h : Holds calendar identifier sm) : ShowsMessages calendar identifier sm where
  rows row told := by
    obtain ⟨info, there, -⟩ := h.table.rowHolds told
    refine ⟨sm.1.identifierOf info, fun cell kind => ?_⟩
    rw [MessageRows.cellForRow, if_pos told, there, Option.bind_some, if_pos kind]
    exact ⟨_, rfl⟩
  told idle room loaded := by
    have count : sm.1.table.messenger.countMessages = room.messages.length := by
      simp [FirestoreMessenger.countMessages, Option.mem_def.mp loaded,
        (h.table.aligned room loaded).length_messages]
    rcases h.table.reloads with closed | told | waits
    · rw [closed] at loaded
      cases loaded
    · exact told.trans count
    · exact absurd idle waits
  texts cell m here := (h.draws cell m here).1
  side cell m here := (h.draws cell m here).2
  pictures completed idle cell m here other := by
    obtain ⟨passes, -, inOrder, last⟩ := h.passed
    have kind : identifier cell = .otherMessage := by
      cases which : identifier cell with
      | myMessage => exact absurd ((h.draws cell m here).2.mp which) other
      | otherMessage => rfl
    refine inOrder.showsLast completed idle cell m.owner ?_
    rw [last, ownerIn, if_pos kind, here]
    rfl

/-- A chat that is opened has no room until it is loaded. -/
theorem opened_currentChatRoom (messenger : FirestoreMessenger) (name : String) :
    (messenger.startDiscussRoom name).1.currentChatRoom = none := by
  rw [FirestoreMessenger.startDiscussRoom, FirestoreMessenger.loadDiscussionRoom]
  split <;> rfl

theorem holds_opened (messenger : FirestoreMessenger) (name myAccountId : String)
    (cells : κ → MessageCell) :
    Holds calendar identifier (opened messenger name myAccountId cells, fun _ => none) where
  table :=
    { inRange := fun row none => absurd none (Nat.not_lt_zero row)
      aligned := fun room loaded =>
        absurd ((opened_currentChatRoom messenger name).symm.trans loaded)
          (Option.some_ne_none room).symm
      reloads := Or.inl (opened_currentChatRoom messenger name) }
  draws _ m none := absurd none (Option.some_ne_none m).symm
  passed := by
    refine ⟨[], ModelChatRoom.consistent_opened cells, ?_, ?_⟩
    · exact fun _ userID none => absurd none (Option.some_ne_none userID).symm
    · intro cell
      simp [ModelChatRoom.lastID, ownerIn]

end Steps

/-- What the closures of a device bring has arrays of one length, in every run of all devices. -/
theorem bringsAligned_of_run {labels : List (Action κ)} {s : Cloud κ}
    (run : exec Cloud.step Cloud.init labels = some s) {c : κ} {callback : RoomCallback}
    (waits : callback ∈ (s.devices c).roomCallbacks) :
    BringsAligned (.roomReply callback.data) ∧ BringsAligned (.roomSnapshot callback.data) := by
  obtain ⟨calls, watched⟩ := exists_exec_watch noteMessage [] run
  have brought : ∀ fields ∈ callback.data, ∀ room ∈ ChatRoom.ofDictonary fields, room.Aligned := by
    intro fields data room decoded
    obtain ⟨other, same, sublist⟩ :=
      ((sublistOf_run watched).devices c).callbacks callback waits fields data rfl
    obtain rfl := Option.some.inj (same.symm.trans decoded)
    exact sublist.1
  exact ⟨brought, brought⟩

/-- In every run of a chat in which rooms come with arrays of one length, no room that comes or is
made by a message is shorter than the table, and late profiles come before a cell's own: the
table can draw every row it was told of, and when it has reloaded it was told of every message. A
cell shows the message of the row it was last drawn for, counted from the newest, with its time
and on the side of its owner, and when all profiles have come, with the picture of its owner. -/
theorem rows_show_messages (calendar : Calendar) (identifier : κ → CellIdentifier)
    (messenger : FirestoreMessenger) (name myAccountId : String) (cells : κ → MessageCell)
    (events : List (Event κ))
    (inTurn : EveryStep (watch (step calendar identifier) noteDrawn) InTurn
      (opened messenger name myAccountId cells, fun _ => none) events) :
    EveryState (watch (step calendar identifier) noteDrawn) (ShowsMessages calendar identifier)
      (opened messenger name myAccountId cells, fun _ => none) events := by
  refine EveryState.of_guarded_invariant (I := Holds calendar identifier) ?_
    (fun _ h => h.showsMessages) (holds_opened messenger name myAccountId cells) inTurn
  exact watch_kept_of_guard fun s drawn e t h guard taken => h.step guard taken

/-- The user has greeted, and another one has answered. -/
def greetings : ChatRoom := ⟨["u1", "u2"], ["привет", "пока"], [0, 60000]⟩

/-- The newer message is drawn in the cell `true`, and its author is looked up. -/
def bothDrawn : List (Event Bool) :=
  [.table (.roomSnapshot (some greetings.stored)), .table (.run 0), .cellForRow 0 true,
    .cellForRow 1 false, .complete 0 ModelChatRoom.anna, .run 0]

/-- A clock that begins at midnight. -/
def clock : Calendar where
  hour now := (now / 3600000 % 24).toNat
  minute now := (now / 60000 % 60).toNat

def kinds (cell : Bool) : CellIdentifier := if cell then .otherMessage else .myMessage

theorem rows_show_messages_bothDrawn :
    EveryState (watch (step clock kinds) noteDrawn) (ShowsMessages clock kinds)
      (opened {} "чат" "u1" fun _ => {}, fun _ => none) bothDrawn ∧
    (exec (step clock kinds) (opened {} "чат" "u1" fun _ => {}) bothDrawn).map
      (fun s => (s.texts true, (s.model.cells true).imageAvatar)) =
        some (⟨some "пока", some "0:1"⟩, some ModelChatRoom.anna.photo) :=
  ⟨rows_show_messages clock kinds {} "чат" "u1" _ bothDrawn (by decide), by decide⟩

end MessageRows

end OnMap
