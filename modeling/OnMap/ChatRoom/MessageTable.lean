/-
# The table of messages

The table asks its data source how many messages there are when it reloads, and later,
row by row, for the messages. The newest message is in row 0, so a row is turned into an
index by counting back from the number of messages at that moment.

The cached room changes as soon as a closure of the messenger runs; the table is told by
closures on the main queue. In between it may ask for rows of a longer room.
-/

import OnMap.Library.Transition
import OnMap.Messenger.FirestoreMessenger

namespace OnMap

open Transition

/-- A closure on the main queue. -/
inductive TableBlock | reloadTableView | reloadData
  deriving DecidableEq, Repr

/-- The screen of a chat room: the messenger, the number of rows that the table was told
at its last reload, and the main queue. -/
structure ChatRoomViewController where
  messenger : FirestoreMessenger
  rows : ℕ := 0
  main : List TableBlock := []

namespace ChatRoomViewController

/-- What can happen: a closure of the messenger brings a room, the user sends a message,
a screen closes the room, the main queue runs a closure, the table reloads by itself or
asks for a row. -/
inductive Event
  | roomReply (data : Option Dictionary)
  | roomSnapshot (data : Option Dictionary)
  | sendMessage (owner message : String) (now : Date)
  | closeDiscussRoom
  | run (block : ℕ)
  | reloadData
  | cellForRow (row : ℕ)

/-- `tableView(_:numberOfRowsInSection:)` -/
def numberOfRows (s : ChatRoomViewController) : ℕ := s.messenger.countMessages

/-- The index that `tableView(_:cellForRowAt:)` computes. -/
def indexOfRow (s : ChatRoomViewController) (row : ℕ) : ℤ := s.messenger.countMessages - row - 1

def reloadData (s : ChatRoomViewController) : ChatRoomViewController :=
  { s with rows := s.numberOfRows }

/-- The main queue gets a closure. -/
def async (s : ChatRoomViewController) (block : TableBlock) : ChatRoomViewController :=
  { s with main := s.main ++ [block] }

/-- `reloadTableView` does not reload itself. -/
def reloadTableView (s : ChatRoomViewController) : ChatRoomViewController := s.async .reloadData

/-- A closure of the messenger replaces the cached room. Without data it returns before
its completion, which `viewDidLoad` has given it. -/
def handleRoom (s : ChatRoomViewController) (completion : TableBlock) (data : Option Dictionary) :
    ChatRoomViewController :=
  match data with
  | none => s
  | some fields => { s with messenger := s.messenger.handleRoom (some fields) }.async completion

/-- `sendMessage` with a text in the field. -/
def sendMessage (s : ChatRoomViewController) (owner message : String) (now : Date) :
    ChatRoomViewController :=
  { s with messenger := (s.messenger.sendMessage owner message now).1 }.reloadTableView

def runBlock (s : ChatRoomViewController) : TableBlock → ChatRoomViewController
  | .reloadTableView => s.reloadTableView
  | .reloadData => s.reloadData

/-- The table asks for a row below the number it was told; `none` is a trap then. -/
def cellForRow (s : ChatRoomViewController) (row : ℕ) : Option ChatRoomViewController :=
  if row < s.rows then (s.messenger.getInfoAboutMessage (s.indexOfRow row)).map fun _ => s
  else none

def step (s : ChatRoomViewController) : Event → Option ChatRoomViewController
  | .roomReply data => some (s.handleRoom .reloadTableView data)
  | .roomSnapshot data => some (s.handleRoom .reloadData data)
  | .sendMessage owner message now => some (s.sendMessage owner message now)
  | .closeDiscussRoom => some { s with messenger := s.messenger.closeDiscussRoom.1 }
  | .run index => (s.main[index]?).map fun block =>
    { s with main := s.main.eraseIdx index }.runBlock block
  | .reloadData => some s.reloadData
  | .cellForRow row => s.cellForRow row

/-- The screen when its table has been set up, on top of any messenger. -/
def loaded (messenger : FirestoreMessenger) : ChatRoomViewController := { messenger := messenger }

/-! ### Rows without messages -/

/-- Every row that the table may ask for becomes an index in range, or no room is loaded. -/
def RowsInRange (s : ChatRoomViewController) : Prop :=
  ∀ row < s.rows, s.messenger.currentChatRoom = none ∨
    0 ≤ s.indexOfRow row ∧ s.indexOfRow row < s.messenger.countMessages

/-- A room that is installed has a message for every row that the table was told of. A
message that is sent without a room makes a new one, of one message if the chat is known. -/
def KeepsRows (s : ChatRoomViewController) : Event → Prop
  | .roomReply data | .roomSnapshot data => ∀ fields ∈ data,
    ∀ room ∈ ChatRoom.ofDictonary fields, s.rows ≤ room.messagesArray.length
  | .sendMessage _ _ _ => s.messenger.currentChatRoom = none →
    s.rows ≤ if s.messenger.idDiscussion.isSome then 1 else 0
  | _ => True

section Steps

variable {s t : ChatRoomViewController} {e : Event}

/-- No row beyond the messages: the last row is the one that decides. -/
theorem rowsInRange_iff : RowsInRange s ↔
    s.messenger.currentChatRoom = none ∨ s.rows ≤ s.messenger.countMessages := by
  constructor
  · intro inRange
    by_cases shorter : s.messenger.countMessages < s.rows
    · -- the row after the oldest message would have the index -1
      rcases inRange _ shorter with closed | ⟨lower, -⟩
      · exact Or.inl closed
      · rw [indexOfRow] at lower
        omega
    · exact Or.inr (Nat.le_of_not_lt shorter)
  · rintro (closed | told) row below
    · exact Or.inl closed
    · rw [indexOfRow]
      exact Or.inr (by omega)

/-- A request in range is answered, from a room whose arrays have one length. -/
theorem exists_cellForRow (inRange : RowsInRange s)
    (aligned : ∀ room ∈ s.messenger.currentChatRoom, room.Aligned) {row : ℕ}
    (told : row < s.rows) : s.cellForRow row = some s := by
  rw [cellForRow, if_pos told, FirestoreMessenger.getInfoAboutMessage]
  cases loaded : s.messenger.currentChatRoom with
  | none => rfl
  | some room =>
    obtain ⟨lower, upper⟩ := (inRange row told).resolve_left (loaded ▸ nofun)
    have count : s.messenger.countMessages = room.messagesArray.length := by
      simp [FirestoreMessenger.countMessages, loaded]
    rw [count] at upper
    obtain ⟨owners, times⟩ := aligned room loaded
    have bound : (s.indexOfRow row).toNat < room.messagesArray.length := by omega
    have inside : ¬ s.indexOfRow row < 0 := by omega
    -- the three subscripts are in range together
    simp [FirestoreMessenger.element, inside, bound, owners, times]

theorem rowsInRange_handleRoom (inRange : RowsInRange s) (completion : TableBlock)
    (data : Option Dictionary) :
    (∀ fields ∈ data, ∀ room ∈ ChatRoom.ofDictonary fields,
        s.rows ≤ room.messagesArray.length) ↔ RowsInRange (s.handleRoom completion data) := by
  cases data with
  | none => exact iff_of_true nofun inRange
  | some fields =>
    rw [rowsInRange_iff]
    cases decoded : ChatRoom.ofDictonary fields with
    | none => simp [handleRoom, async, FirestoreMessenger.handleRoom, decoded]
    | some room =>
      simp [handleRoom, async, FirestoreMessenger.handleRoom, decoded,
        FirestoreMessenger.countMessages]

theorem rowsInRange_sendMessage (inRange : RowsInRange s) (owner message : String) (now : Date) :
    KeepsRows s (.sendMessage owner message now) ↔
      RowsInRange (s.sendMessage owner message now) := by
  rw [rowsInRange_iff] at inRange ⊢
  cases loaded : s.messenger.currentChatRoom with
  | none =>
    cases known : s.messenger.idDiscussion <;>
      simp [KeepsRows, loaded, known, sendMessage, reloadTableView, async,
        FirestoreMessenger.sendMessage, FirestoreMessenger.countMessages, ChatRoom.empty,
        ChatRoom.appending]
  | some room =>
    -- the room only grows
    have open_ : s.messenger.currentChatRoom ≠ none := loaded ▸ Option.some_ne_none room
    have told := inRange.resolve_left open_
    simp only [FirestoreMessenger.countMessages, loaded, Option.map_some, Option.getD_some] at told
    refine iff_of_true (fun closed => absurd closed open_) (Or.inr ?_)
    cases known : s.messenger.idDiscussion <;>
      simp [loaded, known, sendMessage, reloadTableView, async, FirestoreMessenger.sendMessage,
        FirestoreMessenger.countMessages, ChatRoom.appending] <;> omega

theorem rowsInRange_reloadData (s : ChatRoomViewController) : RowsInRange s.reloadData :=
  rowsInRange_iff.mpr (Or.inr (Nat.le_refl _))

/-- Exactly the steps that keep the rows leave every row in range. -/
theorem keepsRows_iff (inRange : RowsInRange s) :
    KeepsRows s e ↔ ∀ t, s.step e = some t → RowsInRange t := by
  cases e with
  | roomReply data | roomSnapshot data =>
    simp only [step, Option.some.injEq, forall_eq']
    exact rowsInRange_handleRoom inRange _ data
  | sendMessage owner message now =>
    simp only [step, Option.some.injEq, forall_eq']
    exact rowsInRange_sendMessage inRange owner message now
  | closeDiscussRoom =>
    simp only [step, Option.some.injEq, forall_eq']
    exact iff_of_true trivial (rowsInRange_iff.mpr (Or.inl rfl))
  | run index =>
    refine iff_of_true trivial fun t taken => ?_
    obtain ⟨block, -, rfl⟩ := Option.map_eq_some_iff.mp taken
    cases block with
    | reloadTableView => exact inRange
    | reloadData => exact rowsInRange_reloadData _
  | reloadData =>
    simp only [step, Option.some.injEq, forall_eq']
    exact iff_of_true trivial (rowsInRange_reloadData s)
  | cellForRow row =>
    refine iff_of_true trivial fun t taken => ?_
    rw [step, cellForRow] at taken
    split at taken
    · obtain ⟨-, -, rfl⟩ := Option.map_eq_some_iff.mp taken
      exact inRange
    · cases taken

end Steps

/-- The table never asks for a message that is not there exactly in the runs in which no
room is replaced by one shorter than the table. -/
theorem rows_in_range_iff (messenger : FirestoreMessenger) (events : List Event) :
    EveryState step RowsInRange (loaded messenger) events ↔
      EveryStep step KeepsRows (loaded messenger) events := by
  refine everyState_iff_everyStep (I := fun _ => True) (fun _ _ _ _ _ => trivial)
    (fun _ _ _ inRange => keepsRows_iff inRange) trivial ?_ events
  exact fun row none => absurd none (Nat.not_lt_zero row)

/-- A room of messages of one user. -/
def roomOf (messages : List String) : ChatRoom :=
  ⟨messages.map fun _ => "u1", messages, messages.map fun _ => 0⟩

/-- Three messages are shown; another client overwrites the room with a shorter one. -/
def shortened : List Event :=
  [.roomSnapshot (some (roomOf ["a", "b", "c"]).stored), .run 0,
    .roomSnapshot (some (roomOf ["d"]).stored)]

/-- Before the table is told, it asks for its last row. -/
theorem not_rows_in_range_shortened :
    ¬ EveryState step RowsInRange (loaded {}) shortened := by
  intro inRange
  rw [← List.append_nil shortened] at inRange
  have last := inRange.of_append (t := _) rfl
  rcases last 2 (by decide) with closed | ⟨lower, -⟩
  · cases closed
  · exact absurd lower (by decide)

end ChatRoomViewController

end OnMap
