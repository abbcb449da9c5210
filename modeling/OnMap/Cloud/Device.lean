/-
# A device: the messenger on top of the Firestore SDK

The SDK keeps a queue of the writes the messenger has issued and the server has
not applied, and shows the device the server's documents through that queue. It
answers reads and raises listener events from this view; the closures run later,
on the main queue. Answers and room snapshots may run in any order, the changes
of the chats listener in the order they were raised.

A local write to `chats` raises its event at once. The chats listener is set up
at most once.
-/

import OnMap.Library.Overlay
import OnMap.Messenger.FirestoreMessenger

namespace OnMap

open Overlay

/-- The documents of the database. -/
abbrev Documents := DocumentPath → Option Dictionary

namespace DocumentWrite

def path : DocumentWrite → DocumentPath
  | addDocument path _ | setData path _ | delete path => path

/-- The dictionary stored by the write, as it will be read back. -/
def data : DocumentWrite → Option Dictionary
  | addDocument _ data | setData _ data => some data.store
  | delete _ => none

def toWrite (w : DocumentWrite) : Write DocumentPath Dictionary := ⟨w.path, w.data⟩

end DocumentWrite

/-- A room closure waiting on the main queue, with the data it will get. -/
inductive RoomCallback
  | reply (room : String) (data : Option Dictionary)
  | snapshot (registration : ℕ) (room : String) (data : Option Dictionary)

namespace RoomCallback

def room : RoomCallback → String
  | reply room _ | snapshot _ room _ => room

def data : RoomCallback → Option Dictionary
  | reply _ data | snapshot _ _ data => data

end RoomCallback

/-- One device running the messenger. -/
structure Device where
  messenger : FirestoreMessenger := {}
  /-- Writes issued and not yet applied by the server, oldest first. -/
  pending : List DocumentWrite := []
  /-- Rooms asked for with `getDocument` and not answered. -/
  gets : List String := []
  /-- `getDocuments` calls not answered. -/
  queries : ℕ := 0
  /-- Live room listeners. -/
  registrations : List (ℕ × String) := []
  nextRegistration : ℕ := 0
  /-- What the chats listener has been told of, once it is set up. -/
  reported : Option (String → Option Dictionary) := none
  changes : List DocumentChange := []
  roomCallbacks : List RoomCallback := []
  /-- Answers to `getDocuments`; `none` is an error. -/
  chatsReplies : List (Option (List Dictionary)) := []

namespace Device

/-- The documents as this device sees them. -/
def view (documents : Documents) (d : Device) : Documents :=
  overlay documents (d.pending.map DocumentWrite.toWrite)

/-- The change that takes the chats listener from one state of a document to
another, `none` standing for a missing document. Of data that stayed the same the
SDK tells nothing; the closure does nothing with a modified document either way. -/
def changeOf (chatID : String) : Option Dictionary → Option Dictionary → Option DocumentChange
  | none, none => none
  | none, some data => some (.added chatID data)
  | some _, some data => some (.modified chatID data)
  | some old, none => some (.removed chatID old)

/-- The chats listener is told of one document, if there is anything to tell. -/
def raise (documents : Documents) (d : Device) (chatID : String) : Device :=
  match d.reported with
  | none => d
  | some reported =>
    let now := d.view documents ⟨.chats, chatID⟩
    match changeOf chatID (reported chatID) now with
    | none => d
    | some change =>
      { d with
        reported := some (Function.update reported chatID now)
        changes := d.changes ++ [change] }

theorem raise_of_reported_none {documents : Documents} {d : Device} {chatID : String}
    (h : d.reported = none) : d.raise documents chatID = d := by
  rw [raise, h]

/-- Raising tells nothing, or it adds one change and remembers the view. -/
theorem raise_of_reported_some {documents : Documents} {d : Device} {chatID : String}
    {reported : String → Option Dictionary} (h : d.reported = some reported) :
    (reported chatID = none ∧ d.view documents ⟨.chats, chatID⟩ = none ∧
        d.raise documents chatID = d) ∨
      ∃ change, changeOf chatID (reported chatID) (d.view documents ⟨.chats, chatID⟩) =
          some change ∧
        d.raise documents chatID = { d with
          reported := some (Function.update reported chatID (d.view documents ⟨.chats, chatID⟩))
          changes := d.changes ++ [change] } := by
  rw [raise, h]
  cases hchange : changeOf chatID (reported chatID) (d.view documents ⟨.chats, chatID⟩) with
  | none =>
    -- nothing to tell: the document was missing and still is
    left
    cases before : reported chatID <;> cases now : d.view documents ⟨.chats, chatID⟩ <;>
      simp_all [changeOf]
  | some change => exact Or.inr ⟨change, rfl, by simp only [hchange]⟩

/-- A change carries the new data of its document, or the old data if the
document is gone. -/
theorem changeOf_eq_some {chatID : String} {before now : Option Dictionary}
    {change : DocumentChange} (h : changeOf chatID before now = some change) :
    change.documentID = chatID ∧
      (now = some change.data ∨ now = none ∧ before = some change.data) := by
  cases before <;> cases now <;> simp only [changeOf, reduceCtorEq, Option.some.injEq] at h <;>
    subst h <;> simp [DocumentChange.documentID, DocumentChange.data]

/-- What the SDK does at one call. -/
def perform (documents : Documents) (d : Device) : FirestoreCall → Device
  | .write w =>
    let d := { d with pending := d.pending ++ [w] }
    -- the chats listener is told of local writes without waiting for the server
    match w.path.collection with
    | .chats => d.raise documents w.path.documentID
    | .rooms => d
  | .getDocument path => { d with gets := d.gets ++ [path.documentID] }
  | .getDocuments _ => { d with queries := d.queries + 1 }
  | .addSnapshotListener path registration =>
    { d with registrations := d.registrations ++ [(registration, path.documentID)]
             nextRegistration := registration + 1 }
  -- a new listener has been told nothing; what exists is raised as added later
  | .addCollectionListener _ => { d with reported := some fun _ => none }
  | .remove registration =>
    { d with registrations := d.registrations.filter fun live => live.1 ≠ registration }

/-- A method of the messenger ran: its new fields, then its calls in order. -/
def call (documents : Documents) (d : Device)
    (result : FirestoreMessenger × List FirestoreCall) : Device :=
  result.2.foldl (perform documents) { d with messenger := result.1 }

/-- A waiting room closure runs; the closure of a removed listener does not. -/
def runRoomCallback (d : Device) (callback : RoomCallback) : FirestoreMessenger :=
  match callback with
  | .reply _ data => d.messenger.handleRoom data
  | .snapshot registration _ data =>
    -- a snapshot that was raised before its listener was removed is dropped
    if registration ∈ d.registrations.map Prod.fst then d.messenger.handleRoom data
    else d.messenger

/-- A room closure does nothing, or replaces the cached room by its data. -/
theorem runRoomCallback_cases (d : Device) (callback : RoomCallback) :
    d.runRoomCallback callback = d.messenger ∨
      ∃ data, callback.data = some data ∧ d.runRoomCallback callback =
        { d.messenger with currentChatRoom := ChatRoom.ofDictonary data } := by
  have handled (data : Option Dictionary) : d.messenger.handleRoom data = d.messenger ∨
      ∃ fields, data = some fields ∧ d.messenger.handleRoom data =
        { d.messenger with currentChatRoom := ChatRoom.ofDictonary fields } := by
    cases data with
    | none => exact Or.inl rfl
    | some fields => exact Or.inr ⟨fields, rfl, rfl⟩
  cases callback with
  | reply room data => exact handled data
  | snapshot registration room data =>
    rw [runRoomCallback]
    split
    · exact handled data
    · exact Or.inl rfl

end Device

/-- What can happen on a device: calls of the messenger's methods, the server
taking the oldest write, the SDK answering or raising, and the main queue
running a closure. -/
inductive Event
  | setupObserverChats
  | loadChatInfoArray
  | addChat (nameDiscussion : String) (xCoordinate yCoordinate : Double) (now : Date)
      (roomID chatID : String)
  | deleteChat (name : String)
  | startDiscussRoom (name : String)
  | loadDiscussionRoom
  | setupObserverChatRoom
  | sendMessage (owner message : String) (now : Date)
  | closeDiscussRoom
  | applyWrite
  | answerRoom (index : ℕ)
  | answerChats (order : List String)
  | failChats
  | raiseRoom (index : ℕ)
  | raiseChange (chatID : String)
  | runRoom (index : ℕ)
  | runChats (index : ℕ)
  | runChange

namespace Device

/-- One event on a device. `chatIDs` are the identifiers `chats` documents can
have. `none` when the event cannot happen or traps. -/
def step (documents : Documents) (chatIDs : List String) (d : Device) : Event → Option Device
  | .setupObserverChats =>
    if d.reported.isSome then none else some (d.call documents d.messenger.setupObserverChats)
  | .loadChatInfoArray => some (d.call documents d.messenger.loadChatInfoArray)
  | .addChat nameDiscussion xCoordinate yCoordinate now roomID chatID =>
    some (d.call documents
      (d.messenger.addChat nameDiscussion xCoordinate yCoordinate now roomID chatID).2)
  | .deleteChat name => (d.messenger.deleteChat name).map (d.call documents)
  | .startDiscussRoom name => some (d.call documents (d.messenger.startDiscussRoom name))
  | .loadDiscussionRoom => some (d.call documents d.messenger.loadDiscussionRoom)
  | .setupObserverChatRoom =>
    some (d.call documents (d.messenger.setupObserverChatRoom d.nextRegistration))
  | .sendMessage owner message now =>
    some (d.call documents (d.messenger.sendMessage owner message now))
  | .closeDiscussRoom => some (d.call documents d.messenger.closeDiscussRoom)
  | .applyWrite =>
    match d.pending with
    | [] => none
    | _ :: rest => some { d with pending := rest }
  | .answerRoom index =>
    match d.gets[index]? with
    | none => none
    | some room =>
      -- the data is what the device sees now, its closure runs later
      some { d with
        gets := d.gets.eraseIdx index
        roomCallbacks := d.roomCallbacks ++ [.reply room (d.view documents ⟨.rooms, room⟩)] }
  | .answerChats order =>
    -- the answer lists every document that the device sees, in any order
    let present := chatIDs.filter fun chatID => (d.view documents ⟨.chats, chatID⟩).isSome
    if 0 < d.queries ∧ order.Perm present then
      some { d with
        queries := d.queries - 1
        chatsReplies := d.chatsReplies ++
          [some (order.filterMap fun chatID => d.view documents ⟨.chats, chatID⟩)] }
    else none
  | .failChats =>
    if 0 < d.queries then
      some { d with queries := d.queries - 1, chatsReplies := d.chatsReplies ++ [none] }
    else none
  | .raiseRoom index =>
    match d.registrations[index]? with
    | none => none
    | some (registration, room) =>
      some { d with roomCallbacks := d.roomCallbacks ++
        [.snapshot registration room (d.view documents ⟨.rooms, room⟩)] }
  | .raiseChange chatID => some (d.raise documents chatID)
  | .runRoom index =>
    match d.roomCallbacks[index]? with
    | none => none
    | some callback =>
      some { d with
        messenger := d.runRoomCallback callback
        roomCallbacks := d.roomCallbacks.eraseIdx index }
  | .runChats index =>
    match d.chatsReplies[index]? with
    | none => none
    | some reply =>
      some { d with
        messenger := d.messenger.handleChatsReply reply
        chatsReplies := d.chatsReplies.eraseIdx index }
  | .runChange =>
    -- the changes of one listener run in the order they were raised
    match d.changes with
    | [] => none
    | change :: rest =>
      (d.messenger.handleChatsChange change).map fun messenger =>
        { d with messenger := messenger, changes := rest }

end Device

end OnMap
