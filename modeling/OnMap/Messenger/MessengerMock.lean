/-
# The test double

Firestore cannot be used in unit tests, so they run against `MessengerMock`. Like the
messenger it has an array of chats, the identifier of the open room and the room, but
no guard on names and no network.

Both are driven here by the same calls. The clock and the identifiers that the SDK
generates are arguments of a call; the double does not use the identifiers.
-/

import OnMap.Library.Transition
import OnMap.Messenger.FirestoreMessenger

namespace OnMap

open Transition

/-- The fields of the double; `idDiscussion` is never set. -/
structure MessengerMock where
  chatInformationArray : List ChatInfo := []
  idDiscussion : Option String := none
  currentChatRoom : Option ChatRoom := none

namespace MessengerMock

def numberOfChats (k : MessengerMock) : ℕ := k.chatInformationArray.length

def countMessages (k : MessengerMock) : ℕ :=
  (k.currentChatRoom.map fun room => room.messagesArray.length).getD 0

def addChat (k : MessengerMock) (nameDiscussion : String) (xCoordinate yCoordinate : Double)
    (now : Date) : Bool × MessengerMock :=
  let info : ChatInfo :=
    { name := nameDiscussion, timeCreate := now, xCoordinate := xCoordinate
      yCoordinate := yCoordinate, chatLink := "test", firebaseID := "test" }
  (true, { k with chatInformationArray := k.chatInformationArray ++ [info] })

def chatIsExist (k : MessengerMock) (name : String) : Bool :=
  k.chatInformationArray.any fun theChatInfo => theChatInfo.name == name

/-- Without a room the optional chaining appends nothing. -/
def sendMessage (k : MessengerMock) (owner message : String) (now : Date) : MessengerMock :=
  { k with currentChatRoom := k.currentChatRoom.map fun room =>
      room.appending ⟨owner, message, now⟩ }

/-- `timeSend` is the current date, whatever the index. -/
def getInfoAboutMessage (k : MessengerMock) (index : ℤ) (now : Date) :
    Option (Option String × Option String × Option Date) :=
  match k.currentChatRoom with
  | none => some (none, none, some now)
  | some room => do
    let message ← FirestoreMessenger.element room.messagesArray index
    let owner ← FirestoreMessenger.element room.ownersArray index
    return (some message, some owner, some now)

/-- Every name opens an empty room. -/
def startDiscussRoom (k : MessengerMock) (_name : String) : MessengerMock :=
  { k with currentChatRoom := some ⟨[], [], []⟩ }

def closeDiscussRoom (k : MessengerMock) : MessengerMock := { k with currentChatRoom := none }

/-- The index loop is the one of the messenger. -/
def deleteChat (k : MessengerMock) (name : String) : Option MessengerMock :=
  match FirestoreMessenger.indexDelete name k.chatInformationArray with
  | none => none
  | some index =>
    if index ≤ k.chatInformationArray.length then
      some { k with chatInformationArray := k.chatInformationArray.eraseIdx index }
    else some k

end MessengerMock

/-! ### Calls -/

/-- A call of one of the methods that both have. -/
inductive MessengerCall
  | addChat (nameDiscussion : String) (xCoordinate yCoordinate : Double) (now : Date)
      (roomID chatID : String)
  | chatIsExist (name : String)
  | startDiscussRoom (name : String)
  | sendMessage (owner message : String) (now : Date)
  | closeDiscussRoom
  | deleteChat (name : String)

/-- The messenger after a call without an answer from the network, and the `Bool` that
the call returns. -/
def FirestoreMessenger.respond (m : FirestoreMessenger) :
    MessengerCall → Option (FirestoreMessenger × List Bool)
  | .addChat nameDiscussion xCoordinate yCoordinate now roomID chatID =>
    let (added, m, _) := m.addChat nameDiscussion xCoordinate yCoordinate now roomID chatID
    some (m, [added])
  | .chatIsExist name => some (m, [m.chatIsExist name])
  | .startDiscussRoom name => some ((m.startDiscussRoom name).1, [])
  | .sendMessage owner message now => some ((m.sendMessage owner message now).1, [])
  | .closeDiscussRoom => some (m.closeDiscussRoom.1, [])
  | .deleteChat name => (m.deleteChat name).map fun result => (result.1, [])

def MessengerMock.respond (k : MessengerMock) :
    MessengerCall → Option (MessengerMock × List Bool)
  | .addChat nameDiscussion xCoordinate yCoordinate now _ _ =>
    let (added, k) := k.addChat nameDiscussion xCoordinate yCoordinate now
    some (k, [added])
  | .chatIsExist name => some (k, [k.chatIsExist name])
  | .startDiscussRoom name => some (k.startDiscussRoom name, [])
  | .sendMessage owner message now => some (k.sendMessage owner message now, [])
  | .closeDiscussRoom => some (k.closeDiscussRoom, [])
  | .deleteChat name => (k.deleteChat name).map fun k => (k, [])

/-- One call; the results are collected. -/
def replay {σ : Type} (respond : σ → MessengerCall → Option (σ × List Bool))
    (state : σ × List Bool) (call : MessengerCall) : Option (σ × List Bool) :=
  (respond state.1 call).map fun (after, returned) => (after, state.2 ++ returned)

/-- The calls on a fresh messenger and on a fresh double. -/
def FirestoreMessenger.replay (calls : List MessengerCall) :
    Option (FirestoreMessenger × List Bool) :=
  exec (OnMap.replay FirestoreMessenger.respond) ({}, []) calls

def MessengerMock.replay (calls : List MessengerCall) : Option (MessengerMock × List Bool) :=
  exec (OnMap.replay MessengerMock.respond) ({}, []) calls

/-- Nothing that can be asked tells the two apart. -/
structure Alike (m : FirestoreMessenger) (k : MessengerMock) : Prop where
  numberOfChats : m.numberOfChats = k.numberOfChats
  chatIsExist (name : String) : m.chatIsExist name = k.chatIsExist name
  countMessages : m.countMessages = k.countMessages
  getInfoAboutMessage (index : ℤ) (now : Date) :
    (m.getInfoAboutMessage index).map (fun info => (info.1, info.2.1)) =
      (k.getInfoAboutMessage index now).map fun info => (info.1, info.2.1)

/-- Both fail, or neither does and they have returned the same and are alike. -/
def BehaveAlike (calls : List MessengerCall) : Prop :=
  match FirestoreMessenger.replay calls, MessengerMock.replay calls with
  | none, none => True
  | some (m, returned), some (k, returned') => returned = returned' ∧ Alike m k
  | _, _ => False

/-! ### Names -/

section Names

/-- The names of the chats, in the order of the array. -/
def FirestoreMessenger.names (m : FirestoreMessenger) : List String :=
  m.chatInformationArray.map ChatInfo.name

def MessengerMock.names (k : MessengerMock) : List String :=
  k.chatInformationArray.map ChatInfo.name

theorem any_name (chats : List ChatInfo) (name : String) :
    (chats.any fun info => info.name == name) = decide (name ∈ chats.map ChatInfo.name) := by
  rw [Bool.eq_iff_iff]
  simp only [List.any_eq_true, beq_iff_eq, decide_eq_true_eq, List.mem_map]

theorem FirestoreMessenger.chatIsExist_eq (m : FirestoreMessenger) (name : String) :
    m.chatIsExist name = decide (name ∈ m.names) := any_name ..

theorem MessengerMock.chatIsExist_eq (k : MessengerMock) (name : String) :
    k.chatIsExist name = decide (name ∈ k.names) := any_name ..

theorem names_eraseP (chats : List ChatInfo) (name : String) :
    (chats.eraseP fun info => info.name == name).map ChatInfo.name =
      (chats.map ChatInfo.name).erase name := by
  rw [List.erase_eq_eraseP', List.eraseP_map]
  rfl

/-- A name that is listed is refused, another one is added. -/
theorem FirestoreMessenger.respond_addChat (m : FirestoreMessenger) (name : String) (x y : Double)
    (now : Date) (roomID chatID : String) :
    (name ∈ m.names ∧ m.respond (.addChat name x y now roomID chatID) = some (m, [false])) ∨
      name ∉ m.names ∧ ∃ m', m.respond (.addChat name x y now roomID chatID) = some (m', [true]) ∧
        m'.names = m.names ++ [name] ∧ m'.idDiscussion = m.idDiscussion ∧
          m'.currentChatRoom = m.currentChatRoom := by
  by_cases present : name ∈ m.names
  · refine Or.inl ⟨present, ?_⟩
    rw [respond, addChat, m.chatIsExist_eq, decide_eq_true present]
    rfl
  · have isNew : ¬ m.chatIsExist name = true := by simp [m.chatIsExist_eq, present]
    refine Or.inr ⟨present, (m.addChat name x y now roomID chatID).2.1, ?_, ?_, ?_, ?_⟩ <;>
      simp [respond, addChat, isNew, names]

/-- The double adds every name. -/
theorem MessengerMock.respond_addChat (k : MessengerMock) (name : String) (x y : Double)
    (now : Date) (roomID chatID : String) :
    ∃ k', k.respond (.addChat name x y now roomID chatID) = some (k', [true]) ∧
      k'.names = k.names ++ [name] ∧ k'.currentChatRoom = k.currentChatRoom :=
  ⟨(k.addChat name x y now).2, rfl, List.map_append, rfl⟩

/-- Without an answer no room is shown; there is a room to send to if the name is listed or
there was one before. -/
theorem FirestoreMessenger.respond_startDiscussRoom (m : FirestoreMessenger) (name : String) :
    ∃ m', m.respond (.startDiscussRoom name) = some (m', []) ∧ m'.names = m.names ∧
      (m'.idDiscussion.isSome = true ↔ name ∈ m.names ∨ m.idDiscussion.isSome = true) ∧
        m'.currentChatRoom = none := by
  have asks (m : FirestoreMessenger) : m.loadDiscussionRoom.1 = m := by
    rw [loadDiscussionRoom]
    cases m.idDiscussion <;> rfl
  refine ⟨(m.startDiscussRoom name).1, rfl, ?_, ?_, ?_⟩
  · rw [startDiscussRoom, asks]
    rfl
  · rw [startDiscussRoom_idDiscussion, Option.isSome_or, Bool.or_eq_true, Option.isSome_map,
      Option.isSome_iff_exists, ← chatIsExist_iff_find?, m.chatIsExist_eq, decide_eq_true_eq]
  · rw [startDiscussRoom, asks]

/-- There is a room after every message; the message is in it if there is a room to send to. -/
theorem FirestoreMessenger.respond_sendMessage (m : FirestoreMessenger) (owner message : String)
    (now : Date) : ∃ m', m.respond (.sendMessage owner message now) = some (m', []) ∧
      m'.names = m.names ∧ m'.idDiscussion = m.idDiscussion ∧
        m'.currentChatRoom = some (if m.idDiscussion.isSome = true then
            (m.currentChatRoom.getD .empty).appending ⟨owner, message, now⟩
          else m.currentChatRoom.getD .empty) := by
  refine ⟨(m.sendMessage owner message now).1, rfl, ?_⟩
  rw [sendMessage]
  cases m.idDiscussion <;> exact ⟨rfl, rfl, rfl⟩

/-- `deleteChat` needs a chat of the name and takes out the first one. -/
theorem FirestoreMessenger.respond_deleteChat (m : FirestoreMessenger) (name : String) :
    (name ∉ m.names ∧ m.respond (.deleteChat name) = none) ∨
      name ∈ m.names ∧ ∃ m', m.respond (.deleteChat name) = some (m', []) ∧
        m'.names = m.names.erase name ∧ m'.idDiscussion = m.idDiscussion ∧
          m'.currentChatRoom = m.currentChatRoom := by
  by_cases present : name ∈ m.names
  · obtain ⟨info, found⟩ :=
      chatIsExist_iff_find?.mp ((m.chatIsExist_eq name).trans (decide_eq_true present))
    have deleted := deleteChat_eq_some_iff.mpr ⟨info, found, rfl⟩
    refine Or.inr ⟨present, { m with
      chatInformationArray := m.chatInformationArray.eraseP fun info => info.name == name }, ?_,
      names_eraseP .., rfl, rfl⟩
    rw [respond, deleted, Option.map_some]
  · refine Or.inl ⟨present, ?_⟩
    cases deleted : m.deleteChat name with
    | none => rw [respond, deleted, Option.map_none]
    | some result =>
      obtain ⟨info, found, -⟩ := deleteChat_eq_some_iff.mp deleted
      have listed := chatIsExist_iff_find?.mpr ⟨info, found⟩
      rw [m.chatIsExist_eq name] at listed
      exact absurd (of_decide_eq_true listed) present

theorem MessengerMock.respond_deleteChat (k : MessengerMock) (name : String) :
    (name ∉ k.names ∧ k.respond (.deleteChat name) = none) ∨
      name ∈ k.names ∧ ∃ k', k.respond (.deleteChat name) = some (k', []) ∧
        k'.names = k.names.erase name ∧ k'.currentChatRoom = k.currentChatRoom := by
  rw [respond, deleteChat, FirestoreMessenger.indexDelete_eq_findIdx?]
  cases found : k.chatInformationArray.findIdx? fun info => info.name == name with
  | none =>
    refine Or.inl ⟨fun present => ?_, rfl⟩
    obtain ⟨info, here, named⟩ := List.mem_map.mp present
    have passed := List.findIdx?_eq_none_iff.mp found info here
    simp [named] at passed
  | some index =>
    obtain ⟨bound, hit, -⟩ := List.findIdx?_eq_some_iff_getElem.mp found
    refine Or.inr ⟨List.mem_map.mpr ⟨_, List.getElem_mem bound, by simpa using hit⟩,
      { k with chatInformationArray := k.chatInformationArray.eraseIdx index }, ?_, ?_, rfl⟩
    · simp only [if_pos (Nat.le_of_lt bound), Option.map_some]
    · rw [names, names, ← names_eraseP, List.eraseP_eq_eraseIdx, found]

end Names

end OnMap
