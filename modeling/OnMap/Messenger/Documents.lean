/-
# Chat documents and room documents

`ChatInfo` describes a chat on the map; its document lives in the collection
`chats` and names the room document, in `rooms`, that holds the messages.
`ChatRoom` keeps the messages in three parallel arrays.

Encoder and decoder are written key by key as in the source. Decoding what
Firestore returns for an encoded value gives the value back.
-/

import OnMap.Firestore.Value
import Mathlib.Data.List.Induction
import Mathlib.Data.Nat.Notation

namespace OnMap

/-- A chat: its name, place and time of creation, the identifier of its room
(`chatLink`) and the identifier of its own document (`firebaseID`). -/
structure ChatInfo where
  name : String
  timeCreate : Date
  xCoordinate : Double
  yCoordinate : Double
  chatLink : String
  firebaseID : String
  deriving DecidableEq, Repr

namespace ChatInfo

/-- `ChatInfo.dictonary` -/
def dictonary (info : ChatInfo) : Dictionary :=
  .ofPairs
    [("name", .string info.name),
     ("timeCreate", .date info.timeCreate),
     ("xCoordinate", .double info.xCoordinate),
     ("yCoordinate", .double info.yCoordinate),
     ("chatLink", .string info.chatLink),
     ("firebaseID", .string info.firebaseID)]

/-- `ChatInfo.init?(dictonary:)` over the cast `as? Double` of the coordinates. -/
def decode (asDouble : Value → Option Double) (dictonary : Dictionary) : Option ChatInfo := do
  let name ← (dictonary "name").bind Value.asString
  let timeStamp ← (dictonary "timeCreate").bind Value.asTimestamp
  let xCoordinate ← (dictonary "xCoordinate").bind asDouble
  let yCoordinate ← (dictonary "yCoordinate").bind asDouble
  let chatLink ← (dictonary "chatLink").bind Value.asString
  let firebaseID ← (dictonary "firebaseID").bind Value.asString
  return {
    name := name
    timeCreate := timeStamp.dateValue
    xCoordinate := xCoordinate
    yCoordinate := yCoordinate
    chatLink := chatLink
    firebaseID := firebaseID }

/-- `ChatInfo.init?(dictonary:)` -/
def ofDictonary (dictonary : Dictionary) : Option ChatInfo := decode Value.asDouble dictonary

/-- The dictionary Firestore returns for a stored chat. -/
def stored (info : ChatInfo) : Dictionary := info.dictonary.store

@[simp] theorem ofDictonary_stored (info : ChatInfo) : ofDictonary info.stored = some info := rfl

theorem stored_injective : Function.Injective stored := by
  intro first second same
  have decoded := congrArg ofDictonary same
  rwa [ofDictonary_stored, ofDictonary_stored, Option.some_inj] at decoded

end ChatInfo

/-- What one `sendMessage` call carries: the sender, the text and the time. -/
structure Message where
  owner : String
  message : String
  date : Date
  deriving DecidableEq, Repr

/-- The messages of one chat, in three parallel arrays. -/
structure ChatRoom where
  ownersArray : List String
  messagesArray : List String
  timesArray : List Date
  deriving DecidableEq, Repr

namespace ChatRoom

/-- `ChatRoom.init()` -/
def empty : ChatRoom := ⟨[], [], []⟩

/-- `ChatRoom.dictonary` -/
def dictonary (room : ChatRoom) : Dictionary :=
  .ofPairs
    [("ownersArray", .array (room.ownersArray.map .string)),
     ("messagesArray", .array (room.messagesArray.map .string)),
     ("timesArray", .array (room.timesArray.map .date))]

/-- `ChatRoom.init?(dictonary:)` -/
def ofDictonary (dictonary : Dictionary) : Option ChatRoom := do
  let ownersArray ← (dictonary "ownersArray").bind (Value.asArray Value.asString)
  let messagesArray ← (dictonary "messagesArray").bind (Value.asArray Value.asString)
  let timesArray ← (dictonary "timesArray").bind (Value.asArray Value.asTimestamp)
  return {
    ownersArray := ownersArray
    messagesArray := messagesArray
    timesArray := timesArray.map Timestamp.dateValue }

/-- The dictionary Firestore returns for a stored room. -/
def stored (room : ChatRoom) : Dictionary := room.dictonary.store

@[simp] theorem ofDictonary_stored (room : ChatRoom) : ofDictonary room.stored = some room := by
  have owners : room.stored "ownersArray" =
      some (Value.store (.array (room.ownersArray.map .string))) := rfl
  have messages : room.stored "messagesArray" =
      some (Value.store (.array (room.messagesArray.map .string))) := rfl
  have times : room.stored "timesArray" =
      some (Value.store (.array (room.timesArray.map .date))) := rfl
  simp [ofDictonary, owners, messages, times, Value.asArray_asString_store,
    Value.asArray_asTimestamp_store, Function.comp_def]

/-- The room with one more message at the end of each array. -/
def appending (room : ChatRoom) (m : Message) : ChatRoom where
  ownersArray := room.ownersArray ++ [m.owner]
  messagesArray := room.messagesArray ++ [m.message]
  timesArray := room.timesArray ++ [m.date]

/-- The messages of the room, read across the three arrays as
`getInfoAboutMessage` does, as far as all three reach. -/
def messages (room : ChatRoom) : List Message :=
  List.zipWith (fun owner rest => ⟨owner, rest.1, rest.2⟩) room.ownersArray
    (room.messagesArray.zip room.timesArray)

/-- The three arrays have the same length. -/
def Aligned (room : ChatRoom) : Prop :=
  room.ownersArray.length = room.messagesArray.length ∧
    room.timesArray.length = room.messagesArray.length

theorem aligned_empty : empty.Aligned := ⟨rfl, rfl⟩

theorem Aligned.appending {room : ChatRoom} (h : room.Aligned) (m : Message) :
    (room.appending m).Aligned := by
  simp [Aligned, ChatRoom.appending, h.1, h.2]

@[simp] theorem messages_empty : empty.messages = [] := rfl

theorem Aligned.messages_appending {room : ChatRoom} (h : room.Aligned) (m : Message) :
    (room.appending m).messages = room.messages ++ [m] := by
  -- both zips end together, so the new message is the last one of each
  have rest : (room.messagesArray.zip room.timesArray).length = room.ownersArray.length := by
    simp [h.1, h.2]
  rw [messages, ChatRoom.appending, List.zip_append h.2.symm, List.zipWith_append rest.symm]
  rfl

/-- A message of the room is what the three arrays hold at its index. -/
theorem getElem?_messages {room : ChatRoom} {index : ℕ} {m : Message} :
    room.messages[index]? = some m ↔
      room.ownersArray[index]? = some m.owner ∧ room.messagesArray[index]? = some m.message ∧
        room.timesArray[index]? = some m.date := by
  have arrays : (room.messagesArray.zip room.timesArray)[index]? = some (m.message, m.date) ↔
      room.messagesArray[index]? = some m.message ∧ room.timesArray[index]? = some m.date :=
    List.getElem?_zip_eq_some
  rw [messages, List.getElem?_zipWith, ← arrays]
  constructor
  · intro here
    cases owner : room.ownersArray[index]? with
    | none => simp [owner] at here
    | some first =>
      cases rest : (room.messagesArray.zip room.timesArray)[index]? with
      | none => simp [owner, rest] at here
      | some pair =>
        simp only [owner, rest, Option.some.injEq] at here
        exact here ▸ ⟨rfl, rfl⟩
  · rintro ⟨owner, rest⟩
    rw [owner, rest]

theorem Aligned.length_messages {room : ChatRoom} (h : room.Aligned) :
    room.messages.length = room.messagesArray.length := by
  simp [messages, h.1, h.2]

end ChatRoom

end OnMap
