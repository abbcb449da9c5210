/-
# The messenger

`FirestoreMessenger` caches the list of chats and the room that is open, and
talks to Firestore. A method is a function on the cached fields; beside the new
fields it returns the calls it makes on the Firestore SDK, in their order. The
closures a method hands to the SDK are functions of their own (`handle…`).

Identifiers that the SDK generates and the current date are arguments. `none`
is a trap: a subscript out of range or a forced unwrapping of `nil`. A call of the
SDK may trap as well, on a path that names no document (`DocumentPath.isValid`);
the identifiers that the SDK generates are letters and digits, and name one.

Names are compared by Swift's `==`, which is canonical equivalence. A Lean `String`
stands for a Swift `String` up to it, so that `=` is this comparison.
-/

import Mathlib.Data.List.Infix
import OnMap.Messenger.Documents

namespace OnMap

/-- The collections `pathChats` and `pathRooms`. -/
inductive Collection | chats | rooms
  deriving DecidableEq, Repr

/-- `db.collection(collection).document(documentID)` -/
structure DocumentPath where
  collection : Collection
  documentID : String
  deriving DecidableEq, Repr

/-- `ResourcePath::FromString`: the segments between the slashes, where empty ones are
skipped; `none` is the assertion that fails on two slashes in a row. -/
def ResourcePath.fromString (path : String) : Option (List (List Char)) :=
  if ['/', '/'] <:+: path.toList then none
  else some ((path.toList.splitOn '/').filter (· ≠ []))

/-- `document(documentID)` on the collection is no trap: the path of a document has an
even number of segments. -/
def DocumentPath.isValid (path : DocumentPath) : Bool :=
  match ResourcePath.fromString path.documentID with
  | none => false
  | some segments => (1 + segments.length) % 2 == 0

/-- An identifier is a path of one segment. -/
theorem DocumentPath.isValid_of_not_mem {path : DocumentPath} (given : path.documentID ≠ "")
    (plain : '/' ∉ path.documentID.toList) : path.isValid = true := by
  have single : ¬ ['/', '/'] <:+: path.documentID.toList :=
    fun double => plain (double.subset List.mem_cons_self)
  have named : path.documentID.toList ≠ [] := by simpa using given
  rw [isValid, ResourcePath.fromString, if_neg single, List.splitOn_eq_singleton plain]
  simp [given]

/-- A write handed to the SDK. Each replaces or removes the whole document
without looking at what is stored. -/
inductive DocumentWrite
  | addDocument (path : DocumentPath) (data : Dictionary)
  | setData (path : DocumentPath) (data : Dictionary)
  | delete (path : DocumentPath)

/-- A call on the SDK. -/
inductive FirestoreCall
  | write (write : DocumentWrite)
  | getDocument (path : DocumentPath)
  | getDocuments (collection : Collection)
  | addSnapshotListener (path : DocumentPath) (registration : ℕ)
  | addCollectionListener (collection : Collection)
  | remove (registration : ℕ)

/-- One element of `querySnapshot.documentChanges`. -/
inductive DocumentChange
  | added (documentID : String) (data : Dictionary)
  | modified (documentID : String) (data : Dictionary)
  | removed (documentID : String) (data : Dictionary)

namespace DocumentChange

def documentID : DocumentChange → String
  | added documentID _ | modified documentID _ | removed documentID _ => documentID

/-- `document.data()`; a removed document still carries its last data. -/
def data : DocumentChange → Dictionary
  | added _ data | modified _ data | removed _ data => data

end DocumentChange

/-- The fields of the messenger. `listenerChat` is the registration of the
room listener that was set up last. -/
structure FirestoreMessenger where
  chatInformationArray : List ChatInfo := []
  idDiscussion : Option String := none
  currentChatRoom : Option ChatRoom := none
  listenerChat : Option ℕ := none

namespace FirestoreMessenger

/-- `firebaseID` of a chat whose document has not been added yet. -/
def placeholderID : String := "не добавлен еще"

def numberOfChats (m : FirestoreMessenger) : ℕ := m.chatInformationArray.length

def countMessages (m : FirestoreMessenger) : ℕ :=
  (m.currentChatRoom.map fun room => room.messagesArray.length).getD 0

/-! ### The list of chats -/

def setupObserverChats (m : FirestoreMessenger) : FirestoreMessenger × List FirestoreCall :=
  (m, [.addCollectionListener .chats])

/-- The list without the chat at index `c`, where `c` runs to the first chat of
the name; a document that cannot be decoded has no name and removes nothing. -/
def removeNamed (name : Option String) (chats : List ChatInfo) : List ChatInfo :=
  let c := chats.findIdx fun info => some info.name == name
  if c < chats.length then chats.eraseIdx c else chats

/-- The closure of `setupObserverChats` at one document change. -/
def handleChatsChange (m : FirestoreMessenger) : DocumentChange → Option FirestoreMessenger
  | .added _ data =>
    -- `ChatInfo(dictonary:)!` traps on a document that cannot be decoded
    match ChatInfo.ofDictonary data with
    | none => none
    | some info => some { m with chatInformationArray := m.chatInformationArray ++ [info] }
  -- there is no branch for a modified document
  | .modified _ _ => some m
  | .removed _ data =>
    let name := (ChatInfo.ofDictonary data).map ChatInfo.name
    some { m with chatInformationArray := removeNamed name m.chatInformationArray }

def chatIsExist (m : FirestoreMessenger) (name : String) : Bool :=
  m.chatInformationArray.any fun theChatInfo => theChatInfo.name == name

/-- `addChat`: the room document, then the chat document twice, since its own
identifier is known only after it has been added. -/
def addChat (m : FirestoreMessenger) (nameDiscussion : String) (xCoordinate yCoordinate : Double)
    (now : Date) (roomID chatID : String) : Bool × FirestoreMessenger × List FirestoreCall :=
  -- the guard looks at the cached list only
  if m.chatIsExist nameDiscussion then (false, m, []) else
    let newDiscussionRoom := ChatRoom.empty
    let newChatInformation : ChatInfo :=
      { name := nameDiscussion, timeCreate := now, xCoordinate := xCoordinate
        yCoordinate := yCoordinate, chatLink := roomID, firebaseID := placeholderID }
    let addedChatInformation := { newChatInformation with firebaseID := chatID }
    -- the list gets the corrected version at once, without waiting for the writes
    (true,
      { m with chatInformationArray := m.chatInformationArray ++ [addedChatInformation] },
      [.write (.addDocument ⟨.rooms, roomID⟩ newDiscussionRoom.dictonary),
       .write (.addDocument ⟨.chats, chatID⟩ newChatInformation.dictonary),
       .write (.setData ⟨.chats, chatID⟩ addedChatInformation.dictonary)])

def loadChatInfoArray (m : FirestoreMessenger) : FirestoreMessenger × List FirestoreCall :=
  (m, [.getDocuments .chats])

/-- The closure of `loadChatInfoArray`; `none` is an error. The list is
published inside the loop, once for each document. -/
def handleChatsReply (m : FirestoreMessenger) : Option (List Dictionary) → FirestoreMessenger
  | none => { m with chatInformationArray := [] }
  | some documents =>
    -- the local array and the published one; without documents nothing is published
    let loop := documents.foldl (fun (published : List ChatInfo × List ChatInfo) document =>
      let tempChatInfoArray := match ChatInfo.ofDictonary document with
        | some newChatInformation => published.1 ++ [newChatInformation]
        | none => published.1
      (tempChatInfoArray, tempChatInfoArray)) ([], m.chatInformationArray)
    { m with chatInformationArray := loop.2 }

/-- The index loop of `deleteChat`. Its bound lets it read one element past the
end, which traps. -/
def indexDelete (name : String) : List ChatInfo → Option ℕ
  | [] => none
  | info :: rest => if info.name = name then some 0 else (indexDelete name rest).map (· + 1)

def deleteChat (m : FirestoreMessenger) (name : String) :
    Option (FirestoreMessenger × List FirestoreCall) :=
  -- without a chat of the name both paths would stay empty
  let paths := match m.chatInformationArray.find? fun info => info.name == name with
    | some info => (info.firebaseID, info.chatLink)
    | none => ("", "")
  match indexDelete name m.chatInformationArray with
  | none => none
  | some index =>
    let chats := if index ≠ m.chatInformationArray.length
      then m.chatInformationArray.eraseIdx index else m.chatInformationArray
    some ({ m with chatInformationArray := chats },
      [.write (.delete ⟨.chats, paths.1⟩), .write (.delete ⟨.rooms, paths.2⟩)])

/-! ### The open room -/

def loadDiscussionRoom (m : FirestoreMessenger) : FirestoreMessenger × List FirestoreCall :=
  match m.idDiscussion with
  | none => (m, [])
  | some idChat => (m, [.getDocument ⟨.rooms, idChat⟩])

/-- The closures of `loadDiscussionRoom` and `setupObserverChatRoom`; a missing
document has no data and changes nothing. -/
def handleRoom (m : FirestoreMessenger) : Option Dictionary → FirestoreMessenger
  | none => m
  | some data => { m with currentChatRoom := ChatRoom.ofDictonary data }

def setupObserverChatRoom (m : FirestoreMessenger) (registration : ℕ) :
    FirestoreMessenger × List FirestoreCall :=
  match m.idDiscussion with
  | none => (m, [])
  | some documentPath =>
    ({ m with listenerChat := some registration },
      [.addSnapshotListener ⟨.rooms, documentPath⟩ registration])

def sendMessage (m : FirestoreMessenger) (owner message : String) (now : Date) :
    FirestoreMessenger × List FirestoreCall :=
  -- a missing room is replaced by an empty one before the guard on `idDiscussion`
  let room := m.currentChatRoom.getD .empty
  match m.idDiscussion with
  | none => ({ m with currentChatRoom := some room }, [])
  | some chatLink =>
    let room := room.appending ⟨owner, message, now⟩
    ({ m with currentChatRoom := some room },
      [.write (.setData ⟨.rooms, chatLink⟩ room.dictonary)])

/-- An array subscript; out of range it traps. -/
def element {β : Type} (elements : List β) (index : ℤ) : Option β :=
  if index < 0 then none else elements[index.toNat]?

/-- `getInfoAboutMessage`: message, owner and time at the index, each `nil` when
no room is loaded. -/
def getInfoAboutMessage (m : FirestoreMessenger) (index : ℤ) :
    Option (Option String × Option String × Option Date) :=
  match m.currentChatRoom with
  | none => some (none, none, none)
  | some room => do
    -- the three subscripts are checked one by one
    let message ← element room.messagesArray index
    let owner ← element room.ownersArray index
    let time ← element room.timesArray index
    return (some message, some owner, some time)

/-- `getInfoAboutChat`: name, time, coordinates and room of the chat at the index. No field
of a chat is optional, so the branch with the name "error" is never taken. -/
def getInfoAboutChat (m : FirestoreMessenger) (index : ℤ) :
    Option (String × Date × Double × Double × String) := do
  let info ← element m.chatInformationArray index
  return (info.name, info.timeCreate, info.xCoordinate, info.yCoordinate, info.chatLink)

/-- The loop of `startDiscussRoom`: the first chat of the name decides, and
without one the previous room stays. -/
def startDiscussRoom (m : FirestoreMessenger) (name : String) :
    FirestoreMessenger × List FirestoreCall :=
  let idDiscussion := match m.chatInformationArray.find? fun info => info.name == name with
    | some info => some info.chatLink
    | none => m.idDiscussion
  loadDiscussionRoom { m with currentChatRoom := none, idDiscussion := idDiscussion }

def deleteObserverChatRoom (m : FirestoreMessenger) : List FirestoreCall :=
  (m.listenerChat.map FirestoreCall.remove).toList

def closeDiscussRoom (m : FirestoreMessenger) : FirestoreMessenger × List FirestoreCall :=
  -- `idDiscussion` and `listenerChat` are not cleared
  ({ m with currentChatRoom := none }, m.deleteObserverChatRoom)

/-! ### What the methods do -/

section Lemmas

variable {m : FirestoreMessenger} {name : String}

theorem chatIsExist_iff :
    m.chatIsExist name = true ↔ ∃ info ∈ m.chatInformationArray, info.name = name := by
  simp [chatIsExist]

/-- The removal loop of the chats listener takes out the first chat of the name. -/
theorem removeNamed_some (name : String) (chats : List ChatInfo) :
    removeNamed (some name) chats = chats.eraseP fun info => info.name == name := by
  have same : (fun info : ChatInfo => some info.name == some name) =
      fun info => info.name == name := by
    funext info
    simp
  rw [removeNamed, same, List.eraseP_eq_eraseIdx, List.findIdx?_eq_guard_findIdx_lt, Option.guard]
  by_cases found : chats.findIdx (fun info => info.name == name) < chats.length <;> simp [found]

theorem removeNamed_sublist (name : Option String) (chats : List ChatInfo) :
    (removeNamed name chats).Sublist chats := by
  rw [removeNamed]
  split
  · exact List.eraseIdx_sublist ..
  · exact List.Sublist.refl _

/-- The index loop of `deleteChat` traps exactly when no chat has the name. -/
theorem indexDelete_eq_findIdx? (name : String) (chats : List ChatInfo) :
    indexDelete name chats = chats.findIdx? fun info => info.name == name := by
  induction chats with
  | nil => rfl
  | cons info rest ih =>
    rw [indexDelete, List.findIdx?_cons, ih]
    by_cases same : info.name = name <;> simp [same]

/-- `deleteChat` takes out the first chat of the name and deletes the two
documents that this entry names. -/
theorem deleteChat_eq_some_iff {result : FirestoreMessenger × List FirestoreCall} :
    m.deleteChat name = some result ↔
      ∃ info, m.chatInformationArray.find? (fun info => info.name == name) = some info ∧
        result = ({ m with chatInformationArray :=
            m.chatInformationArray.eraseP fun info => info.name == name },
          [.write (.delete ⟨.chats, info.firebaseID⟩),
           .write (.delete ⟨.rooms, info.chatLink⟩)]) := by
  rw [deleteChat, indexDelete_eq_findIdx?, List.eraseP_eq_eraseIdx]
  -- the loop that looks for the paths and the one that looks for the index agree
  cases index : m.chatInformationArray.findIdx? fun info => info.name == name with
  | none =>
    have absent : m.chatInformationArray.find? (fun info => info.name == name) = none :=
      List.find?_eq_none.mpr fun info h => by simp [List.findIdx?_eq_none_iff.mp index info h]
    simp [absent]
  | some i =>
    obtain ⟨bound, hit, -⟩ := List.findIdx?_eq_some_iff_getElem.mp index
    have present : (m.chatInformationArray.find? fun info => info.name == name).isSome :=
      List.find?_isSome.mpr ⟨_, List.getElem_mem bound, hit⟩
    obtain ⟨info, found⟩ := Option.isSome_iff_exists.mp present
    simp [found, Nat.ne_of_lt bound, eq_comm]

/-- `deleteChat` is no trap, nor are its calls. It takes out the first chat of the name,
wherever it is, and deletes the two documents that this chat names; without a chat of the
name it does nothing. -/
def DeletesExactly (m : FirestoreMessenger) (name : String) : Prop :=
  ∃ m' calls, m.deleteChat name = some (m', calls) ∧
    (∀ path, .write (.delete path) ∈ calls → path.isValid = true) ∧
    (∀ before info after, m.chatInformationArray = before ++ info :: after →
      (∀ other ∈ before, other.name ≠ name) → info.name = name →
        m'.chatInformationArray = before ++ after ∧
          calls = [.write (.delete ⟨.chats, info.firebaseID⟩),
            .write (.delete ⟨.rooms, info.chatLink⟩)]) ∧
    ((∀ info ∈ m.chatInformationArray, info.name ≠ name) →
      m'.chatInformationArray = m.chatInformationArray ∧ ∀ path, .write (.delete path) ∉ calls)

/-- A chat of the name is listed, and the first one names two documents. -/
def NamesDocuments (m : FirestoreMessenger) (name : String) : Prop :=
  ∃ info, m.chatInformationArray.find? (fun info => info.name == name) = some info ∧
    DocumentPath.isValid ⟨.chats, info.firebaseID⟩ = true ∧
      DocumentPath.isValid ⟨.rooms, info.chatLink⟩ = true

/-- The first of several chats of a name is the one found and taken out. -/
theorem first_of_name {before after : List ChatInfo} {info : ChatInfo}
    (first : ∀ other ∈ before, other.name ≠ name) (named : info.name = name) :
    (before ++ info :: after).find? (fun info => info.name == name) = some info ∧
      (before ++ info :: after).eraseP (fun info => info.name == name) = before ++ after := by
  have passed : ∀ other ∈ before, ¬ (other.name == name) = true :=
    fun other h => by simp [first other h]
  refine ⟨?_, ?_⟩
  · rw [List.find?_append, List.find?_eq_none.mpr passed, Option.none_or]
    exact List.find?_cons_of_pos (beq_iff_eq.mpr named)
  · have here : (info.name == name) = true := beq_iff_eq.mpr named
    rw [List.eraseP_append_right _ passed, List.eraseP_cons, here, cond_true]

/-- A name exists if the search for it finds a chat. -/
theorem chatIsExist_iff_find? : m.chatIsExist name = true ↔
    ∃ info, m.chatInformationArray.find? (fun info => info.name == name) = some info := by
  rw [← Option.isSome_iff_exists, List.find?_isSome, chatIsExist_iff]
  simp only [beq_iff_eq]

/-- `deleteChat` is safe and exact exactly on the names of the list whose first chat names
two documents. -/
theorem deletesExactly_iff (m : FirestoreMessenger) (name : String) :
    m.DeletesExactly name ↔ m.NamesDocuments name := by
  constructor
  · rintro ⟨m', calls, deleted, valid, -⟩
    obtain ⟨info, found, result⟩ := deleteChat_eq_some_iff.mp deleted
    obtain ⟨rfl, rfl⟩ := Prod.mk.inj result
    refine ⟨info, found, valid _ List.mem_cons_self, valid _ ?_⟩
    exact List.mem_cons_of_mem _ List.mem_cons_self
  · rintro ⟨info, found, validInfo, validRoom⟩
    refine ⟨_, _, deleteChat_eq_some_iff.mpr ⟨info, found, rfl⟩, ?_, ?_, ?_⟩
    · intro path deleted
      simp only [List.mem_cons, FirestoreCall.write.injEq, DocumentWrite.delete.injEq,
        List.not_mem_nil, or_false] at deleted
      obtain rfl | rfl := deleted
      · exact validInfo
      · exact validRoom
    · intro before first after list passed named
      obtain ⟨foundFirst, erased⟩ := first_of_name passed named
      rw [list] at found
      obtain rfl := Option.some.inj (foundFirst.symm.trans found)
      exact ⟨by rw [list, erased], rfl⟩
    · intro absent
      obtain ⟨info, here, named⟩ :=
        chatIsExist_iff.mp (chatIsExist_iff_find?.mpr ⟨info, found⟩)
      exact absurd named (absent info here)

/-- The chat is removed remotely while its screen is open; the delete button of the screen
is a trap. -/
theorem not_deletesExactly_removed : ∃ m',
    handleChatsChange { chatInformationArray := [⟨"дом", 0, ⟨0⟩, ⟨0⟩, "r1", "c1"⟩] }
        (.removed "c1" (ChatInfo.stored ⟨"дом", 0, ⟨0⟩, ⟨0⟩, "r1", "c1"⟩)) = some m' ∧
      ¬ m'.DeletesExactly "дом" := by
  refine ⟨{}, rfl, ?_⟩
  rintro ⟨m', calls, deleted, -⟩
  cases deleted

/-- A reply without documents leaves the list as it was. -/
@[simp] theorem handleChatsReply_nil : m.handleChatsReply (some []) = m := rfl

private theorem publishing_loop (documents : List Dictionary) (temp published : List ChatInfo) :
    documents.foldl (fun (published : List ChatInfo × List ChatInfo) document =>
      let tempChatInfoArray := match ChatInfo.ofDictonary document with
        | some newChatInformation => published.1 ++ [newChatInformation]
        | none => published.1
      (tempChatInfoArray, tempChatInfoArray)) (temp, published) =
    (temp ++ documents.filterMap ChatInfo.ofDictonary,
      if documents = [] then published else temp ++ documents.filterMap ChatInfo.ofDictonary) := by
  -- over the documents; the published array is the old one until the first of them
  induction documents generalizing temp published with
  | nil => simp
  | cons document rest ih =>
    rw [List.foldl_cons, ih]
    cases decoded : ChatInfo.ofDictonary document <;> cases rest <;> simp [decoded]

/-- A reply with documents replaces the list by the documents that decode. -/
theorem handleChatsReply_of_ne_nil {documents : List Dictionary} (h : documents ≠ []) :
    m.handleChatsReply (some documents) =
      { m with chatInformationArray := documents.filterMap ChatInfo.ofDictonary } := by
  rw [handleChatsReply, publishing_loop, if_neg h, List.nil_append]

/-- The list after a reply holds old entries and decoded documents only. -/
theorem mem_handleChatsReply {reply : Option (List Dictionary)} {info : ChatInfo}
    (h : info ∈ (m.handleChatsReply reply).chatInformationArray) :
    info ∈ m.chatInformationArray ∨
      ∃ documents, reply = some documents ∧
        ∃ data ∈ documents, ChatInfo.ofDictonary data = some info := by
  cases reply with
  | none => cases h
  | some documents =>
    by_cases empty : documents = []
    · rw [empty, handleChatsReply_nil] at h
      exact Or.inl h
    · rw [handleChatsReply_of_ne_nil empty] at h
      exact Or.inr ⟨documents, rfl, List.mem_filterMap.mp h⟩

@[simp] theorem handleChatsReply_currentChatRoom (reply : Option (List Dictionary)) :
    (m.handleChatsReply reply).currentChatRoom = m.currentChatRoom := by
  cases reply <;> rfl

@[simp] theorem handleChatsReply_idDiscussion (reply : Option (List Dictionary)) :
    (m.handleChatsReply reply).idDiscussion = m.idDiscussion := by
  cases reply <;> rfl

@[simp] theorem handleChatsReply_listenerChat (reply : Option (List Dictionary)) :
    (m.handleChatsReply reply).listenerChat = m.listenerChat := by
  cases reply <;> rfl

/-- A document change touches the list only: it appends the decoded document,
takes out the first chat of the name, or does nothing. -/
theorem handleChatsChange_eq_some {change : DocumentChange} {m' : FirestoreMessenger}
    (h : m.handleChatsChange change = some m') :
    ∃ chats, m' = { m with chatInformationArray := chats } ∧
      ((∃ chatID data info, change = .added chatID data ∧ ChatInfo.ofDictonary data = some info ∧
          chats = m.chatInformationArray ++ [info]) ∨
        (∃ chatID data, change = .modified chatID data ∧ chats = m.chatInformationArray) ∨
        ∃ chatID data, change = .removed chatID data ∧
          chats = removeNamed ((ChatInfo.ofDictonary data).map ChatInfo.name)
            m.chatInformationArray) := by
  cases change with
  | added chatID data =>
    cases decoded : ChatInfo.ofDictonary data with
    | none => simp [handleChatsChange, decoded] at h
    | some info =>
      simp only [handleChatsChange, decoded, Option.some.injEq] at h
      exact ⟨_, h.symm, Or.inl ⟨chatID, data, info, rfl, decoded, rfl⟩⟩
  | modified chatID data =>
    obtain rfl := Option.some.inj h
    exact ⟨_, rfl, Or.inr (Or.inl ⟨chatID, data, rfl, rfl⟩)⟩
  | removed chatID data =>
    obtain rfl := Option.some.inj h
    exact ⟨_, rfl, Or.inr (Or.inr ⟨chatID, data, rfl, rfl⟩)⟩

/-- `startDiscussRoom` opens the room of the first chat of the name, or keeps the
room when there is none. -/
theorem startDiscussRoom_idDiscussion (m : FirestoreMessenger) (name : String) :
    (m.startDiscussRoom name).1.idDiscussion =
      ((m.chatInformationArray.find? fun info => info.name == name).map ChatInfo.chatLink).or
        m.idDiscussion := by
  rw [startDiscussRoom, loadDiscussionRoom]
  cases m.chatInformationArray.find? fun info => info.name == name with
  | none => cases m.idDiscussion <;> rfl
  | some info => rfl

end Lemmas

end FirestoreMessenger

end OnMap
