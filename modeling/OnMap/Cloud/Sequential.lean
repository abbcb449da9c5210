/-
# One call at a time

Calls that overlap can undo each other: writes replace whole documents, and a device decides
by what it has heard so far. A name that is not listed leaves the chat opened before open.
When each call waits until the writes before it are applied, is made on a device that has
heard of them, and opens no unlisted name after a chat, and when the lists follow their
listeners, the documents are the board: every run of this kind, of any number of devices and
with any interleaving of what the system does in between, changes the stored chats as the same
calls change the board.
-/

import OnMap.Cloud.Authorship
import OnMap.Cloud.Board
import OnMap.Cloud.Convergence
import OnMap.Cloud.Names

namespace OnMap

open Overlay Transition

variable {κ : Type}

/-- The messages of a stored room. -/
def storedMessages (documents : Documents) (roomID : String) : List Message :=
  (((documents ⟨.rooms, roomID⟩).bind ChatRoom.ofDictonary).map ChatRoom.messages).getD []

/-- The chat that is stored under an identifier, with the messages of its room. -/
def postedChat (documents : Documents) (chatID : String) : Option PostedChat :=
  ((documents ⟨.chats, chatID⟩).bind ChatInfo.ofDictonary).map fun info =>
    { chatID := chatID, name := info.name, xCoordinate := info.xCoordinate
      yCoordinate := info.yCoordinate, timeCreate := info.timeCreate
      messages := storedMessages documents info.chatLink }

/-- The stored chats are those of the board; a room that no stored chat links to is on none. -/
def ShowsBoard (documents : Documents) (b : Board κ) : Prop :=
  ∀ p, p ∈ b.chats ↔ postedChat documents p.chatID = some p

/-- A created chat on the board. -/
def Creation.posted (m : Creation κ) (messages : List Message) : PostedChat :=
  { chatID := m.chatID, name := m.name, xCoordinate := m.xCoordinate
    yCoordinate := m.yCoordinate, timeCreate := m.timeCreate, messages := messages }

namespace Creation

variable {m m' : Creation κ} {documents : Documents} {writes : List DocumentWrite}

/-- Writes to the two documents of a chat leave all others alone. -/
theorem overlay_of_ne (only : ∀ w ∈ writes, w.path = m.chatPath ∨ w.path = m.roomPath)
    {path : DocumentPath} (chat : path ≠ m.chatPath) (room : path ≠ m.roomPath) :
    overlay documents (writes.map DocumentWrite.toWrite) path = documents path := by
  refine overlay_of_forall_ne fun w hw => ?_
  obtain ⟨issue, hissue, rfl⟩ := List.mem_map.mp hw
  rcases only issue hissue with same | same
  · exact fun here => chat (here.symm.trans same)
  · exact fun here => room (here.symm.trans same)

theorem writes_paths (m : Creation κ) :
    ∀ w ∈ m.writes, w.path = m.chatPath ∨ w.path = m.roomPath := by
  intro w hw
  simp only [writes, List.mem_cons, List.not_mem_nil, or_false] at hw
  rcases hw with rfl | rfl | rfl
  · exact Or.inr rfl
  · exact Or.inl rfl
  · exact Or.inl rfl

/-- The writes of `deleteChat` for an entry that knows its document. -/
def deletions (m : Creation κ) : List DocumentWrite := [.delete m.chatPath, .delete m.roomPath]

theorem deletions_paths (m : Creation κ) :
    ∀ w ∈ m.deletions, w.path = m.chatPath ∨ w.path = m.roomPath := by
  intro w hw
  simp only [deletions, List.mem_cons, List.not_mem_nil, or_false] at hw
  rcases hw with rfl | rfl
  · exact Or.inl rfl
  · exact Or.inr rfl

/-- After `addChat` both documents are stored. -/
theorem overlay_writes (m : Creation κ) (documents : Documents) :
    overlay documents (m.writes.map DocumentWrite.toWrite) m.chatPath = some m.corrected.stored ∧
      overlay documents (m.writes.map DocumentWrite.toWrite) m.roomPath =
        some ChatRoom.empty.stored := by
  have apart := roomPath_ne_chatPath m m
  refine ⟨Function.update_self .., ?_⟩
  change Function.update (Function.update (Function.update documents m.roomPath
    (some ChatRoom.empty.stored)) m.chatPath (some m.placeholder.stored)) m.chatPath
    (some m.corrected.stored) m.roomPath = _
  rw [Function.update_of_ne apart, Function.update_of_ne apart, Function.update_self]

/-- After `deleteChat` the chat is gone. -/
theorem overlay_deletions (m : Creation κ) (documents : Documents) :
    overlay documents (m.deletions.map DocumentWrite.toWrite) m.chatPath = none := by
  change Function.update (Function.update documents m.chatPath none) m.roomPath none
    m.chatPath = none
  rw [Function.update_of_ne (roomPath_ne_chatPath m m).symm, Function.update_self]

end Creation

section Stored

variable {s : Cloud κ} {documents documents' : Documents} {chatID : String} {m : Creation κ}
  {p : PostedChat} {b : Board κ}

/-- A stored chat depends on its own document and on its room. -/
theorem postedChat_congr (chat : documents' ⟨.chats, chatID⟩ = documents ⟨.chats, chatID⟩)
    (room : ∀ info, (documents ⟨.chats, chatID⟩).bind ChatInfo.ofDictonary = some info →
      documents' ⟨.rooms, info.chatLink⟩ = documents ⟨.rooms, info.chatLink⟩) :
    postedChat documents' chatID = postedChat documents chatID := by
  rw [postedChat, postedChat, chat]
  cases stored : (documents ⟨.chats, chatID⟩).bind ChatInfo.ofDictonary with
  | none => rfl
  | some info => rw [Option.map_some, Option.map_some, storedMessages, room info stored,
      storedMessages]

/-- A version of a created chat is shown as the chat. -/
theorem postedChat_of_version {info : ChatInfo} (version : m.Version info)
    (stored : documents m.chatPath = some info.stored) :
    postedChat documents m.chatID = some (m.posted (storedMessages documents m.roomID)) := by
  have here : documents ⟨.chats, m.chatID⟩ = some info.stored := stored
  rw [postedChat, here, Option.bind_some, ChatInfo.ofDictonary_stored, Option.map_some]
  rcases version with rfl | rfl <;> rfl

theorem Provenance.postedChat_eq (origins : Provenance s) (hm : m ∈ s.created)
    (stored : (s.documents m.chatPath).isSome = true) :
    postedChat s.documents m.chatID =
      some (m.posted (storedMessages s.documents m.roomID)) := by
  obtain ⟨data, hdata⟩ := Option.isSome_iff_exists.mp stored
  obtain ⟨info, version, rfl⟩ := origins.version_of_stored hm hdata
  exact postedChat_of_version version hdata

/-- What is shown under an identifier is a created chat. -/
theorem Provenance.exists_of_postedChat (origins : Provenance s)
    (shown : postedChat s.documents chatID = some p) :
    ∃ m ∈ s.created, m.chatID = chatID ∧ (s.documents m.chatPath).isSome = true ∧
      p = m.posted (storedMessages s.documents m.roomID) := by
  obtain ⟨info, decoded, -⟩ := Option.map_eq_some_iff.mp shown
  obtain ⟨data, hdata, -⟩ := Option.bind_eq_some_iff.mp decoded
  obtain ⟨m, hm, rfl, -⟩ := origins.data.documents _ data hdata
  have stored : (s.documents m.chatPath).isSome = true := Option.isSome_of_eq_some hdata
  rw [origins.postedChat_eq hm stored] at shown
  exact ⟨m, hm, rfl, stored, (Option.some.inj shown).symm⟩

/-- A stored chat is on the board. -/
theorem ShowsBoard.posted_mem (shows : ShowsBoard s.documents b) (origins : Provenance s)
    (hm : m ∈ s.created) (stored : (s.documents m.chatPath).isSome = true) :
    m.posted (storedMessages s.documents m.roomID) ∈ b.chats :=
  (shows _).mpr (origins.postedChat_eq hm stored)

/-- The rest of the board is as it was when a step writes to one chat and its room only. -/
theorem Provenance.postedChat_of_ne (origins : Provenance s)
    (rooms : ∀ m' ∈ s.created, m'.roomID = m.roomID → m'.chatID = m.chatID)
    (other : chatID ≠ m.chatID)
    (same : ∀ path, path ≠ m.chatPath → path ≠ m.roomPath → documents' path = s.documents path) :
    postedChat documents' chatID = postedChat s.documents chatID := by
  refine postedChat_congr (same _ (fun eq => other (congrArg DocumentPath.documentID eq)) nofun) ?_
  intro info decoded
  refine same _ nofun fun eq => ?_
  obtain ⟨data, hdata, hinfo⟩ := Option.bind_eq_some_iff.mp decoded
  obtain ⟨m', hm', rfl, _, version, rfl, -⟩ := origins.data.documents _ data hdata
  rw [ChatInfo.ofDictonary_stored, Option.some.injEq] at hinfo
  subst hinfo
  -- the room is that of another creation
  exact other (rooms m' hm' (version.chatLink.symm.trans (congrArg DocumentPath.documentID eq)))

end Stored

namespace ShowsBoard

/-! ### The three calls that write -/

variable {s : Cloud κ} {b : Board κ} {m : Creation κ}

/-- `addChat` under a name that is not in use adds the chat to the board. -/
theorem add (shows : ShowsBoard s.documents b) (origins : Provenance s)
    (fresh : ∀ m' ∈ s.created, m'.chatID ≠ m.chatID ∧ m'.roomID ≠ m.roomID)
    (unused : ∀ p ∈ b.chats, p.name ≠ m.name) :
    ShowsBoard (overlay s.documents (m.writes.map DocumentWrite.toWrite))
      (b.add (m.posted [])) := by
  let after := overlay s.documents (m.writes.map DocumentWrite.toWrite)
  obtain ⟨chat, room⟩ := m.overlay_writes s.documents
  have new : postedChat after m.chatID = some (m.posted []) := by
    rw [postedChat_of_version (Or.inr rfl) chat, storedMessages, ← Creation.roomPath, room,
      Option.bind_some, ChatRoom.ofDictonary_stored]
    rfl
  have untaken (p : PostedChat) (hp : p ∈ b.chats) : p.chatID ≠ m.chatID := by
    intro same
    obtain ⟨m', hm', id, -⟩ := origins.exists_of_postedChat ((shows p).mp hp)
    exact (fresh m' hm').1 (id.trans same)
  have free : (m.posted []).chatID ∉ b.chats.map PostedChat.chatID ∧
      (m.posted []).name ∉ b.chats.map PostedChat.name := by
    constructor <;> intro used <;> obtain ⟨p, hp, same⟩ := List.mem_map.mp used
    · exact untaken p hp same
    · exact unused p hp same
  intro p
  rw [Board.mem_add]
  by_cases own : p.chatID = m.chatID
  · rw [own, show postedChat (overlay _ _) m.chatID = _ from new, Option.some.injEq]
    exact ⟨fun h => (h.resolve_left fun old => untaken p old own).1.symm,
      fun same => Or.inr ⟨same.symm, free⟩⟩
  · have rest : postedChat after p.chatID = postedChat s.documents p.chatID := by
      refine origins.postedChat_of_ne (m := m)
        (fun m' hm' same => absurd same (fresh m' hm').2) own
        fun path => Creation.overlay_of_ne m.writes_paths
    rw [show postedChat (overlay _ _) p.chatID = _ from rest, ← shows p]
    exact ⟨fun h => h.resolve_right fun last => own (congrArg PostedChat.chatID last.1), Or.inl⟩

/-- Deleting the two documents of a chat takes it off the board. -/
theorem delete (shows : ShowsBoard s.documents b) (origins : Provenance s) (hm : m ∈ s.created)
    (stored : (s.documents m.chatPath).isSome = true) :
    ShowsBoard (overlay s.documents (m.deletions.map DocumentWrite.toWrite))
      (b.delete m.name) := by
  let after := overlay s.documents (m.deletions.map DocumentWrite.toWrite)
  have gone : after m.chatPath = none := m.overlay_deletions s.documents
  have here := shows.posted_mem origins hm stored
  intro p
  rw [Board.mem_delete]
  by_cases own : p.chatID = m.chatID
  · -- the chat of this identifier has the name
    have none : postedChat after m.chatID = none := by
      rw [postedChat, ← Creation.chatPath, gone]
      rfl
    rw [own, show postedChat (overlay _ _) m.chatID = _ from none]
    constructor
    · rintro ⟨hp, named⟩
      rw [Board.eq_of_chatID hp here own] at named
      exact absurd rfl named
    · intro shown
      cases shown
  · have rest : postedChat after p.chatID = postedChat s.documents p.chatID := by
      refine origins.postedChat_of_ne
        (fun m' hm' same => congrArg Creation.chatID (origins.eq_of_roomID hm' hm same)) own
        fun path => Creation.overlay_of_ne m.deletions_paths
    rw [show postedChat (overlay _ _) p.chatID = _ from rest, ← shows p]
    refine ⟨And.left, fun hp => ⟨hp, fun named => own ?_⟩⟩
    rw [Board.eq_of_name hp here named]
    rfl

/-- Writing the stored room with one more message adds the message to the chat, if the
chat is still stored. -/
theorem say (shows : ShowsBoard s.documents b) (origins : Provenance s) (hm : m ∈ s.created)
    {user : κ} (opened : b.opened user = some m.chatID) {room : ChatRoom} {message : Message}
    (loaded : (s.documents m.chatPath).isSome = true →
      storedMessages s.documents m.roomID ++ [message] = room.messages) :
    ShowsBoard (overlay s.documents
      ([.setData m.roomPath room.dictonary].map DocumentWrite.toWrite)) (b.say user message) := by
  let after := overlay s.documents
    ([.setData m.roomPath room.dictonary].map DocumentWrite.toWrite)
  have written : after ⟨.rooms, m.roomID⟩ = some room.stored := Function.update_self ..
  have chat : after m.chatPath = s.documents m.chatPath := by
    change Function.update s.documents m.roomPath (some room.stored) m.chatPath = _
    rw [Function.update_of_ne (Creation.roomPath_ne_chatPath m m).symm]
  have rest {chatID : String} (other : chatID ≠ m.chatID) :
      postedChat after chatID = postedChat s.documents chatID := by
    refine origins.postedChat_of_ne
      (fun m' hm' same => congrArg Creation.chatID (origins.eq_of_roomID hm' hm same)) other
      fun path => Creation.overlay_of_ne fun w hw => Or.inr (congrArg _ (List.mem_singleton.mp hw))
  intro p
  rw [Board.mem_say, opened]
  by_cases own : p.chatID = m.chatID
  · rw [own]
    cases stored : s.documents m.chatPath with
    | none =>
      -- the chat has been deleted; its room alone is on no board
      have none : postedChat after m.chatID = none := by
        rw [postedChat, ← Creation.chatPath, chat, stored]
        rfl
      rw [show postedChat (overlay _ _) m.chatID = _ from none]
      constructor
      · rintro ⟨q, hq, same⟩
        have shown := (shows q).mp hq
        have id : q.chatID = m.chatID := by
          rw [same] at own
          split at own <;> exact own
        rw [id, postedChat, ← Creation.chatPath, stored] at shown
        cases shown
      · intro shown
        cases shown
    | some data =>
      have present : (s.documents m.chatPath).isSome = true := Option.isSome_of_eq_some stored
      obtain ⟨info, version, rfl⟩ := origins.version_of_stored hm stored
      have here := shows.posted_mem origins hm present
      have now : postedChat after m.chatID =
          some ((m.posted (storedMessages s.documents m.roomID)).saying message) := by
        rw [postedChat_of_version version (chat.trans stored), storedMessages, written,
          Option.bind_some, ChatRoom.ofDictonary_stored, Option.map_some, Option.getD_some,
          ← loaded present]
        rfl
      rw [show postedChat (overlay _ _) m.chatID = _ from now, Option.some.injEq]
      constructor
      · rintro ⟨q, hq, rfl⟩
        have id : q.chatID = m.chatID := by
          split at own <;> exact own
        rw [Board.eq_of_chatID hq here id]
        exact (if_pos rfl).symm
      · rintro rfl
        exact ⟨_, here, (if_pos rfl).symm⟩
  · rw [show postedChat (overlay _ _) p.chatID = _ from rest own, ← shows p]
    constructor
    · rintro ⟨q, hq, rfl⟩
      split at own
      · next same => exact absurd (Option.some.inj same).symm own
      · rwa [if_neg (by assumption)]
    · exact fun hp => ⟨p, hp, (if_neg fun same => own (Option.some.inj same).symm).symm⟩

end ShowsBoard

namespace Cloud

/-! ### Writes that are on their way -/

/-- The documents when every write is applied; one device at most has writes waiting. -/
structure Eventually (s : Cloud κ) (documents : Documents) : Prop where
  one : ∀ c c', c ≠ c' → (s.devices c).pending = [] ∨ (s.devices c').pending = []
  writer : ∀ c, (s.devices c).pending ≠ [] → s.view c = documents
  settled : s.Settled → s.documents = documents

theorem view_of_settled {s : Cloud κ} (settled : s.Settled) (c : κ) : s.view c = s.documents := by
  rw [view, Device.view, settled c]
  rfl

section Eventually

variable [DecidableEq κ] {s t : Cloud κ} {a : Action κ} {documents : Documents}

/-- What the system does leads to the same documents. -/
theorem Eventually.system (h : s.Eventually documents) (hstep : s.step a = some t)
    (system : OfSystem a) : t.Eventually documents := by
  have none : (s.devices a.client).issues a.event = [] := by
    rw [Device.issues, Device.method_eq_none_of_system system]
    rfl
  rcases step_documents_cases hstep with ⟨unapplied, same⟩ | ⟨w, rest, applied, queue, -, left⟩
  · have pending (c : κ) : (t.devices c).pending = (s.devices c).pending := by
      by_cases acting : c = a.client
      · rw [acting, Device.step_pending (step_device hstep) unapplied, none, List.append_nil]
      · rw [step_devices_of_ne hstep acting]
    refine ⟨fun c c' other => ?_, fun c busy => ?_, fun settled => ?_⟩
    · rw [pending, pending]
      exact h.one c c' other
    · rw [pending] at busy
      rw [← h.writer c busy, view, view, Device.view, Device.view, pending, same]
    · rw [same]
      exact h.settled fun c => (pending c).symm.trans (settled c)
  · -- the device that writes is the only one, and goes on seeing the same
    have busy : (s.devices a.client).pending ≠ [] := queue ▸ List.cons_ne_nil _ _
    have idle (c : κ) (other : c ≠ a.client) : (t.devices c).pending = [] := by
      rw [step_devices_of_ne hstep other]
      exact (h.one c a.client other).resolve_right busy
    have shown : t.view a.client = documents := by
      rw [view_step_own hstep, none]
      exact h.writer a.client busy
    refine ⟨fun c c' other => ?_, fun c busy => ?_, fun settled => ?_⟩
    · by_cases acting : c = a.client
      · exact Or.inr (idle c' fun same => other (acting.trans same.symm))
      · exact Or.inl (idle c acting)
    · by_cases acting : c = a.client
      · rwa [acting]
      · exact absurd (idle c acting) busy
    · rw [← shown, view_of_settled settled]

/-- A call that is made when nothing is waiting adds its writes. -/
theorem Eventually.call (settled : s.Settled) (hstep : s.step a = some t) :
    t.Eventually (overlay s.documents
      (((s.devices a.client).issues a.event).map DocumentWrite.toWrite)) := by
  have idle (c : κ) (other : c ≠ a.client) : (t.devices c).pending = [] := by
    rw [step_devices_of_ne hstep other]
    exact settled c
  have shown := view_step_own hstep
  rw [view_of_settled settled] at shown
  refine ⟨fun c c' other => ?_, fun c busy => ?_, fun settled' => ?_⟩
  · by_cases acting : c = a.client
    · exact Or.inr (idle c' fun same => other (acting.trans same.symm))
    · exact Or.inl (idle c acting)
  · by_cases acting : c = a.client
    · rwa [acting]
    · exact absurd (idle c acting) busy
  · rw [← shown, view_of_settled settled']

end Eventually

/-! ### Calls made one at a time -/

/-- The device has loaded the room that it has open, if the room is stored. -/
def Loaded (s : Cloud κ) (c : κ) : Prop :=
  ∀ roomID ∈ (s.devices c).messenger.idDiscussion,
    ∀ room ∈ (s.documents ⟨.rooms, roomID⟩).bind ChatRoom.ofDictonary,
      (s.devices c).messenger.currentChatRoom = some room

instance (s : Cloud κ) (c : κ) : Decidable (s.Loaded c) :=
  inferInstanceAs (Decidable (∀ roomID ∈ _, ∀ room ∈ _, _ = some room))

/-- A call is made when no write is waiting anywhere, and on a device that has heard of the
chats or has loaded the room that it is about; what `deleteChat` finds knows its document, and
a name that is not listed is opened only before any chat is. The lists go on following their
listeners. -/
structure OneAtATime (s : Cloud κ) (a : Action κ) : Prop where
  keepsList : s.KeepsList a
  settled : a.event.ofSystem = false → s.Settled
  heard : match a.event with
    | .addChat .. | .deleteChat _ | .startDiscussRoom _ => s.UpToDate a.client
    | .sendMessage .. => s.Loaded a.client
    | _ => True
  finished : ∀ name, a.event = .deleteChat name →
    ∀ info ∈ (s.devices a.client).messenger.chatInformationArray.find?
      (fun info => info.name == name), info.firebaseID ≠ FirestoreMessenger.placeholderID
  listed : ∀ name, a.event = .startDiscussRoom name →
    (s.devices a.client).messenger.chatIsExist name = true ∨
      (s.devices a.client).messenger.idDiscussion = none

/-- The calls are recorded on the board. -/
def noteBoard [DecidableEq κ] (_ : Cloud κ) (a : Action κ) (b : Board κ) : Board κ := b.perform a

/-- The device has open what the user has open on the board. -/
def Opens (s : Cloud κ) (b : Board κ) (c : κ) : Prop :=
  (s.devices c).messenger.idDiscussion = none ∧ b.opened c = none ∨
    ∃ m ∈ s.created, (s.devices c).messenger.idDiscussion = some m.roomID ∧
      b.opened c = some m.chatID

/-- The documents are the board, and every stored chat has its room. -/
structure AreBoard (created : List (Creation κ)) (documents : Documents) (b : Board κ) : Prop where
  shows : ShowsBoard documents b
  rooms : ∀ m ∈ created, (documents m.chatPath).isSome = true →
    (documents m.roomPath).isSome = true

/-- What every call finds, in whatever the system is doing meanwhile. -/
structure Sequential (s : Cloud κ) (b : Board κ) : Prop where
  origins : Provenance s
  follows : ∀ c, s.FollowsChats c
  aligned : ∃ calls, (RoomProperty.everywhere κ (ChatRoom.SublistOf calls)).Holds s
  documents : ∃ documents, s.Eventually documents ∧ AreBoard s.created documents b
  opened : ∀ c, s.Opens b c

section Heard

variable {s : Cloud κ} {b : Board κ} {c : κ}

/-- A device that has heard of all chats lists the names on the board. -/
theorem chatIsExist_iff_board (shows : ShowsBoard s.documents b) (origins : Provenance s)
    (follows : s.FollowsChats c) (heard : s.UpToDate c) {name : String} :
    (s.devices c).messenger.chatIsExist name = true ↔ ∃ p ∈ b.chats, p.name = name := by
  rw [FirestoreMessenger.chatIsExist_iff]
  constructor
  · rintro ⟨info, listed, rfl⟩
    obtain ⟨m, hm, version⟩ := origins.version_of_entry listed
    have stored := (follows.listed_iff heard m.chatID).mp
      ⟨m, hm, rfl, entriesOf_pos.mpr ⟨info, listed, version.chatLink⟩⟩
    exact ⟨_, shows.posted_mem origins hm stored, version.name.symm⟩
  · rintro ⟨p, hp, rfl⟩
    obtain ⟨m, hm, -, stored, rfl⟩ := origins.exists_of_postedChat ((shows p).mp hp)
    obtain ⟨info, listed, link⟩ := entriesOf_pos.mp ((origins.listed_iff hm _).mp
      ((follows.listed_iff heard m.chatID).mpr stored))
    exact ⟨info, listed, (origins.version_of_link listed hm link).name⟩

/-- The stored chats have the names of the board, so no name twice. -/
theorem ShowsBoard.uniqueNames (shows : ShowsBoard s.documents b) : UniqueNames s.documents := by
  have posted {chatID name : String} (stored : chatName s.documents chatID = some name) :
      ∃ p ∈ b.chats, p.chatID = chatID ∧ p.name = name := by
    obtain ⟨info, decoded, rfl⟩ := Option.map_eq_some_iff.mp stored
    refine ⟨⟨chatID, info.name, info.xCoordinate, info.yCoordinate, info.timeCreate,
      storedMessages s.documents info.chatLink⟩, (shows _).mpr ?_, rfl, rfl⟩
    rw [postedChat, decoded]
    rfl
  intro chatID chatID' name first second
  obtain ⟨p, hp, rfl, named⟩ := posted first
  obtain ⟨q, hq, rfl, named'⟩ := posted second
  rw [Board.eq_of_name hp hq (named.trans named'.symm)]

/-- What is opened by name is the chat of the name on the board. -/
theorem startDiscussRoom_opens (shows : ShowsBoard s.documents b) (origins : Provenance s)
    (follows : s.FollowsChats c) (heard : s.UpToDate c) [DecidableEq κ] (name : String)
    (listed : (s.devices c).messenger.chatIsExist name = true ∨
      (s.devices c).messenger.idDiscussion = none)
    {t : Cloud κ} (created : t.created = s.created)
    (opens : (t.devices c).messenger.idDiscussion =
      ((s.devices c).messenger.startDiscussRoom name).1.idDiscussion) :
    t.Opens (b.openChat c name) c := by
  by_cases named : ∃ p ∈ b.chats, p.name = name
  · obtain ⟨p, hp, rfl⟩ := named
    obtain ⟨m, hm, -, stored, rfl⟩ := origins.exists_of_postedChat ((shows p).mp hp)
    obtain ⟨data, hdata⟩ := Option.isSome_iff_exists.mp stored
    obtain ⟨info, version, rfl⟩ := origins.version_of_stored hm hdata
    have name_stored : chatName s.documents m.chatID = some m.name := by
      rw [chatName, ← Creation.chatPath, hdata, Option.bind_some, ChatInfo.ofDictonary_stored,
        Option.map_some, version.name]
    refine Or.inr ⟨m, created ▸ hm, ?_, ?_⟩
    · exact opens.trans (opens_stored origins (ShowsBoard.uniqueNames shows) follows heard hm
        name_stored)
    · rw [Board.openChat_of_mem hp]
      rfl
  · -- without such a chat nothing is opened, and nothing was open
    have unlisted : ¬ (s.devices c).messenger.chatIsExist name = true := fun listed =>
      named ((chatIsExist_iff_board shows origins follows heard).mp listed)
    have absent : (s.devices c).messenger.chatInformationArray.find?
        (fun info => info.name == name) = none := by
      rw [Option.eq_none_iff_forall_not_mem]
      exact fun info found => unlisted
        (FirestoreMessenger.chatIsExist_iff_find?.mpr ⟨info, found⟩)
    rw [FirestoreMessenger.startDiscussRoom_idDiscussion, absent, Option.map_none,
      Option.none_or, listed.resolve_left unlisted] at opens
    exact Or.inl ⟨opens, Board.openChat_of_forall_ne (fun p hp same => named ⟨p, hp, same⟩) c⟩

end Heard

section Step

variable [DecidableEq κ] {s t : Cloud κ} {a : Action κ} {b : Board κ}

omit [DecidableEq κ] in
/-- The other calls write nothing. -/
theorem issues_of_silent (s : Cloud κ) (silent : match a.event with
    | .addChat .. | .deleteChat _ | .sendMessage .. => False
    | _ => True) : (s.devices a.client).issues a.event = [] := by
  rcases s.issues_cases a with none | ⟨m, creates, -⟩ | ⟨_, _, event, -⟩ | ⟨_, _, _, _, event, -⟩
  · exact none
  · rw [creates.event] at silent
    exact silent.elim
  · rw [event] at silent
    exact silent.elim
  · rw [event] at silent
    exact silent.elim

/-- Only `startDiscussRoom` opens a chat. -/
theorem perform_opened (kept : ∀ name, a.event ≠ .startDiscussRoom name) :
    (b.perform a).opened = b.opened := by
  obtain ⟨c, event⟩ := a
  cases event with
  | startDiscussRoom name => exact absurd rfl (kept name)
  | addChat => exact Board.add_opened ..
  | _ => rfl

/-- What is open on the board is what is open on the devices. -/
theorem Sequential.opens_step (h : s.Sequential b) (guard : s.OneAtATime a)
    (hstep : s.step a = some t)
    (shows : a.event.ofSystem = false → ShowsBoard s.documents b) (c : κ) :
    t.Opens (b.perform a) c := by
  have more := step_created_subset hstep
  have kept {b' : Board κ} (same : b'.opened c = b.opened c)
      (opened : (t.devices c).messenger.idDiscussion = (s.devices c).messenger.idDiscussion) :
      t.Opens b' c := by
    rw [Opens, same, opened]
    exact (h.opened c).imp_right fun ⟨m, hm, both⟩ => ⟨m, more hm, both⟩
  by_cases starts : ∃ name, a.event = .startDiscussRoom name
  · obtain ⟨name, event⟩ := starts
    have performed : b.perform a = b.openChat a.client name := by rw [Board.perform, event]
    by_cases acting : c = a.client
    · subst acting
      rw [performed]
      have heard : s.UpToDate a.client := by simpa only [event] using guard.heard
      have created : t.created = s.created := by rw [step_created hstep, createdAfter, event]
      have taken := step_device hstep
      rw [event] at taken
      refine startDiscussRoom_opens (shows (by rw [event]; rfl)) h.origins (h.follows _) heard name
        (guard.listed name event) created ?_
      rw [Device.step_of_method rfl taken, Device.call_messenger]
    · refine kept ?_ (by rw [step_devices_of_ne hstep acting])
      rw [performed]
      exact Board.openChat_opened_of_ne acting b name
  · have quiet : ∀ name, a.event ≠ .startDiscussRoom name := fun name same => starts ⟨name, same⟩
    refine kept (by rw [perform_opened quiet]) ?_
    by_cases acting : c = a.client
    · rw [acting]
      exact Device.step_idDiscussion (step_device hstep) quiet
    · rw [step_devices_of_ne hstep acting]

omit [DecidableEq κ] in
/-- Other chats keep their rooms when two documents of one chat are written. -/
theorem AreBoard.room_of_ne (h : AreBoard s.created s.documents b) {m m' : Creation κ}
    {writes : List DocumentWrite}
    (only : ∀ w ∈ writes, w.path = m.chatPath ∨ w.path = m.roomPath) (hm' : m' ∈ s.created)
    (chat : m'.chatID ≠ m.chatID) (room : m'.roomID ≠ m.roomID)
    (stored : (overlay s.documents (writes.map DocumentWrite.toWrite) m'.chatPath).isSome = true) :
    (overlay s.documents (writes.map DocumentWrite.toWrite) m'.roomPath).isSome = true := by
  rw [Creation.overlay_of_ne only (fun same => chat (congrArg DocumentPath.documentID same))
    (Creation.roomPath_ne_chatPath m m').symm] at stored
  rw [Creation.overlay_of_ne only (Creation.roomPath_ne_chatPath m' m)
    fun same => room (congrArg DocumentPath.documentID same)]
  exact h.rooms m' hm' stored

theorem AreBoard.addChat (h : AreBoard s.created s.documents b) (origins : Provenance s)
    {m : Creation κ} (creates : s.Creates a m) (hstep : s.step a = some t)
    (unused : ∀ p ∈ b.chats, p.name ≠ m.name) :
    AreBoard t.created (overlay s.documents
      (((s.devices a.client).issues a.event).map DocumentWrite.toWrite)) (b.perform a) := by
  have fresh := (creates.fresh hstep).1
  have performed : b.perform a = b.add (m.posted []) := by
    rw [Board.perform, creates.event]
    rfl
  rw [creates.issues, performed]
  refine ⟨h.shows.add origins fresh unused, fun m' hm' stored => ?_⟩
  rcases step_created_cases hstep with ⟨none, -⟩ | ⟨m₁, again, added⟩
  · exact absurd creates (none m)
  rw [added] at hm'
  rcases List.mem_append.mp hm' with old | new
  · obtain ⟨chat, room⟩ := fresh m' old
    exact h.room_of_ne m.writes_paths old chat room stored
  · -- the new chat has its room
    have room : m'.roomPath = m.roomPath := by
      obtain ⟨-, -, -, -, room, -⟩ := Event.addChat.inj (again.event.symm.trans creates.event)
      rw [List.mem_singleton.mp new, Creation.roomPath, Creation.roomPath, room]
    rw [room, (m.overlay_writes s.documents).2]
    rfl

theorem AreBoard.deleteChat (h : AreBoard s.created s.documents b) (origins : Provenance s)
    {c : κ} {name : String} (follows : s.FollowsChats c) (heard : s.UpToDate c) {info : ChatInfo}
    (found : (s.devices c).messenger.chatInformationArray.find? (fun info => info.name == name) =
      some info) (finished : info.firebaseID ≠ FirestoreMessenger.placeholderID) :
    AreBoard s.created (overlay s.documents
      (((s.devices c).issues (.deleteChat name)).map DocumentWrite.toWrite)) (b.delete name) := by
  have listed := List.mem_of_find?_eq_some found
  obtain ⟨m, hm, version⟩ := origins.version_of_entry listed
  have stored := (follows.listed_iff heard m.chatID).mp
    ⟨m, hm, rfl, entriesOf_pos.mpr ⟨info, listed, version.chatLink⟩⟩
  obtain rfl := version.eq_corrected finished
  obtain rfl : m.name = name := by simpa using List.find?_some found
  have issued : (s.devices c).issues (.deleteChat m.name) = m.deletions := by
    have deleted := FirestoreMessenger.deleteChat_eq_some_iff.mpr ⟨m.corrected, found, rfl⟩
    simp [Device.issues, Device.method, deleted, Creation.deletions, Creation.chatPath,
      Creation.roomPath]
  rw [issued]
  refine ⟨h.shows.delete origins hm stored, fun m' hm' here => ?_⟩
  by_cases own : m' = m
  · rw [own, m.overlay_deletions] at here
    cases here
  · exact h.room_of_ne m.deletions_paths hm'
      (fun same => own (origins.eq_of_chatID hm' hm same))
      (fun same => own (origins.eq_of_roomID hm' hm same)) here

/-- The device has loaded what is stored, so it writes back the stored messages and one more. -/
theorem AreBoard.sendMessage (h : AreBoard s.created s.documents b) (origins : Provenance s)
    {calls : List Message}
    (aligned : (RoomProperty.everywhere κ (ChatRoom.SublistOf calls)).Holds s) {c : κ}
    (loaded : s.Loaded c) {m : Creation κ} (hm : m ∈ s.created)
    (opened : (s.devices c).messenger.idDiscussion = some m.roomID)
    (posted : b.opened c = some m.chatID) (message : Message) :
    AreBoard s.created (overlay s.documents
      (((s.devices c).issues (.sendMessage message.owner message.message message.date)).map
        DocumentWrite.toWrite)) (b.say c message) := by
  let room := ((s.devices c).messenger.currentChatRoom.getD .empty).appending message
  have issued : (s.devices c).issues (.sendMessage message.owner message.message message.date) =
      [.setData m.roomPath room.dictonary] := by
    rw [Device.issues_sendMessage, opened]
    rfl
  rw [issued]
  have only : ∀ w ∈ [DocumentWrite.setData m.roomPath room.dictonary],
      w.path = m.chatPath ∨ w.path = m.roomPath :=
    fun w hw => Or.inr (congrArg _ (List.mem_singleton.mp hw))
  refine ⟨h.shows.say origins hm posted fun stored => ?_, fun m' hm' here => ?_⟩
  · obtain ⟨data, hdata⟩ := Option.isSome_iff_exists.mp (h.rooms m hm stored)
    obtain ⟨old, decoded, sublist⟩ := aligned.documents m.roomPath data hdata rfl
    have here : (s.documents ⟨.rooms, m.roomID⟩).bind ChatRoom.ofDictonary = some old := by
      rw [← Creation.roomPath, hdata, Option.bind_some, decoded]
    have cached := loaded m.roomID opened old here
    have appended : room = old.appending message := by
      simp only [room, cached, Option.getD_some]
    rw [storedMessages, here, appended, sublist.1.messages_appending]
    rfl
  · by_cases own : m' = m
    · rw [own]
      exact Option.isSome_of_eq_some (Function.update_self ..)
    · exact h.room_of_ne only hm' (fun same => own (origins.eq_of_chatID hm' hm same))
        (fun same => own (origins.eq_of_roomID hm' hm same)) here

/-- Each call changes the documents as it changes the board. -/
theorem Sequential.areBoard_step (h : s.Sequential b) (guard : s.OneAtATime a)
    (hstep : s.step a = some t) (call : a.event.ofSystem = false)
    (now : AreBoard s.created s.documents b) :
    AreBoard t.created (overlay s.documents
      (((s.devices a.client).issues a.event).map DocumentWrite.toWrite)) (b.perform a) := by
  have settled := guard.settled call
  -- a call without writes leaves the documents and the chats of the board
  have quiet (none : (s.devices a.client).issues a.event = [])
      (created : t.created = s.created) (chats : (b.perform a).chats = b.chats) :
      AreBoard t.created (overlay s.documents
        (((s.devices a.client).issues a.event).map DocumentWrite.toWrite)) (b.perform a) := by
    rw [none, created]
    exact ⟨fun p => by rw [chats]; exact now.shows p, now.rooms⟩
  obtain ⟨c, event⟩ := a
  cases event with
  | addChat name x y time roomID chatID =>
    have heard : s.UpToDate c := guard.heard
    by_cases used : (s.devices c).messenger.chatIsExist name = true
    · obtain ⟨p, hp, named⟩ :=
        (chatIsExist_iff_board now.shows h.origins (h.follows c) heard).mp used
      refine quiet ?_ ?_ (congrArg Board.chats (Board.add_of_name_mem hp named))
      · simp [Device.issues, Device.method, FirestoreMessenger.addChat, used]
      · rw [step_created hstep]
        exact if_pos used
    · exact now.addChat h.origins (creates_addChat (by simpa using used)) hstep
        fun p hp named => used
          ((chatIsExist_iff_board now.shows h.origins (h.follows c) heard).mpr ⟨p, hp, named⟩)
  | deleteChat name =>
    have heard : s.UpToDate c := guard.heard
    obtain ⟨result, called, -⟩ := Option.map_eq_some_iff.mp (step_device hstep)
    obtain ⟨info, found, -⟩ := FirestoreMessenger.deleteChat_eq_some_iff.mp called
    rw [step_created hstep]
    exact now.deleteChat h.origins (h.follows c) heard found (guard.finished name rfl info found)
  | startDiscussRoom name =>
    exact quiet (issues_of_silent s (a := ⟨c, _⟩) trivial) (step_created hstep) rfl
  | sendMessage owner message time =>
    obtain ⟨calls, aligned⟩ := h.aligned
    have loaded : s.Loaded c := guard.heard
    rcases h.opened c with ⟨closed, unposted⟩ | ⟨m, hm, opened, posted⟩
    · refine quiet ?_ (step_created hstep) ?_
      · rw [Device.issues_sendMessage, closed]
        rfl
      · exact Board.say_chats_of_opened_eq_none unposted _
    · rw [step_created hstep]
      exact now.sendMessage h.origins aligned loaded hm opened posted ⟨owner, message, time⟩
  | setupObserverChats | loadChatInfoArray | loadDiscussionRoom | setupObserverChatRoom |
      closeDiscussRoom =>
    exact quiet (issues_of_silent s (a := ⟨c, _⟩) trivial) (step_created hstep) rfl
  | _ => cases call

/-- Every step keeps the documents and the board together. -/
theorem Sequential.step (h : s.Sequential b) (guard : s.OneAtATime a)
    (hstep : s.step a = some t) : t.Sequential (b.perform a) := by
  obtain ⟨calls, aligned⟩ := h.aligned
  obtain ⟨documents, eventually, board⟩ := h.documents
  have there (call : a.event.ofSystem = false) : AreBoard s.created s.documents b := by
    rw [eventually.settled (guard.settled call)]
    exact board
  refine ⟨h.origins.step hstep,
    fun c => (h.follows c).step h.origins (fun _ => guard.keepsList) hstep,
    ⟨_, sublistOf_step aligned hstep⟩, ?_, h.opens_step guard hstep fun call => (there call).shows⟩
  cases call : a.event.ofSystem with
  | false =>
    exact ⟨_, .call (guard.settled call) hstep, h.areBoard_step guard hstep call (there call)⟩
  | true =>
    have idle : b.perform a = b := by
      obtain ⟨c, event⟩ := a
      cases event <;> first | rfl | cases call
    rw [idle, created_of_system hstep call]
    exact ⟨documents, eventually.system hstep call, board⟩

end Step

theorem sequential_init : (init : Cloud κ).Sequential (Board.empty κ) where
  origins := Provenance.init
  follows := followsChats_init
  aligned := ⟨[], RoomProperty.holds_init _⟩
  documents := ⟨fun _ => none,
    ⟨fun _ _ _ => Or.inl rfl, fun _ busy => absurd rfl busy, fun _ => rfl⟩,
    fun _ => iff_of_false List.not_mem_nil nofun, fun _ hm => by cases hm⟩
  opened _ := Or.inl ⟨rfl, rfl⟩

/-- What a user reads in the open chat is what is written there on the board. -/
theorem Sequential.messages {s : Cloud κ} {b : Board κ} (h : s.Sequential b)
    (board : AreBoard s.created s.documents b) {c : κ} (loaded : s.Loaded c) {p : PostedChat}
    (hp : p ∈ b.chats) (opened : b.opened c = some p.chatID) :
    (s.devices c).messenger.currentChatRoom.map ChatRoom.messages = some p.messages := by
  obtain ⟨calls, aligned⟩ := h.aligned
  obtain ⟨m, hm, -, stored, rfl⟩ := h.origins.exists_of_postedChat ((board.shows p).mp hp)
  rcases h.opened c with ⟨-, none⟩ | ⟨m', hm', discussion, posted⟩
  · rw [none] at opened
    cases opened
  obtain rfl := h.origins.eq_of_chatID hm' hm (Option.some.inj (posted.symm.trans opened))
  obtain ⟨data, hdata⟩ := Option.isSome_iff_exists.mp (board.rooms m' hm stored)
  obtain ⟨room, decoded, -⟩ := aligned.documents m'.roomPath data hdata rfl
  have here : (s.documents ⟨.rooms, m'.roomID⟩).bind ChatRoom.ofDictonary = some room := by
    rw [← Creation.roomPath, hdata, Option.bind_some, decoded]
  rw [loaded m'.roomID discussion room here, Creation.posted, storedMessages, here]
  rfl

/-- When each call waits for the writes before it and is made as `OneAtATime` says, the cloud is
the board: whenever no write is waiting, the stored chats are those of the board, an up-to-date
device lists their names, and a device that has loaded the chat it has open shows the messages of
this chat. -/
theorem sequential [DecidableEq κ] {labels : List (Action κ)}
    (guard : EveryStep (watch step noteBoard) (fun sb a => sb.1.OneAtATime a)
      (init, Board.empty κ) labels) :
    EveryState (watch step noteBoard) (fun sb => sb.1.Settled →
      ShowsBoard sb.1.documents sb.2 ∧
        (∀ c, sb.1.UpToDate c → ∀ name, (sb.1.devices c).messenger.chatIsExist name = true ↔
          ∃ p ∈ sb.2.chats, p.name = name) ∧
        ∀ c, sb.1.Loaded c → ∀ p ∈ sb.2.chats, sb.2.opened c = some p.chatID →
          (sb.1.devices c).messenger.currentChatRoom.map ChatRoom.messages = some p.messages)
      (init, Board.empty κ) labels := by
  refine EveryState.of_guarded_invariant (I := fun sb : Cloud κ × Board κ => sb.1.Sequential sb.2)
    (watch_kept_of_guard fun s b a t h guard hstep => h.step guard hstep) ?_ sequential_init guard
  rintro ⟨s, b⟩ h settled
  obtain ⟨documents, eventually, board⟩ := h.documents
  rw [← eventually.settled settled] at board
  exact ⟨board.shows, fun c heard name => chatIsExist_iff_board board.shows h.origins (h.follows c)
    heard, fun c loaded p hp opened => h.messages board loaded hp opened⟩

/-- The device has heard of all chats, as far as it can be decided. -/
def Hears (s : Cloud κ) (c : κ) : Prop :=
  (s.devices c).changes = [] ∧ (s.devices c).reported.isSome = true ∧
    ∀ told ∈ (s.devices c).reported, ∀ m ∈ s.created, (told m.chatID).bind ChatInfo.ofDictonary =
      (s.documents m.chatPath).bind ChatInfo.ofDictonary

instance (s : Cloud κ) (c : κ) : Decidable (s.Hears c) :=
  inferInstanceAs (Decidable (_ = [] ∧ _ ∧ ∀ told ∈ _, ∀ m ∈ _, _ = _))

theorem Hears.upToDate {s : Cloud κ} {c : κ} (h : s.Hears c) (origins : Provenance s) :
    s.UpToDate c := by
  obtain ⟨told, listening⟩ := Option.isSome_iff_exists.mp h.2.1
  exact ⟨h.1, told, listening, origins.told_eq listening (h.2.2 told listening)⟩

/-- `OneAtATime`, as far as it can be decided. -/
def TakesTurns (s : Cloud κ) (a : Action κ) : Prop :=
  s.KeepsList a ∧ (a.event.ofSystem = false → s.Settled) ∧
    match a.event with
    | .addChat .. => s.Hears a.client
    | .startDiscussRoom name => s.Hears a.client ∧
      ((s.devices a.client).messenger.chatIsExist name = true ∨
        (s.devices a.client).messenger.idDiscussion = none)
    | .sendMessage .. => s.Loaded a.client
    | .deleteChat name => s.Hears a.client ∧
      ∀ info ∈ (s.devices a.client).messenger.chatInformationArray.find?
        (fun info => info.name == name), info.firebaseID ≠ FirestoreMessenger.placeholderID
    | _ => True

instance [Fintype κ] (s : Cloud κ) (a : Action κ) : Decidable (s.TakesTurns a) := by
  have settled : Decidable s.Settled :=
    inferInstanceAs (Decidable (∀ c, (s.devices c).pending = []))
  obtain ⟨c, event⟩ := a
  cases event <;> exact inferInstanceAs (Decidable (_ ∧ (_ → _) ∧ _))

theorem TakesTurns.oneAtATime {s : Cloud κ} {a : Action κ} (h : s.TakesTurns a)
    (origins : Provenance s) : s.OneAtATime a := by
  obtain ⟨c, event⟩ := a
  obtain ⟨keeps, settled, turn⟩ := h
  refine ⟨keeps, settled, ?_, ?_, ?_⟩
  · cases event with
    | addChat => exact Hears.upToDate turn origins
    | deleteChat | startDiscussRoom => exact Hears.upToDate turn.1 origins
    | sendMessage => exact turn
    | _ => trivial
  · rintro name rfl
    exact turn.2
  · rintro name rfl
    exact turn.2

/-- One user makes a chat, another writes into it, and the first one answers. -/
def conversation : List (Action Bool) :=
  [⟨true, .setupObserverChats⟩, ⟨false, .setupObserverChats⟩,
   ⟨true, .addChat "дом" ⟨1⟩ ⟨2⟩ 1 "r1" "c1"⟩, ⟨true, .applyWrite⟩, ⟨true, .applyWrite⟩,
   ⟨false, .raiseChange "c1"⟩, ⟨true, .applyWrite⟩, ⟨true, .runChange⟩, ⟨true, .runChange⟩,
   ⟨false, .runChange⟩, ⟨false, .raiseChange "c1"⟩, ⟨false, .runChange⟩,
   ⟨false, .startDiscussRoom "дом"⟩, ⟨false, .answerRoom 0⟩, ⟨false, .runRoom 0⟩,
   ⟨false, .sendMessage "Боря" "кто тут?" 2⟩, ⟨false, .applyWrite⟩,
   ⟨true, .startDiscussRoom "дом"⟩, ⟨true, .answerRoom 0⟩, ⟨true, .runRoom 0⟩,
   ⟨true, .sendMessage "Аня" "я" 3⟩, ⟨true, .applyWrite⟩]

theorem sequential_conversation : ∃ s b,
    exec (watch step noteBoard) (init, Board.empty Bool) conversation = some (s, b) ∧
      b.chats = [⟨"c1", "дом", ⟨1⟩, ⟨2⟩, 1, [⟨"Боря", "кто тут?", 2⟩, ⟨"Аня", "я", 3⟩]⟩] ∧
      ShowsBoard s.documents b := by
  have turns : EveryStep (watch step noteBoard) (fun sb a => sb.1.TakesTurns a)
      (init, Board.empty Bool) conversation := by decide +kernel
  have guard : EveryStep (watch step noteBoard) (fun sb a => sb.1.OneAtATime a)
      (init, Board.empty Bool) conversation :=
    EveryStep.of_invariant (I := fun sb => Provenance sb.1)
      (watch_kept_of_guard fun _ _ _ _ h _ hstep => h.step hstep)
      (fun _ _ origins turn => turn.oneAtATime origins) Provenance.init turns
  obtain ⟨⟨s, b⟩, run, posted, settled⟩ : ∃ sb ∈ exec (watch step noteBoard)
      (init, Board.empty Bool) conversation,
      sb.2.chats = [⟨"c1", "дом", ⟨1⟩, ⟨2⟩, 1, [⟨"Боря", "кто тут?", 2⟩, ⟨"Аня", "я", 3⟩]⟩] ∧
        ∀ c, (sb.1.devices c).pending = [] := by
    decide +kernel
  have all := sequential guard
  rw [← List.append_nil conversation] at all
  exact ⟨s, b, run, posted, (all.of_append run settled).1⟩

end Cloud

end OnMap
