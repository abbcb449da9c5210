/-
# Visits to rooms

One device visits rooms one after another: a screen opens a room, asks for its
document, sets up a listener, sends, and closes the room. Answers that are still
on their way when a screen closes arrive behind a later one. The closure of
`loadDiscussionRoom` does not look at the room that is open by then, so its data
may become the cached room of another room.

The room of a screen is the one that `startDiscussRoom` finds for its name. When
it finds none, the screen has no room, and the messenger keeps the room of an
earlier screen open behind it.
-/

import OnMap.Cloud.Destination
import OnMap.Cloud.RoomData
import OnMap.Library.Transition

namespace OnMap

open Transition

variable {κ : Type}

/-- The messages that a write puts into a document of `rooms`, with the document. -/
def DocumentWrite.messages (w : DocumentWrite) : List (String × Message) :=
  match w.path.collection, w.data.bind ChatRoom.ofDictonary with
  | .rooms, some room => room.messages.map fun m => (w.path.documentID, m)
  | _, _ => []

theorem DocumentWrite.mem_messages_iff {w : DocumentWrite} {id : String} {m : Message} :
    (id, m) ∈ w.messages ↔ w.path = ⟨.rooms, id⟩ ∧
      ∃ data room, w.data = some data ∧ ChatRoom.ofDictonary data = some room ∧
        m ∈ room.messages := by
  obtain ⟨⟨collection, documentID⟩, path⟩ : ∃ p, w.path = p := ⟨_, rfl⟩
  rw [messages, path]
  cases collection with
  | chats => simp
  | rooms =>
    cases hdata : w.data with
    | none => simp
    | some data =>
      cases decoded : ChatRoom.ofDictonary data with
      | none => simp [decoded]
      | some room => simp [decoded, eq_comm, and_comm]

/-- What is recorded about the visits of one device: whether a screen is open and
has its listener, the room that was found for its name, the messages that
documents of `rooms` have held, and those the user has sent from the screen of a
room. -/
structure Desk where
  visit : Option Bool := none
  room : Option String := none
  stored : List (String × Message) := []
  typed : List (String × Message) := []

namespace Desk

/-- The message was stored in the room or typed on its screen. -/
def Knows (desk : Desk) (id : String) (m : Message) : Prop :=
  (id, m) ∈ desk.stored ∨ (id, m) ∈ desk.typed

/-- The message belongs on the open screen: it is known in the screen's room. -/
def Owns (desk : Desk) (m : Message) : Prop :=
  ∃ id, desk.room = some id ∧ desk.Knows id m

end Desk

/-- The messages a step puts into a document: those of the write the server takes. -/
def storedBy (s : Cloud κ) (a : Action κ) : List (String × Message) :=
  match a.event, (s.devices a.client).pending with
  | .applyWrite, w :: _ => w.messages
  | _, _ => []

/-- The message sent, with the room of the screen it is sent from. -/
def typedBy (room : Option String) (event : Event) : List (String × Message) :=
  match event, room with
  | .sendMessage owner message now, some id => [(id, ⟨owner, message, now⟩)]
  | _, _ => []

namespace Event

/-- The visit after an event of the device. -/
def visit (before : Option Bool) : Event → Option Bool
  | startDiscussRoom _ => some false
  | setupObserverChatRoom => before.map fun _ => true
  | closeDiscussRoom => none
  | _ => before

/-- The room of the screen after an event: a screen is opened with the room of the
first chat listed under its name, and without one if there is no such chat. -/
def room (m : FirestoreMessenger) (before : Option String) : Event → Option String
  | startDiscussRoom name => (m.linksNamed name).head?
  | closeDiscussRoom => none
  | _ => before

/-- Rooms are visited in sequence: a screen is opened when none is open, and asks,
listens (once) and sends while it is open. -/
def inTurn (before : Option Bool) : Event → Bool
  | startDiscussRoom _ => before.isNone
  | loadDiscussionRoom | sendMessage .. => before.isSome
  | setupObserverChatRoom => before == some false
  | _ => true

end Event

/-- Record the visits of client `c`. -/
def noteDesk [DecidableEq κ] (c : κ) (s : Cloud κ) (a : Action κ) (desk : Desk) : Desk where
  visit := if a.client = c then a.event.visit desk.visit else desk.visit
  room := if a.client = c then a.event.room (s.devices c).messenger desk.room else desk.room
  stored := desk.stored ++ storedBy s a
  typed := desk.typed ++ if a.client = c then typedBy desk.room a.event else []

/-- Client `c` visits rooms in sequence. -/
def VisitsInTurn (c : κ) (sm : Cloud κ × Desk) (a : Action κ) : Prop :=
  a.client = c → a.event.inTurn sm.2.visit = true

instance [DecidableEq κ] (c : κ) (sm : Cloud κ × Desk) (a : Action κ) :
    Decidable (VisitsInTurn c sm a) :=
  inferInstanceAs (Decidable (_ → _))

/-- What `getInfoAboutMessage` shows on an open screen comes from the screen's room;
a screen without a room shows nothing. -/
def ShowsOwn (m : FirestoreMessenger) (desk : Desk) : Prop :=
  desk.visit ≠ none → ∀ index owner message now,
    m.getInfoAboutMessage index = some (some message, some owner, some now) →
      desk.Owns ⟨owner, message, now⟩

/-- A step of client `c` writes to a room only messages of this room, and after
every step the client is shown only messages of the open screen's room. -/
def KeepsApart [DecidableEq κ] (c : κ) (sm : Cloud κ × Desk) (a : Action κ) : Prop :=
  ∀ t, sm.1.step a = some t →
    (a.client = c → ∀ w ∈ (sm.1.devices c).issues a.event, ∀ id m, (id, m) ∈ w.messages →
        (noteDesk c sm.1 a sm.2).Knows id m) ∧
      ShowsOwn (t.devices c).messenger (noteDesk c sm.1 a sm.2)

/-- When client `c` steps behind an open screen, the screen gets only what is its
own. -/
structure GetsOwn (c : κ) (sm : Cloud κ × Desk) (a : Action κ) : Prop where
  /-- An answer to `getDocument` was asked for the screen's room, or brings only
  messages of it. -/
  answers : ∀ index asked data, a = ⟨c, .runRoom index⟩ →
    (sm.1.devices c).roomCallbacks[index]? = some (.reply asked (some data)) →
      sm.2.visit ≠ none → sm.2.room = some asked ∨
        ∀ room, ChatRoom.ofDictonary data = some room → ∀ m ∈ room.messages, sm.2.Owns m
  /-- A screen without a room hears of no messages. -/
  hears : ∀ index registration opened data, a = ⟨c, .runRoom index⟩ →
    (sm.1.devices c).roomCallbacks[index]? = some (.snapshot registration opened (some data)) →
      registration ∈ (sm.1.devices c).registrations.map Prod.fst →
        sm.2.visit ≠ none → sm.2.room = none →
          ∀ room, ChatRoom.ofDictonary data = some room → room.messages = []
  /-- From a screen without a room nothing is sent, unless no room is open behind it. -/
  sends : ∀ owner message now, a = ⟨c, .sendMessage owner message now⟩ →
    sm.2.room ≠ none ∨ (sm.1.devices c).messenger.idDiscussion = none

/-- What is known stays known. -/
theorem Desk.Knows.note [DecidableEq κ] {c : κ} {s : Cloud κ} {a : Action κ} {desk : Desk}
    {id : String} {m : Message} (h : desk.Knows id m) : (noteDesk c s a desk).Knows id m :=
  h.imp (List.mem_append_left _) (List.mem_append_left _)

theorem Desk.Owns.note [DecidableEq κ] {c : κ} {s : Cloud κ} {a : Action κ} {desk : Desk}
    {m : Message} (h : desk.Owns m) (same : (noteDesk c s a desk).room = desk.room) :
    (noteDesk c s a desk).Owns m := by
  obtain ⟨id, room, known⟩ := h
  exact ⟨id, same.trans room, known.note⟩

/-! ### The listener of the open room -/

/-- A live listener is the one set up last, of the open room. Waiting snapshots
are of the room their listener was set up for. -/
structure Listens (d : Device) (visit : Option Bool) : Prop where
  idle : visit ≠ some true → d.registrations = []
  current : ∀ live ∈ d.registrations,
    d.messenger.listenerChat = some live.1 ∧ d.messenger.idDiscussion = some live.2
  snapshots : ∀ registration room data, .snapshot registration room data ∈ d.roomCallbacks →
    ∀ live ∈ d.registrations, live.1 = registration → live.2 = room
  numbered : ∀ registration room data, .snapshot registration room data ∈ d.roomCallbacks →
    registration < d.nextRegistration
  registered : ∀ live ∈ d.registrations, live.1 < d.nextRegistration

section Listens

variable {d d' : Device} {visit : Option Bool} {documents : Documents} {chatIDs : List String}
  {event : Event}

theorem Listens.of_sameRoom (h : Listens d visit) (same : Device.SameRoom d d') :
    Listens d' visit where
  idle away := same.registrations.trans (h.idle away)
  current live hlive := by
    rw [same.listenerChat, same.idDiscussion]
    exact h.current live (same.registrations ▸ hlive)
  snapshots registration room data hwaiting live hlive :=
    h.snapshots registration room data (same.roomCallbacks ▸ hwaiting) live
      (same.registrations ▸ hlive)
  numbered registration room data hwaiting :=
    same.nextRegistration ▸ h.numbered registration room data (same.roomCallbacks ▸ hwaiting)
  registered live hlive :=
    same.nextRegistration ▸ h.registered live (same.registrations ▸ hlive)

theorem Event.visit_of_leavesRoom (away : event.leavesRoom = true) : event.visit visit = visit := by
  cases event <;> first | rfl | exact absurd away Bool.false_ne_true

theorem Event.room_of_leavesRoom (away : event.leavesRoom = true) {m : FirestoreMessenger}
    {room : Option String} : event.room m room = room := by
  cases event <;> first | rfl | exact absurd away Bool.false_ne_true

/-- Without live listeners only the numbers of waiting snapshots matter. -/
theorem listens_of_silent (silent : d.registrations = [])
    (numbered : ∀ registration room data,
      .snapshot registration room data ∈ d.roomCallbacks → registration < d.nextRegistration) :
    Listens d visit where
  idle _ := silent
  current _ hlive := absurd (silent ▸ hlive) List.not_mem_nil
  snapshots _ _ _ _ _ hlive := absurd (silent ▸ hlive) List.not_mem_nil
  numbered := numbered
  registered _ hlive := absurd (silent ▸ hlive) List.not_mem_nil

/-- The first listener of a visit is set up, under a new number. -/
theorem Listens.listen (h : Listens d visit) (silent : d.registrations = []) {room : String}
    (opened : d.messenger.idDiscussion = some room) :
    Listens { d with
      messenger := { d.messenger with listenerChat := some d.nextRegistration }
      registrations := d.registrations ++ [(d.nextRegistration, room)]
      nextRegistration := d.nextRegistration + 1 } (some true) := by
  rw [silent]
  refine ⟨fun idle => absurd rfl idle, ?_, ?_, ?_, ?_⟩
  · intro live hlive
    obtain rfl := List.mem_singleton.mp hlive
    exact ⟨rfl, opened⟩
  · -- the new number is larger than that of any waiting snapshot
    intro registration room data hwaiting live hlive same
    obtain rfl := List.mem_singleton.mp hlive
    exact absurd (same ▸ h.numbered registration room data hwaiting) (Nat.lt_irrefl _)
  · intro registration room data hwaiting
    exact Nat.lt_succ_of_lt (h.numbered registration room data hwaiting)
  · intro live hlive
    obtain rfl := List.mem_singleton.mp hlive
    exact Nat.lt_succ_self _

/-- A live listener raises a snapshot of its room. -/
theorem Listens.snapshot (h : Listens d visit) {number : ℕ} {opened : String}
    (listening : (number, opened) ∈ d.registrations) (data : Option Dictionary) :
    Listens { d with roomCallbacks := d.roomCallbacks ++ [.snapshot number opened data] }
      visit := by
  have new {registration : ℕ} {room : String} {brought : Option Dictionary}
      (last : RoomCallback.snapshot registration room brought ∈
        [RoomCallback.snapshot number opened data]) : registration = number ∧ room = opened := by
    cases List.mem_singleton.mp last
    exact ⟨rfl, rfl⟩
  refine { h with snapshots := ?_, numbered := ?_ }
  · intro registration room data hwaiting live hlive same
    rcases List.mem_append.mp hwaiting with old | last
    · exact h.snapshots registration room data old live hlive same
    · -- all live listeners are of the open room
      rw [(new last).2]
      exact Option.some.inj ((h.current live hlive).2.symm.trans (h.current _ listening).2)
  · intro registration room data hwaiting
    rcases List.mem_append.mp hwaiting with old | last
    · exact h.numbered registration room data old
    · rw [(new last).1]
      exact h.registered _ listening

/-- A room closure runs; it touches the cached room only. -/
theorem Listens.run (h : Listens d visit) (callback : RoomCallback) (index : ℕ) :
    Listens { d with
      messenger := d.runRoomCallback callback
      roomCallbacks := d.roomCallbacks.eraseIdx index } visit := by
  refine { h with current := ?_, snapshots := ?_, numbered := ?_ }
  · intro live hlive
    rw [Device.runRoomCallback_listenerChat, Device.runRoomCallback_idDiscussion]
    exact h.current live hlive
  · intro registration room data hwaiting
    exact h.snapshots registration room data (List.eraseIdx_subset hwaiting)
  · intro registration room data hwaiting
    exact h.numbered registration room data (List.eraseIdx_subset hwaiting)

/-- Every event of a visit in its turn keeps the listener right. -/
theorem Listens.step (h : Listens d visit) (turn : event.inTurn visit = true)
    (taken : d.step documents chatIDs event = some d') : Listens d' (event.visit visit) := by
  by_cases away : event.leavesRoom = true
  · rw [Event.visit_of_leavesRoom away]
    exact h.of_sameRoom (Device.step_sameRoom taken away)
  cases event with
  | startDiscussRoom name =>
    obtain ⟨opened, gets, after⟩ := d.call_startDiscussRoom documents name
    obtain rfl := (Device.step_of_method rfl taken).trans after
    obtain rfl : visit = none := by simpa [Event.inTurn] using turn
    exact listens_of_silent (h.idle nofun) h.numbered
  | loadDiscussionRoom =>
    obtain ⟨gets, after⟩ := d.call_loadDiscussionRoom documents
    obtain rfl := (Device.step_of_method rfl taken).trans after
    exact { h with }
  | setupObserverChatRoom =>
    obtain rfl : visit = some false := by simpa [Event.inTurn] using turn
    have silent : d.registrations = [] := h.idle (by simp)
    rcases d.call_setupObserverChatRoom documents with ⟨-, after⟩ | ⟨room, opened, after⟩
    · obtain rfl := (Device.step_of_method rfl taken).trans after
      exact listens_of_silent silent h.numbered
    · obtain rfl := (Device.step_of_method rfl taken).trans after
      exact h.listen silent opened
  | sendMessage owner message now =>
    obtain rfl := (Device.step_of_method rfl taken).trans (d.call_sendMessage ..)
    exact { h with }
  | closeDiscussRoom =>
    obtain rfl := (Device.step_of_method rfl taken).trans (d.call_closeDiscussRoom _)
    -- the listener that is removed is the only live one
    refine listens_of_silent (List.filter_eq_nil_iff.mpr fun live hlive => ?_) h.numbered
    simp [(h.current live hlive).1]
  | answerRoom index =>
    obtain ⟨asked, -, rfl⟩ := Device.step_answerRoom taken
    refine { h with snapshots := ?_, numbered := ?_ }
    · intro registration room data hwaiting
      exact h.snapshots registration room data (by simpa using hwaiting)
    · intro registration room data hwaiting
      exact h.numbered registration room data (by simpa using hwaiting)
  | raiseRoom index =>
    obtain ⟨registration, room, live, rfl⟩ := Device.step_raiseRoom taken
    exact h.snapshot (List.mem_of_getElem? live) _
  | runRoom index =>
    obtain ⟨callback, -, rfl⟩ := Device.step_runRoom taken
    exact h.run callback index
  | _ => exact absurd rfl away

end Listens

/-! ### The room that is shown -/

/-- What the record says about room data: the server holds stored messages, the
client holds messages of the room. -/
def deskProperty (c : κ) (desk : Desk) : RoomProperty κ where
  served id room := room.Aligned ∧ ∀ m ∈ room.messages, (id, m) ∈ desk.stored
  held client id room := room.Aligned ∧ (client = c → ∀ m ∈ room.messages, desk.Knows id m)
  cache _ room := room.Aligned

theorem deskProperty_coherent (c : κ) (desk : Desk) : (deskProperty c desk).Coherent where
  held_of_served _ _ _ h := ⟨h.1, fun _ m hm => Or.inl (h.2 m hm)⟩
  cache_of_held _ _ _ h := h.1

/-- While a screen is open, the cached room holds messages of the screen's room. -/
def CachesOwn (m : FirestoreMessenger) (desk : Desk) : Prop :=
  desk.visit ≠ none → ∀ room, m.currentChatRoom = some room →
    ∀ message ∈ room.messages, desk.Owns message

/-- The messages of the cached room are what `getInfoAboutMessage` shows. -/
theorem FirestoreMessenger.mem_messages_iff_shown {m : FirestoreMessenger} {room : ChatRoom}
    (cached : m.currentChatRoom = some room) {message : Message} :
    message ∈ room.messages ↔ ∃ index, m.getInfoAboutMessage index =
      some (some message.message, some message.owner, some message.date) := by
  constructor
  · intro hmessage
    obtain ⟨position, here⟩ := List.mem_iff_getElem?.mp hmessage
    obtain ⟨owner, text, time⟩ := ChatRoom.getElem?_messages.mp here
    have inside : ¬ (position : ℤ) < 0 := by omega
    exact ⟨position, by simp [getInfoAboutMessage, element, cached, inside, owner, text, time]⟩
  · rintro ⟨index, shown⟩
    have inside : ¬ index < 0 := by
      intro negative
      simp [getInfoAboutMessage, element, cached, negative] at shown
    refine List.mem_of_getElem? (i := index.toNat) (ChatRoom.getElem?_messages.mpr ?_)
    simp only [getInfoAboutMessage, element, cached, inside, if_false, Option.bind_eq_bind,
      Option.bind_eq_some_iff, Option.some.injEq, Option.pure_def, Prod.mk.injEq] at shown
    obtain ⟨text, htext, sender, hsender, time, htime, rfl, rfl, rfl⟩ := shown
    exact ⟨hsender, htext, htime⟩

theorem CachesOwn.showsOwn {m : FirestoreMessenger} {desk : Desk} (h : CachesOwn m desk) :
    ShowsOwn m desk := by
  intro visiting index owner message now shown
  cases cached : m.currentChatRoom with
  | none => simp [FirestoreMessenger.getInfoAboutMessage, cached] at shown
  | some room =>
    exact h visiting room cached _
      ((FirestoreMessenger.mem_messages_iff_shown cached).mpr ⟨index, shown⟩)

/-- What holds of the record in every run that visits rooms in sequence and whose
answers are all of their own room. -/
structure Apart (c : κ) (sm : Cloud κ × Desk) : Prop where
  data : (deskProperty c sm.2).Holds sm.1
  listens : Listens (sm.1.devices c) sm.2.visit
  opens : ∀ id, sm.2.room = some id → (sm.1.devices c).messenger.idDiscussion = some id
  caches : CachesOwn (sm.1.devices c).messenger sm.2

section Apart

variable [DecidableEq κ] {c : κ} {s t : Cloud κ} {desk : Desk} {a : Action κ}

/-- What the client sends from an open screen it knows, and the room it is sent to
is the screen's. -/
theorem Apart.knows_sent (h : Apart c (s, desk)) {owner message : String} {now : Date}
    (turn : VisitsInTurn c (s, desk) ⟨c, .sendMessage owner message now⟩)
    (own : GetsOwn c (s, desk) ⟨c, .sendMessage owner message now⟩) {id : String}
    (opened : (s.devices c).messenger.idDiscussion = some id) :
    desk.room = some id ∧
      ∀ m ∈ (((s.devices c).messenger.currentChatRoom.getD .empty).appending
        ⟨owner, message, now⟩).messages,
        (noteDesk c s ⟨c, .sendMessage owner message now⟩ desk).Knows id m := by
  have visiting : desk.visit ≠ none := by
    simpa [Event.inTurn, Option.isSome_iff_ne_none] using turn rfl
  have room : desk.room = some id := by
    rcases own.sends owner message now rfl with found | closed
    · obtain ⟨other, found⟩ := Option.ne_none_iff_exists'.mp found
      rw [found, ← h.opens other found, opened]
    · exact absurd (opened.symm.trans closed) (Option.some_ne_none _)
  have cached : ((s.devices c).messenger.currentChatRoom.getD .empty).Aligned ∧
      ∀ m ∈ ((s.devices c).messenger.currentChatRoom.getD .empty).messages, desk.Knows id m := by
    cases loaded : (s.devices c).messenger.currentChatRoom with
    | none => exact ⟨ChatRoom.aligned_empty, by simp⟩
    | some cached =>
      refine ⟨(h.data.devices c).cache cached loaded, fun m hm => ?_⟩
      obtain ⟨other, same, known⟩ := h.caches visiting cached loaded m hm
      exact Option.some.inj (same.symm.trans room) ▸ known
  refine ⟨room, fun m hm => ?_⟩
  rw [cached.1.messages_appending] at hm
  rcases List.mem_append.mp hm with old | new
  · exact (cached.2 m old).note
  · obtain rfl := List.mem_singleton.mp new
    refine Or.inr (List.mem_append_right _ ?_)
    simp [typedBy, room]

theorem Apart.data_step (h : Apart c (s, desk)) (turn : VisitsInTurn c (s, desk) a)
    (own : GetsOwn c (s, desk) a) (hstep : s.step a = some t) :
    (deskProperty c (noteDesk c s a desk)).Holds t := by
  refine h.data.step (deskProperty_coherent c _) hstep
    { served := fun id room hroom => ⟨hroom.1, fun m hm => List.mem_append_left _ (hroom.2 m hm)⟩
      held := fun client id room hroom => ⟨hroom.1, fun own m hm => (hroom.2 own m hm).note⟩
      cache := fun _ _ => id
      empty := fun _ _ _ _ _ _ _ => ⟨ChatRoom.aligned_empty, by simp⟩
      sent := fun owner message now event => ?_
      applied := fun w rest event queue rooms data room hdata decoded hroom => ⟨hroom.1, ?_⟩ }
  · have aligned : ((s.devices a.client).messenger.currentChatRoom.getD .empty).Aligned := by
      cases loaded : (s.devices a.client).messenger.currentChatRoom with
      | none => exact ChatRoom.aligned_empty
      | some room => exact (h.data.devices a.client).cache room loaded
    simp only
    split
    case h_1 => exact aligned
    case h_2 chatLink opened =>
      refine ⟨aligned.appending _, ?_⟩
      -- only what the device of the desk sends has to be known on it
      obtain ⟨client, _⟩ := a
      obtain rfl : _ = Event.sendMessage owner message now := event
      intro acting
      obtain rfl : client = c := acting
      exact (h.knows_sent turn own opened).2
  · intro m hm
    have written : (w.path.documentID, m) ∈ storedBy s a := by
      rw [storedBy, event, queue]
      exact DocumentWrite.mem_messages_iff.mpr
        ⟨by rw [← rooms], data, room, hdata, decoded, hm⟩
    exact List.mem_append_right _ written

omit [DecidableEq κ] in
/-- A room closure that replaces the cached room of an open screen brings messages of
the screen's room: a stale answer is ruled out by the condition, a stale snapshot by
the removal of its listener. -/
theorem Apart.owns_ran (h : Apart c (s, desk)) {index : ℕ}
    (own : GetsOwn c (s, desk) ⟨c, .runRoom index⟩) {callback : RoomCallback}
    (waiting : (s.devices c).roomCallbacks[index]? = some callback) (visiting : desk.visit ≠ none)
    {room : ChatRoom}
    (cached : ((s.devices c).runRoomCallback callback).currentChatRoom = some room) :
    ∀ m ∈ room.messages, desk.Owns m := by
  intro m hm
  have held (data : Dictionary) (hdata : callback.data = some data)
      (here : desk.room = some callback.room)
      (decoded : ChatRoom.ofDictonary data = some room) : desk.Owns m := by
    obtain ⟨other, hother, -, knows⟩ := (h.data.devices c).callbacks callback
      (List.mem_of_getElem? waiting) data hdata rfl
    obtain rfl := Option.some.inj (hother.symm.trans decoded)
    exact ⟨callback.room, here, knows rfl m hm⟩
  rcases Device.runRoomCallback_cases (s.devices c) callback with same | ⟨data, hdata, replaced⟩
  · exact h.caches visiting room (same ▸ cached) m hm
  · rw [replaced] at cached
    cases callback with
    | reply asked answer =>
      obtain rfl : answer = some data := hdata
      rcases own.answers index asked data rfl waiting visiting with here | known
      · exact held data rfl here cached
      · exact known room cached m hm
    | snapshot registration listened answer =>
      obtain rfl : answer = some data := hdata
      by_cases live : registration ∈ (s.devices c).registrations.map Prod.fst
      · cases found : desk.room with
        | none =>
          rw [own.hears index registration listened data rfl waiting live visiting found room
            cached] at hm
          exact absurd hm List.not_mem_nil
        | some id =>
          -- the live listener is of the open room, which is the screen's
          obtain ⟨listener, hlistener, number⟩ := List.mem_map.mp live
          have here : listener.2 = listened := h.listens.snapshots registration listened _
            (List.mem_of_getElem? waiting) listener hlistener number
          have current := (h.listens.current listener hlistener).2
          refine held data rfl ?_ cached
          rw [found, ← h.opens id found, current, here]
          rfl
      · -- the closure of a removed listener leaves the cached room
        have silent : (s.devices c).messenger.currentChatRoom = ChatRoom.ofDictonary data := by
          simpa [Device.runRoomCallback, live] using
            congrArg FirestoreMessenger.currentChatRoom replaced
        exact h.caches visiting room (silent.trans cached) m hm

/-- The room of an open screen is the one the messenger has open. -/
theorem Apart.opens_step (h : Apart c (s, desk)) (hstep : s.step a = some t) :
    ∀ id, (noteDesk c s a desk).room = some id →
      (t.devices c).messenger.idDiscussion = some id := by
  obtain ⟨client, event⟩ := a
  intro id room
  by_cases acting : client = c
  · subst acting
    have taken := Cloud.step_device hstep
    simp only [noteDesk, if_true] at room
    -- only `startDiscussRoom` changes the open room, and the screen's with it
    by_cases starting : ∃ name, event = .startDiscussRoom name
    · obtain ⟨name, rfl⟩ := starting
      have found : ((s.devices client).messenger.linksNamed name).head? = some id := room
      rw [Device.step_of_method rfl taken, Device.call_messenger]
      refine (FirestoreMessenger.startDiscussRoom_linksNamed _ name).trans ?_
      rw [found, Option.some_or]
    · rw [Device.step_idDiscussion taken fun name same => starting ⟨name, same⟩]
      cases event with
      | startDiscussRoom name => exact absurd ⟨name, rfl⟩ starting
      | closeDiscussRoom => cases room
      | _ => exact h.opens id room
  · simp only [noteDesk, if_neg acting] at room
    rw [Cloud.step_devices_of_ne hstep (Ne.symm acting)]
    exact h.opens id room

/-- The cached room is touched by the open room's events only. -/
theorem Apart.caches_step (h : Apart c (s, desk)) (turn : VisitsInTurn c (s, desk) a)
    (own : GetsOwn c (s, desk) a) (hstep : s.step a = some t) :
    CachesOwn (t.devices c).messenger (noteDesk c s a desk) := by
  have kept (visit : (noteDesk c s a desk).visit ≠ none → desk.visit ≠ none)
      (room : (noteDesk c s a desk).room = desk.room)
      (cached : (t.devices c).messenger.currentChatRoom =
        (s.devices c).messenger.currentChatRoom) :
      CachesOwn (t.devices c).messenger (noteDesk c s a desk) := by
    intro visiting held hheld m hm
    exact (h.caches (visit visiting) held (cached ▸ hheld) m hm).note room
  obtain ⟨client, event⟩ := a
  by_cases acting : client = c
  · subst acting
    have taken := Cloud.step_device hstep
    generalize t.devices client = d' at taken kept ⊢
    by_cases away : event.leavesRoom = true
    · refine kept (fun visiting => ?_) ?_ (Device.step_sameRoom taken away).currentChatRoom
      · simpa [noteDesk, Event.visit_of_leavesRoom away] using visiting
      · simp [noteDesk, Event.room_of_leavesRoom away]
    cases event with
    | startDiscussRoom name =>
      -- a screen opens without a cached room
      obtain ⟨opened, gets, after⟩ := Device.call_startDiscussRoom s.documents _ name
      rw [(Device.step_of_method rfl taken).trans after]
      intro _ room cached
      cases cached
    | loadDiscussionRoom =>
      obtain ⟨gets, after⟩ := Device.call_loadDiscussionRoom s.documents _
      have same := (Device.step_of_method rfl taken).trans after
      exact kept (fun visiting => by simpa [noteDesk, Event.visit] using visiting)
        (by simp [noteDesk, Event.room]) (by rw [same])
    | setupObserverChatRoom =>
      have visit : desk.visit = some false := by simpa [Event.inTurn] using turn rfl
      rcases Device.call_setupObserverChatRoom s.documents _ with ⟨-, after⟩ | ⟨room, -, after⟩ <;>
      · have same := (Device.step_of_method rfl taken).trans after
        exact kept (fun _ => by simp [visit]) (by simp [noteDesk, Event.room]) (by rw [same])
    | sendMessage owner message now =>
      have stays : (noteDesk client s ⟨client, .sendMessage owner message now⟩ desk).room =
          desk.room := by simp [noteDesk, Event.room]
      rw [(Device.step_of_method rfl taken).trans (Device.call_sendMessage ..)]
      intro visiting room cached m hm
      simp only [Option.some.injEq] at cached
      split at cached
      case h_1 =>
        -- no room is open: the cached room is made, but nothing is appended
        subst cached
        cases loaded : (s.devices client).messenger.currentChatRoom with
        | none => simp [loaded] at hm
        | some old =>
          have visiting : desk.visit ≠ none := by simpa [noteDesk, Event.visit] using visiting
          exact (h.caches visiting old loaded m (by simpa [loaded] using hm)).note stays
      case h_2 id opened =>
        obtain ⟨found, known⟩ := h.knows_sent turn own opened
        exact ⟨id, stays.trans found, known m (cached ▸ hm)⟩
    | closeDiscussRoom =>
      intro visiting
      simp [noteDesk, Event.visit] at visiting
    | answerRoom index =>
      obtain ⟨asked, -, rfl⟩ := Device.step_answerRoom taken
      exact kept (fun visiting => by simpa [noteDesk, Event.visit] using visiting)
        (by simp [noteDesk, Event.room]) rfl
    | raiseRoom index =>
      obtain ⟨_, _, -, rfl⟩ := Device.step_raiseRoom taken
      exact kept (fun visiting => by simpa [noteDesk, Event.visit] using visiting)
        (by simp [noteDesk, Event.room]) rfl
    | runRoom index =>
      obtain ⟨callback, waiting, rfl⟩ := Device.step_runRoom taken
      intro visiting room cached m hm
      have visiting : desk.visit ≠ none := by simpa [noteDesk, Event.visit] using visiting
      exact (h.owns_ran own waiting visiting cached m hm).note (by simp [noteDesk, Event.room])
    | _ => exact absurd rfl away
  · have same := Cloud.step_devices_of_ne hstep (Ne.symm acting)
    exact kept (fun visiting => by simpa [noteDesk, acting] using visiting)
      (by simp [noteDesk, acting]) (by rw [same])

theorem Apart.step (h : Apart c (s, desk)) (turn : VisitsInTurn c (s, desk) a)
    (own : GetsOwn c (s, desk) a) (hstep : s.step a = some t) :
    Apart c (t, noteDesk c s a desk) where
  data := h.data_step turn own hstep
  listens := by
    by_cases acting : a.client = c
    · subst acting
      simpa [noteDesk] using h.listens.step (turn rfl) (Cloud.step_device hstep)
    · rw [Cloud.step_devices_of_ne hstep (Ne.symm acting)]
      simpa [noteDesk, acting] using h.listens
  opens := h.opens_step hstep
  caches := h.caches_step turn own hstep

/-- The writes of the client's step bring messages of their room: they are among
the writes that wait after the step. -/
theorem Apart.keepsApart (h : Apart c (s, desk)) (turn : VisitsInTurn c (s, desk) a)
    (own : GetsOwn c (s, desk) a) : KeepsApart c (s, desk) a := by
  intro t hstep
  have after := h.step turn own hstep
  refine ⟨fun acting w hw id m hm => ?_, after.caches.showsOwn⟩
  subst acting
  have waiting : w ∈ (t.devices a.client).pending := by
    by_cases applied : a.event = .applyWrite
    · rw [applied] at hw
      simp [Device.issues, Device.method] at hw
    · rw [Device.step_pending (Cloud.step_device hstep) applied]
      exact List.mem_append_right _ hw
  obtain ⟨path, data, room, hdata, decoded, hmem⟩ := DocumentWrite.mem_messages_iff.mp hm
  obtain ⟨other, hother, -, knows⟩ :=
    (after.data.devices a.client).pending w waiting data hdata (by rw [path])
  obtain rfl := Option.some.inj (hother.symm.trans decoded)
  rw [path] at knows
  exact knows rfl m hmem

/-- Room data that becomes the cached room of an open screen is shown on it. -/
theorem KeepsApart.owns_ran {index : ℕ} (h : KeepsApart c (s, desk) ⟨c, .runRoom index⟩)
    {callback : RoomCallback} (waiting : (s.devices c).roomCallbacks[index]? = some callback)
    (visiting : desk.visit ≠ none) {room : ChatRoom}
    (cached : ((s.devices c).runRoomCallback callback).currentChatRoom = some room) :
    ∀ m ∈ room.messages, desk.Owns m := by
  intro m hm
  have taken : (s.devices c).step s.documents (s.created.map Creation.chatID) (.runRoom index) =
      some { s.devices c with
        messenger := (s.devices c).runRoomCallback callback
        roomCallbacks := (s.devices c).roomCallbacks.eraseIdx index } := by
    simp only [Device.step, waiting]
  obtain ⟨t, hstep, after⟩ : ∃ t, s.step ⟨c, .runRoom index⟩ = some t ∧ t.devices c = _ :=
    ⟨_, Cloud.step_eq_some_iff.mpr ⟨by simp [Cloud.Fresh, Event.newIDs], _, taken, rfl⟩,
      Function.update_self ..⟩
  have shows := (h t hstep).2
  rw [after] at shows
  obtain ⟨position, shown⟩ := (FirestoreMessenger.mem_messages_iff_shown cached).mp hm
  have owned := shows (by simpa [noteDesk, Event.visit] using visiting) position _ _ _ shown
  simpa [noteDesk, storedBy, typedBy, Desk.Owns, Desk.Knows, Event.room] using owned

/-- A message that is sent from an open screen is shown on it, if a room is open. -/
theorem KeepsApart.room_of_sent {owner message : String} {now : Date}
    (h : KeepsApart c (s, desk) ⟨c, .sendMessage owner message now⟩)
    (aligned : ∀ room, (s.devices c).messenger.currentChatRoom = some room → room.Aligned)
    (visiting : desk.visit ≠ none) {id : String}
    (opened : (s.devices c).messenger.idDiscussion = some id) : desk.room ≠ none := by
  have cached : ((s.devices c).messenger.currentChatRoom.getD .empty).Aligned := by
    cases loaded : (s.devices c).messenger.currentChatRoom with
    | none => exact ChatRoom.aligned_empty
    | some room => exact aligned room loaded
  obtain ⟨t, hstep, after⟩ : ∃ t, s.step ⟨c, .sendMessage owner message now⟩ = some t ∧
      t.devices c = (s.devices c).call s.documents
        ((s.devices c).messenger.sendMessage owner message now) :=
    ⟨_, Cloud.step_eq_some_iff.mpr ⟨by simp [Cloud.Fresh, Event.newIDs], _, rfl, rfl⟩,
      Function.update_self ..⟩
  have shows := (h t hstep).2
  rw [after, Device.call_sendMessage, opened] at shows
  have sent : (⟨owner, message, now⟩ : Message) ∈
      (((s.devices c).messenger.currentChatRoom.getD .empty).appending
        ⟨owner, message, now⟩).messages := by
    simp [cached.messages_appending]
  obtain ⟨position, shown⟩ := (FirestoreMessenger.mem_messages_iff_shown
    (m := { (s.devices c).messenger with currentChatRoom := some _ }) rfl).mp sent
  obtain ⟨room, found, -⟩ :=
    shows (by simpa [noteDesk, Event.visit] using visiting) position _ _ _ shown
  have found : desk.room = some room := by simpa [noteDesk, Event.room] using found
  simp [found]

/-- What an open screen gets or sends that is not its own is shown on it. -/
theorem KeepsApart.getsOwn (h : KeepsApart c (s, desk) a) (apart : Apart c (s, desk))
    (turn : VisitsInTurn c (s, desk) a) : GetsOwn c (s, desk) a where
  answers := by
    rintro index asked data rfl waiting visiting
    exact Or.inr fun room decoded => h.owns_ran waiting visiting decoded
  hears := by
    rintro index registration opened data rfl waiting live visiting unknown room decoded
    have cached : ((s.devices c).runRoomCallback
        (.snapshot registration opened (some data))).currentChatRoom = some room := by
      rw [Device.runRoomCallback, if_pos live]
      exact decoded
    refine List.eq_nil_iff_forall_not_mem.mpr fun m hm => ?_
    obtain ⟨id, found, -⟩ := h.owns_ran waiting visiting cached m hm
    exact absurd (unknown.symm.trans found) (Option.some_ne_none id).symm
  sends := by
    rintro owner message now rfl
    have visiting : desk.visit ≠ none := by
      simpa [Event.inTurn, Option.isSome_iff_ne_none] using turn rfl
    cases opened : (s.devices c).messenger.idDiscussion with
    | none => exact Or.inr rfl
    | some id =>
      exact Or.inl (h.room_of_sent (apart.data.devices c).cache visiting opened)

end Apart

/-- In every run of any devices from the start in which client `c` visits rooms in
sequence: the client writes to a room only messages stored in it or sent from its
screen, and is shown on a screen only messages of the screen's room, exactly if
every answer that runs behind an open screen was asked for its room or brings only
messages of it, and a screen without a room hears of no messages and sends none
while a room is open behind it. -/
theorem rooms_apart_iff [DecidableEq κ] {c : κ} {labels : List (Action κ)}
    (visits : EveryStep (watch Cloud.step (noteDesk c)) (VisitsInTurn c) (Cloud.init, {}) labels) :
    EveryStep (watch Cloud.step (noteDesk c)) (KeepsApart c) (Cloud.init, {}) labels ↔
      EveryStep (watch Cloud.step (noteDesk c)) (GetsOwn c) (Cloud.init, {}) labels := by
  have start : Apart c ((Cloud.init, {}) : Cloud κ × Desk) :=
    { data := RoomProperty.holds_init _
      listens := by constructor <;> simp [Cloud.init]
      opens := by rintro id ⟨⟩
      caches := fun visiting => absurd rfl visiting }
  constructor
  · intro keeps
    refine EveryStep.of_invariant (I := Apart c) (watch_kept_of_guard ?_) ?_ start
      (visits.and keeps)
    · rintro s desk a t h ⟨turn, apart⟩ hstep
      exact h.step turn (apart.getsOwn h turn) hstep
    · rintro ⟨s, desk⟩ a h ⟨turn, apart⟩
      exact apart.getsOwn h turn
  · intro gets
    refine EveryStep.of_invariant (I := Apart c) (watch_kept_of_guard ?_) ?_ start
      (visits.and gets)
    · rintro s desk a t h ⟨turn, own⟩ hstep
      exact h.step turn own hstep
    · rintro ⟨s, desk⟩ a h ⟨turn, own⟩
      exact h.keepsApart turn own

/-- Device `true` makes two chats and writes into the first. Device `false` opens
the first and the second; the answer for the first arrives behind the second. -/
def lateAnswer : List (Action Bool) :=
  [⟨true, .addChat "дом" ⟨0⟩ ⟨0⟩ 0 "r1" "c1"⟩, ⟨true, .addChat "двор" ⟨0⟩ ⟨0⟩ 0 "r2" "c2"⟩,
   ⟨true, .applyWrite⟩, ⟨true, .applyWrite⟩, ⟨true, .applyWrite⟩,
   ⟨true, .applyWrite⟩, ⟨true, .applyWrite⟩, ⟨true, .applyWrite⟩,
   ⟨true, .startDiscussRoom "дом"⟩, ⟨true, .sendMessage "Аня" "секрет" 1⟩, ⟨true, .applyWrite⟩,
   ⟨false, .setupObserverChats⟩, ⟨false, .raiseChange "c1"⟩, ⟨false, .raiseChange "c2"⟩,
   ⟨false, .runChange⟩, ⟨false, .runChange⟩,
   ⟨false, .startDiscussRoom "дом"⟩, ⟨false, .closeDiscussRoom⟩,
   ⟨false, .startDiscussRoom "двор"⟩, ⟨false, .answerRoom 0⟩, ⟨false, .runRoom 0⟩]

theorem rooms_apart_iff_lateAnswer :
    EveryStep (watch Cloud.step (noteDesk false)) (KeepsApart false) (Cloud.init, {}) lateAnswer ↔
      EveryStep (watch Cloud.step (noteDesk false)) (GetsOwn false) (Cloud.init, {})
        lateAnswer :=
  rooms_apart_iff (by decide +kernel)

/-- The next message then takes the first room's messages into the second. -/
theorem not_always_apart :
    ¬ ∀ labels, EveryStep (watch Cloud.step (noteDesk false)) (VisitsInTurn false)
        (Cloud.init, {}) labels →
      EveryStep (watch Cloud.step (noteDesk false)) (KeepsApart false) (Cloud.init, {}) labels := by
  intro always
  let last : Action Bool := ⟨false, .sendMessage "Боря" "привет" 2⟩
  have reached : (exec (watch Cloud.step (noteDesk false)) (Cloud.init, {}) lateAnswer).map
      (fun sm => ((sm.1.step last).isSome,
        ((sm.1.devices false).issues last.event).flatMap DocumentWrite.messages,
        (noteDesk false sm.1 last sm.2).stored ++ (noteDesk false sm.1 last sm.2).typed)) =
      some (true, [("r2", ⟨"Аня", "секрет", 1⟩), ("r2", ⟨"Боря", "привет", 2⟩)],
        [("r1", ⟨"Аня", "секрет", 1⟩), ("r2", ⟨"Боря", "привет", 2⟩)]) := by decide +kernel
  obtain ⟨⟨s, desk⟩, run, values⟩ := Option.map_eq_some_iff.mp reached
  simp only [Prod.mk.injEq] at values
  obtain ⟨enabled, written, recorded⟩ := values
  obtain ⟨t, hstep⟩ := Option.isSome_iff_exists.mp enabled
  have kept := (always (lateAnswer ++ [last]) (by decide +kernel)).of_append run t hstep
  obtain ⟨w, hw, leaked⟩ : ∃ w ∈ (s.devices false).issues last.event,
      ("r2", (⟨"Аня", "секрет", 1⟩ : Message)) ∈ w.messages :=
    List.mem_flatMap.mp (written ▸ List.mem_cons_self)
  have known := kept.1 rfl w hw _ _ leaked
  rw [Desk.Knows, ← List.mem_append, recorded] at known
  exact absurd known (by decide)

end OnMap
