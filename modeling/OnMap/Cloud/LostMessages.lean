/-
# Messages lost between devices

Several devices have one room open. Each write replaces the stored room by the
sender's cached one, so a message that the sender has not seen is gone. The log
starts with the stored messages. All values of the room, wherever they are, are
sublists of it; a value that misses one call at the time of a send misses one for
good. As long as every sender has seen every earlier call, the writes under way
are all of one device and end in the full room.
-/

import OnMap.Cloud.Authorship
import OnMap.Cloud.History

namespace OnMap

open Transition Overlay

variable {κ : Type}

namespace ChatRoom

/-- The room holds every message of the log, each as often as it was sent. -/
def HasAll (calls : List Message) (room : ChatRoom) : Prop := calls.Subperm room.messages

/-- The messages of the room are the log. -/
def Full (calls : List Message) (room : ChatRoom) : Prop :=
  room.Aligned ∧ room.messages = calls

/-- The room holds messages of the log, in their order, but not all of them. -/
def Short (calls : List Message) (room : ChatRoom) : Prop :=
  room.SublistOf calls ∧ room.messages.length < calls.length

section Log

variable {room : ChatRoom} {calls : List Message}

theorem Full.sublistOf (h : room.Full calls) : room.SublistOf calls :=
  ⟨h.1, h.2 ▸ List.Sublist.refl _⟩

theorem Full.hasAll (h : room.Full calls) : room.HasAll calls := by
  rw [HasAll, h.2]

theorem Full.appending (h : room.Full calls) (m : Message) :
    (room.appending m).Full (calls ++ [m]) :=
  ⟨h.1.appending m, by rw [h.1.messages_appending, h.2]⟩

/-- A room that does not get the next message is short of it. -/
theorem SublistOf.short (h : room.SublistOf calls) (m : Message) :
    room.Short (calls ++ [m]) := by
  refine ⟨h.append [m], ?_⟩
  have bound := h.2.length_le
  rw [List.length_append, List.length_singleton]
  omega

/-- A short room stays short by sending: the call counts as well. -/
theorem Short.appending (h : room.Short calls) (m : Message) :
    (room.appending m).Short (calls ++ [m]) := by
  refine ⟨h.1.appending m, ?_⟩
  have bound := h.2
  rw [h.1.1.messages_appending, List.length_append, List.length_append]
  omega

theorem SublistOf.full_or_short (h : room.SublistOf calls) :
    room.Full calls ∨ room.Short calls := by
  rcases Nat.lt_or_eq_of_le h.2.length_le with short | same
  · exact Or.inr ⟨h, short⟩
  · exact Or.inl ⟨h.1, h.2.eq_of_length same⟩

theorem Short.not_hasAll (h : room.Short calls) : ¬ room.HasAll calls :=
  fun all => absurd all.length_le (Nat.not_le_of_lt h.2)

end Log

end ChatRoom

/-- The events of devices that have the room open: sending, the server taking a
write, snapshots. -/
def Event.isChat : Event → Bool
  | .sendMessage .. | .applyWrite | .raiseRoom _ | .runRoom _ => true
  | _ => false

/-- Every device has loaded the one room document, perhaps in an earlier version, and
listens to it. -/
structure AllOpened (id : String) (start : ChatRoom) (s : Cloud κ) : Prop where
  aligned : start.Aligned
  document : ∃ data, s.documents ⟨.rooms, id⟩ = some data ∧
    ChatRoom.ofDictonary data = some start
  alone : ∀ other, other ≠ id → s.documents ⟨.rooms, other⟩ = none
  opened : ∀ c, (s.devices c).messenger.idDiscussion = some id
  cached : ∀ c, ∃ room, (s.devices c).messenger.currentChatRoom = some room ∧
    room.SublistOf start.messages
  listens : ∀ c, ∃ registration, (registration, id) ∈ (s.devices c).registrations
  settled : s.Settled
  callbacks : ∀ c, ∀ callback ∈ (s.devices c).roomCallbacks, ∀ data ∈ callback.data,
    ∃ room, ChatRoom.ofDictonary data = some room ∧ room.SublistOf start.messages

/-- The room document holds every message of the log. -/
def NothingLost (id : String) (calls : List Message) (s : Cloud κ) : Prop :=
  ∃ data room, s.documents ⟨.rooms, id⟩ = some data ∧ ChatRoom.ofDictonary data = some room ∧
    room.HasAll calls

/-- Who sends has cached a room with all messages sent before. -/
def SendsInformed (sm : Cloud κ × List Message) (a : Action κ) : Prop :=
  a.event.isSend = true →
    ∀ room ∈ (sm.1.devices a.client).messenger.currentChatRoom, room.HasAll sm.2

instance (sm : Cloud κ × List Message) (a : Action κ) : Decidable (SendsInformed sm a) :=
  inferInstanceAs (Decidable (_ → ∀ _ ∈ (sm.1.devices a.client).messenger.currentChatRoom,
    List.Subperm _ _))

/-- What the events of an open room keep: the room stays open and cached, its
document stays, and all writes are of this room. -/
structure Chatting (id : String) (s : Cloud κ) : Prop where
  opened : ∀ c, (s.devices c).messenger.idDiscussion = some id
  cached : ∀ c, ∃ room, (s.devices c).messenger.currentChatRoom = some room
  queued : ∀ c, ∀ w ∈ (s.devices c).pending, ∃ room : ChatRoom,
    w = .setData ⟨.rooms, id⟩ room.dictonary
  document : ∃ data, s.documents ⟨.rooms, id⟩ = some data

section Steps

variable [DecidableEq κ] {id : String} {s t : Cloud κ} {calls : List Message} {a : Action κ}

/-- A room stays cached: what is read of the room decodes. -/
theorem Chatting.cached_step (h : Chatting id s) {P : ChatRoom → Prop}
    (data : (RoomProperty.everywhere κ P).Holds s) (chat : a.event.isChat = true)
    (hstep : s.step a = some t) :
    ∀ c, ∃ room, (t.devices c).messenger.currentChatRoom = some room := by
  obtain ⟨client, event⟩ := a
  have taken := Cloud.step_device hstep
  refine Cloud.step_forall_devices hstep
    (Q := fun d => ∃ room, d.messenger.currentChatRoom = some room) h.cached ?_
  cases event with
  | sendMessage owner message now =>
    rw [(Device.step_of_method rfl taken).trans (Device.call_sendMessage ..)]
    exact ⟨_, rfl⟩
  | applyWrite =>
    rw [(Device.step_sameRoom taken rfl).currentChatRoom]
    exact h.cached client
  | raiseRoom index =>
    obtain ⟨_, _, -, after⟩ := Device.step_raiseRoom taken
    rw [after]
    exact h.cached client
  | runRoom index =>
    obtain ⟨callback, waiting, after⟩ := Device.step_runRoom taken
    rw [after]
    -- a snapshot that does not decode would leave no room behind
    rcases Device.runRoomCallback_cases (s.devices client) callback with
      same | ⟨fields, hfields, replaced⟩
    · rw [same]
      exact h.cached client
    · obtain ⟨room, decoded, -⟩ := (data.devices client).callbacks callback
        (List.mem_of_getElem? waiting) fields hfields rfl
      rw [replaced, decoded]
      exact ⟨room, rfl⟩
  | _ => cases chat

/-- Only `sendMessage` writes, and to the open room. -/
theorem Chatting.queued_step (h : Chatting id s) (chat : a.event.isChat = true)
    (hstep : s.step a = some t) : ∀ c, ∀ w ∈ (t.devices c).pending, ∃ room : ChatRoom,
      w = .setData ⟨.rooms, id⟩ room.dictonary := by
  obtain ⟨client, event⟩ := a
  have taken := Cloud.step_device hstep
  refine Cloud.step_forall_devices hstep (Q := fun d => ∀ w ∈ d.pending,
    ∃ room : ChatRoom, w = .setData ⟨.rooms, id⟩ room.dictonary) h.queued ?_
  cases event with
  | applyWrite =>
    intro w hw
    rcases Cloud.step_documents_cases hstep with ⟨kept, -⟩ | ⟨v, rest, -, queue, -, left⟩
    · exact absurd rfl kept
    · rw [left] at hw
      exact h.queued client w (queue ▸ List.mem_cons_of_mem _ hw)
  | sendMessage owner message now =>
    rw [Device.step_pending taken (by simp), Device.issues_sendMessage, h.opened client]
    intro w hw
    rcases List.mem_append.mp hw with old | new
    · exact h.queued client w old
    · exact ⟨_, List.mem_singleton.mp new⟩
  | raiseRoom | runRoom =>
    rw [Device.step_pending taken (by simp)]
    exact fun w hw => h.queued client w (by simpa [Device.issues, Device.method] using hw)
  | _ => cases chat

theorem Chatting.step (h : Chatting id s) {P : ChatRoom → Prop}
    (data : (RoomProperty.everywhere κ P).Holds s) (chat : a.event.isChat = true)
    (hstep : s.step a = some t) : Chatting id t where
  opened := by
    refine Cloud.step_forall_devices hstep
      (Q := fun d => d.messenger.idDiscussion = some id) h.opened ?_
    rw [Device.step_idDiscussion (Cloud.step_device hstep)]
    · exact h.opened a.client
    · intro name starts
      rw [starts] at chat
      cases chat
  cached := h.cached_step data chat hstep
  queued := h.queued_step chat hstep
  document := by
    rcases Cloud.step_documents_cases hstep with ⟨-, same⟩ | ⟨w, rest, -, queue, written, -⟩
    · rw [same]
      exact h.document
    · obtain ⟨room, rfl⟩ := h.queued a.client w (queue ▸ List.mem_cons_self)
      rw [written]
      exact ⟨room.stored, (DocumentWrite.toWrite (.setData ⟨.rooms, id⟩ _)).apply_key _⟩

/-- A property of all room data that one more message keeps, and that the calls
made so far may sharpen, is kept by the events of an open room. -/
theorem Chatting.everywhere_step (h : Chatting id s) {P Q : ChatRoom → Prop}
    (data : (RoomProperty.everywhere κ P).Holds s) (weaker : ∀ room, P room → Q room)
    (sent : ∀ owner message now, a.event = .sendMessage owner message now →
      ∀ room, (s.devices a.client).messenger.currentChatRoom = some room → P room →
        Q (room.appending ⟨owner, message, now⟩))
    (chat : a.event.isChat = true) (hstep : s.step a = some t) :
    (RoomProperty.everywhere κ Q).Holds t := by
  refine data.step (RoomProperty.coherent_everywhere _) hstep
    { served := fun _ => weaker
      held := fun _ _ => weaker
      cache := fun _ => weaker
      empty := fun _ _ _ _ _ _ added => by rw [added] at chat; cases chat
      sent := fun owner message now event => ?_
      applied := fun _ _ _ _ _ _ _ _ _ held => held }
  obtain ⟨room, cached⟩ := h.cached a.client
  simp only [h.opened a.client, cached, Option.getD_some]
  exact sent owner message now event room cached ((data.devices a.client).cache room cached)

omit [DecidableEq κ] in
theorem noteMessage_send {owner message : String} {now : Date}
    (event : a.event = .sendMessage owner message now) :
    noteMessage s a calls = calls ++ [⟨owner, message, now⟩] := by
  rw [noteMessage, event]

omit [DecidableEq κ] in
theorem noteMessage_of_not_send (other : a.event.isSend = false) :
    noteMessage s a calls = calls := by
  rw [noteMessage]
  split
  case h_1 event => simp [event, Event.isSend] at other
  case h_2 => rfl

/-- A message that is missing everywhere stays missing. -/
theorem Chatting.short_step (h : Chatting id s)
    (data : (RoomProperty.everywhere κ (ChatRoom.Short calls)).Holds s)
    (chat : a.event.isChat = true) (hstep : s.step a = some t) :
    (RoomProperty.everywhere κ (ChatRoom.Short (noteMessage s a calls))).Holds t := by
  refine h.everywhere_step data (fun room short => ?_)
    (fun owner message now event room _ short => ?_) chat hstep
  · rw [noteMessage]
    split
    · exact short.1.short _
    · exact short
  · rw [noteMessage_send event]
    exact short.appending _

/-- After a send by a device that has not seen every call, a message is missing
everywhere: in what was there before, and in what is written. -/
theorem Chatting.short_of_uninformed (h : Chatting id s)
    (data : (RoomProperty.everywhere κ (ChatRoom.SublistOf calls)).Holds s)
    (chat : a.event.isChat = true) (uninformed : ¬ SendsInformed (s, calls) a)
    (hstep : s.step a = some t) :
    (RoomProperty.everywhere κ (ChatRoom.Short (noteMessage s a calls))).Holds t := by
  simp only [SendsInformed, Classical.not_imp, not_forall] at uninformed
  obtain ⟨sends, stale, hstale, missing⟩ := uninformed
  obtain ⟨owner, message, now, event⟩ : ∃ owner message now,
      a.event = .sendMessage owner message now := by
    cases event : a.event with
    | sendMessage owner message now => exact ⟨owner, message, now, rfl⟩
    | _ => simp [event, Event.isSend] at sends
  rw [noteMessage_send event]
  refine h.everywhere_step data (fun room sublist => sublist.short _) ?_ chat hstep
  intro owner' message' now' event' room cached sublist
  obtain rfl := Option.some.inj (hstale.symm.trans cached)
  cases event.symm.trans event'
  -- a cached room with every call would not have been stale
  exact (sublist.full_or_short.resolve_left fun full => missing full.hasAll).appending _

end Steps

/-! ### Senders that have seen everything -/

/-- All values of the room are sublists of the log, and only values of device `b` can
be up to date. -/
def lagging (calls : List Message) (b : κ) : RoomProperty κ where
  served _ := ChatRoom.Short calls
  held c _ room := room.SublistOf calls ∧ (c ≠ b → room.Short calls)
  cache c room := room.SublistOf calls ∧ (c ≠ b → room.Short calls)

theorem lagging_coherent (calls : List Message) (b : κ) : (lagging calls b).Coherent where
  held_of_served _ _ _ short := ⟨short.1, fun _ => short⟩
  cache_of_held _ _ _ := id

/-- Either nothing is under way and the document has every call, or all writes
under way are of one device, the last of them brings every call, and nothing else
outside this device does. -/
inductive InOrder (id : String) (s : Cloud κ) (calls : List Message) : Prop
  | quiet (data : (RoomProperty.everywhere κ (ChatRoom.SublistOf calls)).Holds s)
      (settled : s.Settled) (stored : ∃ data room, s.documents ⟨.rooms, id⟩ = some data ∧
        ChatRoom.ofDictonary data = some room ∧ room.Full calls)
  | busy (b : κ) (early : List DocumentWrite) (last : ChatRoom)
      (data : (lagging calls b).Holds s) (others : ∀ c, c ≠ b → (s.devices c).pending = [])
      (queue : (s.devices b).pending = early ++ [.setData ⟨.rooms, id⟩ last.dictonary])
      (full : last.Full calls)
      (short : ∀ w ∈ early, ∃ room : ChatRoom, w = .setData ⟨.rooms, id⟩ room.dictonary ∧
        room.Short calls)

section InOrder

variable [DecidableEq κ] {id : String} {s t : Cloud κ} {calls : List Message} {a : Action κ}

omit [DecidableEq κ] in
theorem lagging_sublistOf {b : κ} (data : (lagging calls b).Holds s) :
    (RoomProperty.everywhere κ (ChatRoom.SublistOf calls)).Holds s :=
  Inventory.Holds.mono data (fun _ _ => RoomData.mono fun _ _ short => short.1)
    (fun _ _ _ => RoomData.mono fun _ _ held => held.1)
    (fun _ _ _ => RoomData.mono fun _ _ held => held.1) (fun _ _ cached => cached.1)
    fun _ _ => id

omit [DecidableEq κ] in
theorem InOrder.sublistOf (h : InOrder id s calls) :
    (RoomProperty.everywhere κ (ChatRoom.SublistOf calls)).Holds s := by
  cases h with
  | quiet data => exact data
  | busy b early last data => exact lagging_sublistOf data

omit [DecidableEq κ] in
/-- An informed sender has the full room cached. -/
theorem SendsInformed.full (informed : SendsInformed (s, calls) a)
    (sends : a.event.isSend = true) {room : ChatRoom}
    (cached : (s.devices a.client).messenger.currentChatRoom = some room)
    (sublist : room.SublistOf calls) : room.Full calls :=
  sublist.full_or_short.resolve_right fun short => short.not_hasAll (informed sends room cached)

/-- An informed send: only its own device has writes under way, and now its last
one has every call. -/
theorem InOrder.send (data : (RoomProperty.everywhere κ (ChatRoom.SublistOf calls)).Holds s)
    (chatting : Chatting id s) (others : ∀ c, c ≠ a.client → (s.devices c).pending = [])
    (queued : ∀ w ∈ (s.devices a.client).pending, ∃ room : ChatRoom,
      w = .setData ⟨.rooms, id⟩ room.dictonary ∧ room.SublistOf calls)
    (informed : SendsInformed (s, calls) a) {owner message : String} {now : Date}
    (event : a.event = .sendMessage owner message now) (hstep : s.step a = some t) :
    InOrder id t (noteMessage s a calls) := by
  obtain ⟨room, cached⟩ := chatting.cached a.client
  have full : room.Full calls := informed.full (by rw [event]; rfl) cached
    ((data.devices a.client).cache room cached)
  rw [noteMessage_send event]
  refine .busy a.client (s.devices a.client).pending (room.appending ⟨owner, message, now⟩) ?_
    (fun c other => ?_) ?_ (full.appending _) fun w hw => ?_
  · refine data.step (lagging_coherent ..) hstep
      { served := fun _ _ sublist => sublist.short _
        held := fun _ _ _ sublist => ⟨sublist.append _, fun _ => sublist.short _⟩
        cache := fun _ _ sublist => ⟨sublist.append _, fun _ => sublist.short _⟩
        empty := fun _ _ _ _ _ _ added => by rw [added] at event; cases event
        sent := fun owner' message' now' event' => ?_
        applied := fun _ _ applied => by rw [applied] at event; cases event }
    cases event.symm.trans event'
    simp only [chatting.opened a.client, cached, Option.getD_some]
    exact ⟨(full.appending _).sublistOf, fun other => absurd rfl other⟩
  · rw [Cloud.step_devices_of_ne hstep other]
    exact others c other
  · have taken := Cloud.step_device hstep
    rw [event] at taken
    rw [Device.step_pending taken (by simp), Device.issues_sendMessage, chatting.opened a.client,
      cached, Option.getD_some]
    rfl
  · obtain ⟨earlier, rfl, sublist⟩ := queued w hw
    exact ⟨earlier, rfl, sublist.short _⟩

/-- Snapshots and their closures move data to the devices that may have it. -/
theorem InOrder.read (h : InOrder id s calls)
    (reads : (∃ index, a.event = .raiseRoom index) ∨ ∃ index, a.event = .runRoom index)
    (hstep : s.step a = some t) : InOrder id t calls := by
  have unwritten : a.event ≠ .applyWrite := by
    rcases reads with ⟨_, event⟩ | ⟨_, event⟩ <;> simp [event]
  have documents : t.documents = s.documents :=
    (Cloud.step_documents hstep).trans (Cloud.documentsAfter_of_ne unwritten)
  have pending (c : κ) : (t.devices c).pending = (s.devices c).pending := by
    by_cases acting : c = a.client
    · rw [acting, Device.step_pending (Cloud.step_device hstep) unwritten]
      rcases reads with ⟨_, event⟩ | ⟨_, event⟩ <;> simp [event, Device.issues, Device.method]
    · rw [Cloud.step_devices_of_ne hstep acting]
  have quiet (P : RoomProperty κ) : P.Grows P s a := by
    rcases reads with ⟨_, event⟩ | ⟨_, event⟩ <;>
      exact RoomProperty.Grows.of_quiet (by simp [event]) (by simp [event]) (by simp [event])
  cases h with
  | quiet data settled stored =>
    refine .quiet (data.step (RoomProperty.coherent_everywhere _) hstep (quiet _))
      (fun c => (pending c).trans (settled c)) ?_
    rwa [documents]
  | busy b early last data others queue full short =>
    exact .busy b early last (data.step (lagging_coherent ..) hstep (quiet _))
      (fun c other => (pending c).trans (others c other)) ((pending b).trans queue) full short

/-- The server takes the oldest write. The last one brings every call. -/
theorem InOrder.apply (h : InOrder id s calls) (event : a.event = .applyWrite)
    (hstep : s.step a = some t) : InOrder id t calls := by
  rcases Cloud.step_documents_cases hstep with ⟨kept, -⟩ | ⟨w, rest, -, pending, written, left⟩
  · exact absurd event kept
  cases h with
  | quiet data settled =>
    rw [settled a.client] at pending
    cases pending
  | busy b early last data others queue full short =>
    -- only device `b` has writes for the server to take
    obtain rfl : a.client = b := by
      by_contra other
      rw [others _ other] at pending
      cases pending
    have idle : ∀ c, c ≠ a.client → (t.devices c).pending = [] := fun c other => by
      rw [Cloud.step_devices_of_ne hstep other]
      exact others c other
    rw [queue] at pending
    cases early with
    | nil =>
      -- the last write is applied and brings every call
      obtain ⟨rfl, rfl⟩ := List.cons.inj pending
      refine .quiet ?_ (fun c => ?_) ⟨last.stored, last, ?_, ChatRoom.ofDictonary_stored _, full⟩
      · have sublist := sublistOf_step (lagging_sublistOf data) hstep
        rwa [noteMessage_of_not_send (by rw [event]; rfl)] at sublist
      · by_cases acting : c = a.client
        · rw [acting, left]
        · exact idle c acting
      · rw [written]
        exact (DocumentWrite.toWrite (.setData ⟨.rooms, id⟩ _)).apply_key _
    | cons first early =>
      -- an earlier write is applied, so the document is still short
      obtain ⟨rfl, rfl⟩ := List.cons.inj pending
      refine .busy a.client early last ?_ idle (by rw [left]; rfl) full fun v hv =>
        short v (List.mem_cons_of_mem _ hv)
      refine data.step (lagging_coherent ..) hstep
        { served := fun _ _ short => short
          held := fun _ _ _ held => held
          cache := fun _ _ cached => cached
          empty := fun _ _ _ _ _ _ added => by rw [added] at event; cases event
          sent := fun _ _ _ sends => by rw [sends] at event; cases event
          applied := fun v rest' _ taken _ data' room hdata decoded _ => ?_ }
      obtain ⟨rfl, -⟩ := List.cons.inj ((queue.symm.trans taken).symm.trans (List.cons_append ..))
      obtain ⟨other, rfl, shortRoom⟩ := short v List.mem_cons_self
      obtain rfl := Option.some.inj hdata
      obtain rfl := Option.some.inj ((ChatRoom.ofDictonary_stored other).symm.trans decoded)
      exact shortRoom

theorem InOrder.step (h : InOrder id s calls) (chatting : Chatting id s)
    (informed : SendsInformed (s, calls) a) (chat : a.event.isChat = true)
    (hstep : s.step a = some t) :
    InOrder id t (noteMessage s a calls) := by
  cases event : a.event with
  | sendMessage owner message now =>
    refine InOrder.send h.sublistOf chatting ?_ ?_ informed event hstep
    · intro c other
      cases h with
      | quiet data settled => exact settled c
      | busy b early last data others =>
        obtain ⟨room, cached⟩ := chatting.cached a.client
        -- the sender has seen every call, so it is the one device that is not behind
        obtain rfl : a.client = b := by
          by_contra stale
          exact (((data.devices a.client).cache room cached).2 stale).not_hasAll
            (informed (by rw [event]; rfl) room cached)
        exact others c other
    · intro w hw
      obtain ⟨room, rfl⟩ := chatting.queued a.client w hw
      obtain ⟨found, decoded, sublist⟩ :=
        (h.sublistOf.devices a.client).pending _ hw room.stored rfl rfl
      rw [ChatRoom.ofDictonary_stored, Option.some.injEq] at decoded
      exact ⟨room, rfl, decoded ▸ sublist⟩
  | applyWrite =>
    rw [noteMessage_of_not_send (by rw [event]; rfl)]
    exact h.apply event hstep
  | raiseRoom index =>
    rw [noteMessage_of_not_send (by rw [event]; rfl)]
    exact h.read (Or.inl ⟨index, event⟩) hstep
  | runRoom index =>
    rw [noteMessage_of_not_send (by rw [event]; rfl)]
    exact h.read (Or.inr ⟨index, event⟩) hstep
  | _ =>
    rw [event] at chat
    cases chat

end InOrder

/-! ### Whole runs -/

section Runs

variable {id : String} {start : ChatRoom} {s s₀ : Cloud κ} {calls : List Message}

namespace AllOpened

theorem chatting (h : AllOpened id start s₀) : Chatting id s₀ where
  opened := h.opened
  cached c := (h.cached c).imp fun _ => And.left
  queued c w hw := by rw [h.settled c] at hw; cases hw
  document := h.document.imp fun _ => And.left

theorem full (h : AllOpened id start s₀) : start.Full start.messages := ⟨h.aligned, rfl⟩

/-- All room data of the start holds stored messages. -/
theorem everywhere (h : AllOpened id start s₀) :
    (RoomProperty.everywhere κ (ChatRoom.SublistOf start.messages)).Holds s₀ where
  documents := by
    rintro ⟨collection, other⟩ data hdata rfl
    obtain ⟨first, stored, decoded⟩ := h.document
    by_cases here : other = id
    · subst here
      obtain rfl := Option.some.inj (stored.symm.trans hdata)
      exact ⟨start, decoded, h.full.sublistOf⟩
    · rw [h.alone other here] at hdata
      cases hdata
  devices c :=
    { pending := fun w hw => by rw [h.settled c] at hw; cases hw
      reported := fun _ _ _ _ _ chats => by cases chats
      changes := fun _ _ chats => by cases chats
      callbacks := fun callback waiting data hdata _ => h.callbacks c callback waiting data hdata
      replies := fun _ _ _ _ => ⟨"", fun chats => by cases chats⟩
      cache := fun room cached => by
        obtain ⟨older, held, sublist⟩ := h.cached c
        obtain rfl := Option.some.inj (held.symm.trans cached)
        exact sublist
      entries := fun _ _ => trivial }

theorem inOrder (h : AllOpened id start s₀) : InOrder id s₀ start.messages :=
  .quiet h.everywhere h.settled
    (h.document.imp fun _ stored => ⟨start, stored.1, stored.2, h.full⟩)

end AllOpened

/-- If one message is missing everywhere, the document lost it. -/
theorem not_nothingLost_of_short
    (short : (RoomProperty.everywhere κ (ChatRoom.Short calls)).Holds s) :
    ¬ NothingLost id calls s := by
  rintro ⟨data, room, stored, decoded, all⟩
  obtain ⟨found, hfound, missing⟩ := short.documents _ data stored rfl
  obtain rfl := Option.some.inj (hfound.symm.trans decoded)
  exact missing.not_hasAll all

theorem InOrder.nothingLost (h : InOrder id s calls) (settled : s.Settled) :
    NothingLost id calls s := by
  cases h with
  | quiet data _ stored =>
    obtain ⟨data, room, stored, decoded, full⟩ := stored
    exact ⟨data, room, stored, decoded, full.hasAll⟩
  | busy b early last data others queue =>
    rw [settled b] at queue
    simp at queue

/-- Devices have one room open, send, and get snapshots in any order. Once all
writes have been applied the document holds every message, stored at the start or
sent since, if and only if every sender had seen all messages sent before. -/
theorem nothing_lost_iff [DecidableEq κ] (opened : AllOpened id start s₀) {labels : List (Action κ)}
    (chat : ∀ a ∈ labels, a.event.isChat = true)
    (run : exec (watch Cloud.step noteMessage) (s₀, start.messages) labels = some (s, calls))
    (settled : s.Settled) :
    NothingLost id calls s ↔
      EveryStep (watch Cloud.step noteMessage) SendsInformed (s₀, start.messages) labels := by
  have chats : EveryStep (watch Cloud.step noteMessage) (fun _ a => a.event.isChat = true)
      (s₀, start.messages) labels := .of_forall_mem chat
  constructor
  · -- the first send of a device that has not seen everything would lose a message for good
    intro kept
    have split := everyStep_or_of_exec
      (I := fun sm => Chatting id sm.1 ∧
        (RoomProperty.everywhere κ (ChatRoom.SublistOf sm.2)).Holds sm.1)
      (J := fun sm => Chatting id sm.1 ∧
        (RoomProperty.everywhere κ (ChatRoom.Short sm.2)).Holds sm.1)
      (P := SendsInformed)
      (watch_kept_of_guard fun s calls a t h chat hstep =>
        ⟨h.1.step h.2 chat hstep, sublistOf_step h.2 hstep⟩)
      (watch_kept_of_guard fun s calls a t h chat hstep =>
        ⟨h.1.step h.2 chat hstep, h.1.short_step h.2 chat hstep⟩)
      (fun sm a tn h chat uninformed taken => by
        obtain ⟨hstep, hnote⟩ := watch_eq_some.mp taken
        refine ⟨h.1.step h.2 chat hstep, ?_⟩
        rw [← hnote]
        exact h.1.short_of_uninformed h.2 chat uninformed hstep)
      ⟨opened.chatting, opened.everywhere⟩ chats run
    exact split.resolve_right fun lost => not_nothingLost_of_short lost.2 kept
  · intro informed
    have ordered := exec_invariant_of_everyStep
      (I := fun sm => Chatting id sm.1 ∧ InOrder id sm.1 sm.2)
      (watch_kept_of_guard fun s calls a t h guard hstep =>
        ⟨h.1.step h.2.sublistOf guard.2 hstep, h.2.step h.1 guard.1 guard.2 hstep⟩)
      ⟨opened.chatting, opened.inOrder⟩ (informed.and chats) run
    exact ordered.2.nothingLost settled

end Runs

/-- Two devices have the screen of the same empty room open. -/
def bothOpened : Cloud Bool where
  documents path := if path = ⟨.rooms, "r1"⟩ then some ChatRoom.empty.stored else none
  devices _ :=
    { messenger :=
        { chatInformationArray := [⟨"дом", 0, ⟨0⟩, ⟨0⟩, "r1", "c1"⟩]
          idDiscussion := some "r1"
          currentChatRoom := some .empty
          listenerChat := some 0 }
      registrations := [(0, "r1")]
      nextRegistration := 1 }
  created := []

theorem allOpened_bothOpened : AllOpened "r1" .empty bothOpened where
  aligned := ChatRoom.aligned_empty
  document := ⟨_, rfl, ChatRoom.ofDictonary_stored _⟩
  alone _ different := if_neg fun same => different (DocumentPath.mk.inj same).2
  opened _ := rfl
  cached _ := ⟨_, rfl, ChatRoom.sublistOf_empty _⟩
  listens _ := ⟨0, List.mem_singleton_self _⟩
  settled _ := rfl
  callbacks _ _ waiting := by cases waiting

/-- One device sends, the other gets the snapshot and answers. -/
def answered : List (Action Bool) :=
  [⟨true, .sendMessage "Аня" "привет" 1⟩, ⟨true, .applyWrite⟩, ⟨false, .raiseRoom 0⟩,
   ⟨false, .runRoom 0⟩, ⟨false, .sendMessage "Боря" "пока" 2⟩, ⟨false, .applyWrite⟩]

theorem nothing_lost_iff_answered :
    ∃ s calls, exec (watch Cloud.step noteMessage) (bothOpened, []) answered = some (s, calls) ∧
      NothingLost "r1" calls s := by
  have reached : (exec (watch Cloud.step noteMessage) (bothOpened, []) answered).map (fun sm =>
      ((sm.1.devices true).pending.length, (sm.1.devices false).pending.length)) =
        some (0, 0) := by decide +kernel
  obtain ⟨⟨s, calls⟩, run, values⟩ := Option.map_eq_some_iff.mp reached
  simp only [Prod.mk.injEq, List.length_eq_zero_iff] at values
  have settled : s.Settled := fun c => by cases c <;> simp [values]
  exact ⟨s, calls, run, (nothing_lost_iff allOpened_bothOpened (by decide) run settled).mpr
    (by decide +kernel)⟩

/-- Both devices send before either has got the other's message: the first message
is lost. -/
theorem not_nothing_lost :
    ¬ ∀ s₀ : Cloud Bool, AllOpened "r1" .empty s₀ → ∀ labels : List (Action Bool),
      (∀ a ∈ labels, a.event.isChat = true) → ∀ s calls,
        exec (watch Cloud.step noteMessage) (s₀, []) labels = some (s, calls) → s.Settled →
          NothingLost "r1" calls s := by
  intro always
  let crossing : List (Action Bool) :=
    [⟨true, .sendMessage "Аня" "привет" 1⟩, ⟨false, .sendMessage "Боря" "пока" 2⟩,
     ⟨true, .applyWrite⟩, ⟨false, .applyWrite⟩]
  have reached : (exec (watch Cloud.step noteMessage) (bothOpened, []) crossing).map (fun sm =>
      ((sm.1.devices true).pending.length, (sm.1.devices false).pending.length,
        (sm.1.documents ⟨.rooms, "r1"⟩).bind ChatRoom.ofDictonary, sm.2)) =
      some (0, 0, some ⟨["Боря"], ["пока"], [2]⟩,
        [⟨"Аня", "привет", 1⟩, ⟨"Боря", "пока", 2⟩]) := by decide +kernel
  obtain ⟨⟨s, calls⟩, run, values⟩ := Option.map_eq_some_iff.mp reached
  simp only [Prod.mk.injEq, List.length_eq_zero_iff] at values
  obtain ⟨first, second, held, rfl⟩ := values
  have settled : s.Settled := fun c => by cases c <;> assumption
  obtain ⟨data, room, stored, decoded, all⟩ :=
    always bothOpened allOpened_bothOpened crossing (by decide) s _ run settled
  rw [stored, Option.bind_some, decoded, Option.some.injEq] at held
  subst held
  exact absurd all.length_le (by decide)

end OnMap
