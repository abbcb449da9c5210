/-
# The history of a room that one device writes to

`sendMessage` writes the whole cached room back. The cached room is dropped when
a screen opens and comes back with the first answer or snapshot, so what is sent
before that replaces the history by the new message alone. What is sent after a
read of the room that is newer than the device's own last write extends it.
-/

import OnMap.Cloud.Calls
import OnMap.Library.Transition

namespace OnMap

open Transition Overlay

variable {κ : Type}

/-- The room that a document of `rooms` holds, as client `c` sees it. -/
def Cloud.heldRoom (s : Cloud κ) (c : κ) (id : String) : ChatRoom :=
  ((s.view c ⟨.rooms, id⟩).bind ChatRoom.ofDictonary).getD .empty

/-- Whether the event is a call of `sendMessage`. -/
def Event.isSend : Event → Bool
  | .sendMessage .. => true
  | _ => false

/-- Whether a waiting room closure will replace the cached room. -/
def Device.takesEffect (d : Device) : RoomCallback → Bool
  | .reply _ data => data.isSome
  | .snapshot registration _ data =>
    data.isSome && decide (registration ∈ d.registrations.map Prod.fst)

/-- What is recorded about client `c` and one room: whether the cached room was
read from the document, or written to it, after the client's last other write;
and for each waiting room closure whether it was so read. -/
structure Reading where
  current : Bool := false
  inbox : List Bool := []

/-- Record the reads of a room by client `c`. -/
def noteReading [DecidableEq κ] (c : κ) (id : String) (s : Cloud κ) (a : Action κ)
    (r : Reading) : Reading :=
  let d := s.devices c
  if a.client = c then
    match a.event with
    | .startDiscussRoom _ | .closeDiscussRoom => { r with current := false }
    | .sendMessage .. =>
      if d.messenger.idDiscussion = some id then
        { current := true, inbox := r.inbox.map fun _ => false }
      else { r with current := false }
    | .answerRoom index => { r with inbox := r.inbox ++ [d.gets[index]? == some id] }
    | .raiseRoom index =>
      { r with inbox := r.inbox ++ [(d.registrations[index]?).map Prod.snd == some id] }
    | .runRoom index =>
      { current :=
          if (d.roomCallbacks[index]?).any d.takesEffect then (r.inbox[index]?).getD false
          else r.current
        inbox := r.inbox.eraseIdx index }
    | _ => r
  else r

/-- The room is there to be read: only client `c` writes to it, nothing of it is on
its way, and what is stored decodes. -/
structure Stored (c : κ) (id : String) (s : Cloud κ) : Prop where
  settled : ∀ client, ∀ w ∈ (s.devices client).pending, w.path ≠ ⟨.rooms, id⟩
  decodes : ∀ data, s.documents ⟨.rooms, id⟩ = some data → (ChatRoom.ofDictonary data).isSome
  waiting : (s.devices c).roomCallbacks = []

/-- Only `sendMessage` of client `c` writes to the room. -/
def OnlySends (c : κ) (id : String) (s : Cloud κ) (a : Action κ) : Prop :=
  ∀ w ∈ (s.devices a.client).issues a.event, w.path = ⟨.rooms, id⟩ →
    a.client = c ∧ a.event.isSend = true

instance [DecidableEq κ] (c : κ) (id : String) (s : Cloud κ) (a : Action κ) :
    Decidable (OnlySends c id s a) :=
  inferInstanceAs (Decidable (∀ w ∈ (s.devices a.client).issues a.event, _ → _ ∧ _))

/-- What client `c` sends to the room is the room held just before, with the one
message appended, and the count of messages is one more. -/
def AppendsOne [DecidableEq κ] (c : κ) (id : String) (s : Cloud κ) (a : Action κ) : Prop :=
  ∀ owner message now, a = ⟨c, .sendMessage owner message now⟩ →
    (s.devices c).messenger.idDiscussion = some id →
      (s.devices c).issues a.event =
          [.setData ⟨.rooms, id⟩
            ((s.heldRoom c id).appending ⟨owner, message, now⟩).dictonary] ∧
        ∀ t, s.step a = some t → (t.devices c).messenger.countMessages =
          (s.heldRoom c id).messagesArray.length + 1

/-- When client `c` sends to the room, the cached room is a read of the room that
is newer than the client's last write (or is that write); or the room is empty
and nothing is cached that is not. -/
def ReadFirst (c : κ) (id : String) (sm : Cloud κ × Reading) (a : Action κ) : Prop :=
  a.client = c → a.event.isSend = true → (sm.1.devices c).messenger.idDiscussion = some id →
    sm.2.current = true ∨
      (sm.1.devices c).messenger.currentChatRoom.getD .empty = .empty ∧
        sm.1.heldRoom c id = .empty

instance [DecidableEq κ] (c : κ) (id : String) (sm : Cloud κ × Reading) (a : Action κ) :
    Decidable (ReadFirst c id sm a) :=
  inferInstanceAs (Decidable (_ → _ → _ → _ ∨ _))

/-- What the record says of the state. -/
structure Reads (c : κ) (id : String) (sm : Cloud κ × Reading) : Prop where
  others : ∀ client, client ≠ c → ∀ w ∈ (sm.1.devices client).pending, w.path ≠ ⟨.rooms, id⟩
  decodes : ∀ data, sm.1.view c ⟨.rooms, id⟩ = some data → (ChatRoom.ofDictonary data).isSome
  current : sm.2.current = true →
    (sm.1.devices c).messenger.currentChatRoom = some (sm.1.heldRoom c id)
  length : sm.2.inbox.length = (sm.1.devices c).roomCallbacks.length
  inbox : ∀ (index : ℕ) (callback : RoomCallback),
    (sm.1.devices c).roomCallbacks[index]? = some callback →
      sm.2.inbox[index]? = some true → callback.data = sm.1.view c ⟨.rooms, id⟩

section Steps

variable [DecidableEq κ] {c : κ} {id : String} {s t : Cloud κ} {r : Reading} {a : Action κ}

theorem Device.runRoomCallback_of_takesEffect {d : Device} {callback : RoomCallback}
    (effect : d.takesEffect callback = true) : ∃ data, callback.data = some data ∧
      d.runRoomCallback callback =
        { d.messenger with currentChatRoom := ChatRoom.ofDictonary data } := by
  cases callback with
  | reply room data =>
    obtain ⟨fields, rfl⟩ := Option.isSome_iff_exists.mp effect
    exact ⟨fields, rfl, rfl⟩
  | snapshot registration room data =>
    simp only [takesEffect, Bool.and_eq_true, decide_eq_true_eq] at effect
    obtain ⟨fields, rfl⟩ := Option.isSome_iff_exists.mp effect.1
    exact ⟨fields, rfl, by simp only [runRoomCallback, if_pos effect.2]; rfl⟩

theorem Device.runRoomCallback_of_not_takesEffect {d : Device} {callback : RoomCallback}
    (quiet : ¬ d.takesEffect callback = true) : d.runRoomCallback callback = d.messenger := by
  cases callback with
  | reply room data =>
    cases data with
    | none => rfl
    | some fields => exact absurd rfl quiet
  | snapshot registration room data =>
    rw [runRoomCallback]
    split
    case isTrue live =>
      cases data with
      | none => rfl
      | some fields => simp [takesEffect, live] at quiet
    case isFalse => rfl

/-- The step sends to the room. -/
def SendsTo (c : κ) (id : String) (s : Cloud κ) (a : Action κ) : Prop :=
  a.client = c ∧ a.event.isSend = true ∧ (s.devices c).messenger.idDiscussion = some id

/-- The room looks the same to the client after every step that does not send to it. -/
theorem Reads.view_step (h : Reads c id (s, r)) (alone : OnlySends c id s a)
    (other : ¬ SendsTo c id s a) (hstep : s.step a = some t) :
    t.view c ⟨.rooms, id⟩ = s.view c ⟨.rooms, id⟩ := by
  refine Cloud.view_step hstep (fun foreign _ w hw => ?_) fun acting w hw path => other ?_
  · exact h.others a.client foreign w (List.mem_of_mem_head? hw)
  · subst acting
    obtain ⟨-, sending⟩ := alone w hw path
    refine ⟨rfl, sending, ?_⟩
    obtain ⟨client, event⟩ := a
    cases event with
    | sendMessage owner message now =>
      rw [Device.issues_sendMessage] at hw
      obtain ⟨chatLink, opened, rfl⟩ : ∃ chatLink,
          (s.devices client).messenger.idDiscussion = some chatLink ∧ _ = w := by
        simpa using hw
      rw [opened, (DocumentPath.mk.inj path).2]
    | _ => cases sending

theorem Reads.others_step (h : Reads c id (s, r)) (alone : OnlySends c id s a)
    (hstep : s.step a = some t) : ∀ client, client ≠ c → ∀ w ∈ (t.devices client).pending,
      w.path ≠ ⟨.rooms, id⟩ := by
  intro client foreign w hw
  by_cases acting : client = a.client
  · subst acting
    by_cases applied : a.event = .applyWrite
    · rcases Cloud.step_documents_cases hstep with ⟨kept, -⟩ | ⟨v, rest, -, queue, -, left⟩
      · exact absurd applied kept
      · rw [left] at hw
        exact h.others _ foreign w (queue ▸ List.mem_cons_of_mem _ hw)
    · rw [Device.step_pending (Cloud.step_device hstep) applied] at hw
      rcases List.mem_append.mp hw with old | new
      · exact h.others _ foreign w old
      · exact fun path => foreign (alone w new path).1
  · rw [Cloud.step_devices_of_ne hstep acting] at hw
    exact h.others client foreign w hw

/-- A send to the room stores the cached room, and the client sees it at once. -/
theorem view_of_sendsTo {owner message : String} {now : Date}
    (opened : (s.devices c).messenger.idDiscussion = some id)
    (hstep : s.step ⟨c, .sendMessage owner message now⟩ = some t) :
    t.view c ⟨.rooms, id⟩ = some (((s.devices c).messenger.currentChatRoom.getD .empty).appending
      ⟨owner, message, now⟩).stored := by
  rw [Cloud.view_step_own hstep, Device.issues_sendMessage, opened]
  exact (DocumentWrite.toWrite (.setData ⟨.rooms, id⟩ _)).apply_key (s.view c)

theorem Reads.sendsTo_step (h : Reads c id (s, r)) (alone : OnlySends c id s a)
    (sends : SendsTo c id s a) (hstep : s.step a = some t) :
    Reads c id (t, noteReading c id s a r) := by
  obtain ⟨client, event⟩ := a
  obtain ⟨acting, sending, opened⟩ := sends
  obtain rfl : client = c := acting
  cases event with
  | sendMessage owner message now =>
    have shown := view_of_sendsTo opened hstep
    have after := (Device.step_of_method rfl (Cloud.step_device hstep)).trans
      (Device.call_sendMessage ..)
    have noted : noteReading client id s ⟨client, .sendMessage owner message now⟩ r =
        ⟨true, r.inbox.map fun _ => false⟩ := by
      simp [noteReading, opened]
    rw [noted]
    refine ⟨h.others_step alone hstep, ?_, fun _ => ?_, ?_, ?_⟩
    · intro data hdata
      rw [shown, Option.some.injEq] at hdata
      rw [← hdata, ChatRoom.ofDictonary_stored]
      rfl
    · rw [after, Cloud.heldRoom, shown]
      simp [opened]
    · rw [after]
      simpa using h.length
    · -- what was read before the write is not the room any more
      intro index callback _ flagged
      have off : ∀ flag ∈ r.inbox.map fun _ => false, flag = false := by simp
      exact absurd (off true (List.mem_of_getElem? flagged)) (by decide)
  | _ => cases sending

omit [DecidableEq κ] in
/-- A closure that was read from the room makes the room the cached one. -/
theorem Reads.current_of_runRoom (h : Reads c id (s, r)) {index : ℕ} {callback : RoomCallback}
    (waiting : (s.devices c).roomCallbacks[index]? = some callback)
    (on : (if (s.devices c).takesEffect callback then (r.inbox[index]?).getD false
      else r.current) = true) :
    ((s.devices c).runRoomCallback callback).currentChatRoom = some (s.heldRoom c id) := by
  split at on
  case isTrue effect =>
    obtain ⟨data, hdata, ran⟩ := Device.runRoomCallback_of_takesEffect effect
    have flagged : r.inbox[index]? = some true := by
      cases flag : r.inbox[index]? with
      | none => simp [flag] at on
      | some value => simpa [flag] using on
    have shown : s.view c ⟨.rooms, id⟩ = some data :=
      (h.inbox index callback waiting flagged).symm.trans hdata
    obtain ⟨room, decoded⟩ := Option.isSome_iff_exists.mp (h.decodes data shown)
    rw [ran, Cloud.heldRoom, shown, Option.bind_some, decoded]
    rfl
  case isFalse quiet =>
    rw [Device.runRoomCallback_of_not_takesEffect quiet]
    exact h.current on

section Unsent

/-! A step that does not send to the room leaves what the client sees of it alone. -/

/-- Only the cached room and the closures that wait have to be looked at. -/
theorem Reads.unsent_step (h : Reads c id (s, r)) (alone : OnlySends c id s a)
    (unsent : ¬ SendsTo c id s a) (hstep : s.step a = some t) {r' : Reading}
    (current : r'.current = true →
      (t.devices c).messenger.currentChatRoom = some (s.heldRoom c id))
    (length : r'.inbox.length = (t.devices c).roomCallbacks.length)
    (inbox : ∀ (index : ℕ) (callback : RoomCallback),
      (t.devices c).roomCallbacks[index]? = some callback → r'.inbox[index]? = some true →
        callback.data = s.view c ⟨.rooms, id⟩) : Reads c id (t, r') := by
  have shown := h.view_step alone unsent hstep
  have held : t.heldRoom c id = s.heldRoom c id := by rw [Cloud.heldRoom, Cloud.heldRoom, shown]
  refine ⟨h.others_step alone hstep, fun data hdata => h.decodes data (shown ▸ hdata), ?_,
    length, ?_⟩
  · rw [held]
    exact current
  · rw [shown]
    exact inbox

/-- No closure joins or leaves the queue. -/
theorem Reads.keep (h : Reads c id (s, r)) (alone : OnlySends c id s a)
    (unsent : ¬ SendsTo c id s a) (hstep : s.step a = some t) {r' : Reading}
    (current : r'.current = true →
      (t.devices c).messenger.currentChatRoom = some (s.heldRoom c id))
    (inbox : r'.inbox = r.inbox)
    (callbacks : (t.devices c).roomCallbacks = (s.devices c).roomCallbacks) :
    Reads c id (t, r') := by
  apply h.unsent_step alone unsent hstep current
  · rw [inbox, callbacks]
    exact h.length
  · rw [inbox, callbacks]
    exact h.inbox

/-- A closure joins the queue, flagged if it brings the room. -/
theorem Reads.deliver (h : Reads c id (s, r)) (alone : OnlySends c id s a)
    (unsent : ¬ SendsTo c id s a) (hstep : s.step a = some t) {callback : RoomCallback}
    {room : String} (reads : callback.data = s.view c ⟨.rooms, room⟩)
    (callbacks : (t.devices c).roomCallbacks = (s.devices c).roomCallbacks ++ [callback])
    (cached : (t.devices c).messenger = (s.devices c).messenger) :
    Reads c id (t, { r with inbox := r.inbox ++ [some room == some id] }) := by
  apply h.unsent_step alone unsent hstep
  · rw [cached]
    exact h.current
  · rw [callbacks, List.length_append, List.length_append, h.length]
    rfl
  · intro index waiting hwaiting flagged
    rw [callbacks] at hwaiting
    by_cases old : index < (s.devices c).roomCallbacks.length
    · rw [List.getElem?_append_left old] at hwaiting
      rw [List.getElem?_append_left (h.length ▸ old)] at flagged
      exact h.inbox index waiting hwaiting flagged
    · -- the flag of the new closure compares its room with this one
      have last := Nat.le_of_not_lt old
      rw [List.getElem?_append_right last] at hwaiting
      rw [List.getElem?_append_right (h.length ▸ last)] at flagged
      obtain rfl := List.mem_singleton.mp (List.mem_of_getElem? hwaiting)
      have here : room = id := by simpa using List.mem_of_getElem? flagged
      rw [reads, here]

/-- A closure runs and leaves the queue. -/
theorem Reads.run (h : Reads c id (s, r)) (alone : OnlySends c id s a)
    (unsent : ¬ SendsTo c id s a) (hstep : s.step a = some t) {index : ℕ}
    {callback : RoomCallback} (waiting : (s.devices c).roomCallbacks[index]? = some callback)
    (callbacks : (t.devices c).roomCallbacks = (s.devices c).roomCallbacks.eraseIdx index)
    (ran : (t.devices c).messenger = (s.devices c).runRoomCallback callback) :
    Reads c id (t, {
      current := if (s.devices c).takesEffect callback then (r.inbox[index]?).getD false
        else r.current
      inbox := r.inbox.eraseIdx index }) := by
  apply h.unsent_step alone unsent hstep
  · rw [ran]
    exact h.current_of_runRoom waiting
  · rw [callbacks, List.length_eraseIdx, List.length_eraseIdx, h.length]
  · intro position other hother flagged
    rw [callbacks, List.getElem?_eraseIdx] at hother
    rw [List.getElem?_eraseIdx] at flagged
    split at hother
    case isTrue before =>
      rw [if_pos before] at flagged
      exact h.inbox position other hother flagged
    case isFalse after =>
      rw [if_neg after] at flagged
      exact h.inbox (position + 1) other hother flagged

end Unsent

/-- Every step of the client keeps the record right. -/
theorem Reads.own_step (h : Reads c id (s, r)) (alone : OnlySends c id s a)
    (unsent : ¬ SendsTo c id s a) (acting : a.client = c) (hstep : s.step a = some t) :
    Reads c id (t, noteReading c id s a r) := by
  subst acting
  have taken := Cloud.step_device hstep
  have keeps (callbacks : (t.devices a.client).roomCallbacks = (s.devices a.client).roomCallbacks)
      (cached : (t.devices a.client).messenger.currentChatRoom =
        (s.devices a.client).messenger.currentChatRoom) : Reads a.client id (t, r) :=
    h.keep alone unsent hstep (by rw [cached]; exact h.current) rfl callbacks
  have drops (noted : (noteReading a.client id s a r).current = false)
      (inbox : (noteReading a.client id s a r).inbox = r.inbox)
      (callbacks : (t.devices a.client).roomCallbacks = (s.devices a.client).roomCallbacks) :
      Reads a.client id (t, noteReading a.client id s a r) :=
    h.keep alone unsent hstep (by rw [noted]; nofun) inbox callbacks
  -- most events leave the room alone and are not noted; the others are taken one by one
  by_cases away : a.event.leavesRoom = true
  · have same := Device.step_sameRoom taken away
    have noted : noteReading a.client id s a r = r := by
      rw [noteReading, if_pos rfl]
      cases event : a.event <;> first
        | rfl
        | rw [event] at away
          cases away
    rw [noted]
    exact keeps same.roomCallbacks same.currentChatRoom
  obtain ⟨client, event⟩ := a
  cases event with
  | startDiscussRoom name =>
    obtain ⟨opened, gets, after⟩ := Device.call_startDiscussRoom s.documents _ name
    have same := (Device.step_of_method rfl taken).trans after
    exact drops (by simp [noteReading]) (by simp [noteReading]) (by rw [same])
  | loadDiscussionRoom =>
    obtain ⟨gets, after⟩ := Device.call_loadDiscussionRoom s.documents _
    have same := (Device.step_of_method rfl taken).trans after
    simpa [noteReading] using keeps (by rw [same]) (by rw [same])
  | setupObserverChatRoom =>
    rcases Device.call_setupObserverChatRoom s.documents _ with ⟨-, after⟩ | ⟨room, -, after⟩ <;>
    · have same := (Device.step_of_method rfl taken).trans after
      simpa [noteReading] using keeps (by rw [same]) (by rw [same])
  | sendMessage owner message now =>
    have same := (Device.step_of_method rfl taken).trans (Device.call_sendMessage ..)
    -- the message goes to another room, whose content the messenger caches now
    have elsewhere : (s.devices client).messenger.idDiscussion ≠ some id :=
      fun opened => unsent ⟨rfl, rfl, opened⟩
    exact drops (by simp [noteReading, elsewhere]) (by simp [noteReading, elsewhere])
      (by rw [same])
  | closeDiscussRoom =>
    have same := (Device.step_of_method rfl taken).trans (Device.call_closeDiscussRoom ..)
    exact drops (by simp [noteReading]) (by simp [noteReading]) (by rw [same])
  | answerRoom index =>
    obtain ⟨room, asked, after⟩ := Device.step_answerRoom taken
    simpa [noteReading, asked] using h.deliver alone unsent hstep rfl
      (by rw [after]) (by rw [after])
  | raiseRoom index =>
    obtain ⟨registration, room, live, after⟩ := Device.step_raiseRoom taken
    simpa [noteReading, live] using h.deliver alone unsent hstep rfl
      (by rw [after]) (by rw [after])
  | runRoom index =>
    obtain ⟨callback, waiting, after⟩ := Device.step_runRoom taken
    simpa [noteReading, waiting] using h.run alone unsent hstep waiting
      (congrArg Device.roomCallbacks after) (congrArg Device.messenger after)
  | _ => exact absurd rfl away

theorem Reads.step (h : Reads c id (s, r)) (alone : OnlySends c id s a)
    (hstep : s.step a = some t) : Reads c id (t, noteReading c id s a r) := by
  by_cases sends : SendsTo c id s a
  · exact h.sendsTo_step alone sends hstep
  by_cases acting : a.client = c
  · exact h.own_step alone sends acting hstep
  · -- another device's step is seen by nobody else's messenger
    have same := Cloud.step_devices_of_ne hstep (Ne.symm acting)
    rw [noteReading, if_neg acting]
    exact h.keep alone sends hstep (by rw [same]; exact h.current) rfl (by rw [same])

/-- A send after a read of the room appends to the room. -/
theorem Reads.appendsOne (h : Reads c id (s, r)) (read : ReadFirst c id (s, r) a) :
    AppendsOne c id s a := by
  rintro owner message now rfl opened
  have cached : (s.devices c).messenger.currentChatRoom.getD .empty = s.heldRoom c id := by
    rcases read rfl rfl opened with on | ⟨empty, held⟩
    · rw [h.current on, Option.getD_some]
    · rw [empty, held]
  refine ⟨?_, fun t hstep => ?_⟩
  · rw [Device.issues_sendMessage, opened, cached]
    rfl
  · have same := (Device.step_of_method rfl (Cloud.step_device hstep)).trans
      (Device.call_sendMessage ..)
    rw [same, ← cached]
    simp [FirestoreMessenger.countMessages, opened, ChatRoom.appending]

end Steps

/-- A room with any history that only client `c` writes to: in every run in which
the client sends to it only after a read of the room newer than its own last
write (or into an empty room), every send appends one message to what the room
held. -/
theorem history_append_only [DecidableEq κ] {c : κ} {id : String} {s : Cloud κ}
    (start : Stored c id s) {labels : List (Action κ)}
    (alone : EveryStep (watch Cloud.step (noteReading c id)) (fun sm => OnlySends c id sm.1)
      (s, {}) labels)
    (read : EveryStep (watch Cloud.step (noteReading c id)) (ReadFirst c id) (s, {}) labels) :
    EveryStep (watch Cloud.step (noteReading c id)) (fun sm => AppendsOne c id sm.1)
      (s, {}) labels := by
  have reads : Reads c id (s, ({} : Reading)) :=
    { others := fun client _ => start.settled client
      decodes := fun data hdata => start.decodes data <| by
        rwa [Cloud.view, Device.view, overlay_of_forall_ne] at hdata
        intro w hw
        obtain ⟨issue, hissue, rfl⟩ := List.mem_map.mp hw
        exact start.settled c issue hissue
      current := fun on => by cases on
      length := by simp [start.waiting]
      inbox := fun index callback waiting => by simp [start.waiting] at waiting }
  refine EveryStep.of_invariant (I := Reads c id) (watch_kept_of_guard ?_) ?_ reads
    (alone.and read)
  · rintro s r a t h ⟨alone, -⟩ hstep
    exact h.step alone hstep
  · rintro ⟨s, r⟩ a h ⟨-, read⟩
    exact h.appendsOne read

/-- One device whose list has the chat of a room that holds one message. -/
def oneMessage : Cloud Unit where
  documents path :=
    if path = ⟨.rooms, "r1"⟩ then some (ChatRoom.stored ⟨["Аня"], ["привет"], [1]⟩) else none
  devices _ := { messenger := { chatInformationArray := [⟨"дом", 0, ⟨0⟩, ⟨0⟩, "r1", "c1"⟩] } }
  created := []

theorem stored_oneMessage : Stored () "r1" oneMessage where
  settled _ w hw := absurd hw List.not_mem_nil
  decodes data hdata := by
    obtain rfl : _ = data := Option.some.inj hdata
    rw [ChatRoom.ofDictonary_stored]
    rfl
  waiting := rfl

/-- The screen is opened, the answer arrives, a message is sent. -/
def sendAfterAnswer : List (Action Unit) :=
  [⟨(), .startDiscussRoom "дом"⟩, ⟨(), .answerRoom 0⟩, ⟨(), .runRoom 0⟩,
   ⟨(), .sendMessage "Боря" "пока" 2⟩]

theorem history_append_only_sendAfterAnswer :
    EveryStep (watch Cloud.step (noteReading () "r1")) (fun sm => AppendsOne () "r1" sm.1)
      (oneMessage, {}) sendAfterAnswer :=
  history_append_only stored_oneMessage (by decide +kernel) (by decide +kernel)

/-- A message sent before the answer arrives replaces the history. -/
theorem not_always_appended :
    ¬ ∀ labels, EveryStep (watch Cloud.step (noteReading () "r1"))
        (fun sm => OnlySends () "r1" sm.1) (oneMessage, {}) labels →
      EveryStep (watch Cloud.step (noteReading () "r1")) (fun sm => AppendsOne () "r1" sm.1)
        (oneMessage, {}) labels := by
  intro always
  let last : Action Unit := ⟨(), .sendMessage "Боря" "пока" 2⟩
  have reached : (exec (watch Cloud.step (noteReading () "r1")) (oneMessage, {})
      [⟨(), .startDiscussRoom "дом"⟩]).map (fun sm =>
        ((sm.1.devices ()).messenger.idDiscussion,
          ((sm.1.devices ()).issues last.event).map fun w => w.data.bind ChatRoom.ofDictonary,
          sm.1.heldRoom () "r1")) =
      some (some "r1", [some ⟨["Боря"], ["пока"], [2]⟩], ⟨["Аня"], ["привет"], [1]⟩) := by
    decide +kernel
  obtain ⟨⟨s, r⟩, run, values⟩ := Option.map_eq_some_iff.mp reached
  simp only [Prod.mk.injEq] at values
  obtain ⟨opened, written, held⟩ := values
  have appended := ((always [⟨(), .startDiscussRoom "дом"⟩, last] (by decide +kernel)).of_append
    run _ _ _ rfl opened).1
  rw [appended, held] at written
  have stored (room : ChatRoom) :
      (DocumentWrite.setData ⟨.rooms, "r1"⟩ room.dictonary).data.bind ChatRoom.ofDictonary =
        some room := room.ofDictonary_stored
  simp [stored, ChatRoom.appending] at written

end OnMap
