/-
# What an event changes and what it leaves alone

An event calls one method of the messenger, or moves one item between the
server, the SDK and the main queue. A method reaches the SDK through its calls
only, so the queue of writes grows by the writes among them, and the parts of
the device that belong to the open room stay as they are under every event that
is about the list of chats.

The server taking a device's own write changes nothing for this device: the write
moves from the queue into the documents. A device sees a document change when it
issues a write to it, or when the server takes another device's.
-/

import OnMap.Cloud.Cloud

namespace OnMap

namespace FirestoreCall

/-- The write that a call hands over. -/
def write? : FirestoreCall → Option DocumentWrite
  | .write w => some w
  | _ => none

@[simp] theorem write?_write (w : DocumentWrite) : (write w).write? = some w := rfl

end FirestoreCall

namespace Device

variable {documents : Documents} {chatIDs : List String} {d d' : Device} {event : Event}

/-- Raising changes what the chats listener has been told, and nothing else. -/
theorem raise_eq (documents : Documents) (d : Device) (chatID : String) :
    ∃ reported changes,
      d.raise documents chatID = { d with reported := reported, changes := changes } := by
  cases listening : d.reported with
  -- without a listener nobody is told
  | none => exact ⟨d.reported, d.changes, raise_of_reported_none listening⟩
  | some reported =>
    rcases @raise_of_reported_some documents d chatID reported listening with
      ⟨-, -, quiet⟩ | ⟨change, -, loud⟩
    · exact ⟨d.reported, d.changes, quiet⟩
    · exact ⟨_, _, loud⟩

section Raise

variable (documents : Documents) (d : Device) (chatID : String)

@[simp] theorem raise_messenger : (d.raise documents chatID).messenger = d.messenger := by
  obtain ⟨_, _, h⟩ := raise_eq documents d chatID
  rw [h]

@[simp] theorem raise_pending : (d.raise documents chatID).pending = d.pending := by
  obtain ⟨_, _, h⟩ := raise_eq documents d chatID
  rw [h]

@[simp] theorem raise_gets : (d.raise documents chatID).gets = d.gets := by
  obtain ⟨_, _, h⟩ := raise_eq documents d chatID
  rw [h]

@[simp] theorem raise_registrations :
    (d.raise documents chatID).registrations = d.registrations := by
  obtain ⟨_, _, h⟩ := raise_eq documents d chatID
  rw [h]

@[simp] theorem raise_nextRegistration :
    (d.raise documents chatID).nextRegistration = d.nextRegistration := by
  obtain ⟨_, _, h⟩ := raise_eq documents d chatID
  rw [h]

@[simp] theorem raise_roomCallbacks :
    (d.raise documents chatID).roomCallbacks = d.roomCallbacks := by
  obtain ⟨_, _, h⟩ := raise_eq documents d chatID
  rw [h]

@[simp] theorem raise_chatsReplies : (d.raise documents chatID).chatsReplies = d.chatsReplies := by
  obtain ⟨_, _, h⟩ := raise_eq documents d chatID
  rw [h]

end Raise

section Perform

variable (documents : Documents) (d : Device) (call : FirestoreCall)

@[simp] theorem perform_messenger : (d.perform documents call).messenger = d.messenger := by
  cases call with
  | write w => cases collection : w.path.collection <;> simp [perform, collection]
  | _ => rfl

@[simp] theorem perform_chatsReplies :
    (d.perform documents call).chatsReplies = d.chatsReplies := by
  cases call with
  | write w => cases collection : w.path.collection <;> simp [perform, collection]
  | _ => rfl

theorem perform_pending :
    (d.perform documents call).pending = d.pending ++ call.write?.toList := by
  cases call with
  | write w => cases collection : w.path.collection <;> simp [perform, collection]
  | _ => simp [perform, FirestoreCall.write?]

end Perform

section Call

variable (documents : Documents) (d : Device) (result : FirestoreMessenger × List FirestoreCall)

/-- Calls on the SDK, carried out in order, leave the messenger and the waiting answers
alone; writes join their queue. -/
theorem performAll_eq (calls : List FirestoreCall) :
    (calls.foldl (perform documents) d).messenger = d.messenger ∧
      (calls.foldl (perform documents) d).chatsReplies = d.chatsReplies ∧
      (calls.foldl (perform documents) d).pending =
        d.pending ++ calls.filterMap FirestoreCall.write? := by
  induction calls generalizing d with
  | nil => simp
  | cons call rest ih =>
    obtain ⟨messenger, replies, pending⟩ := ih (d.perform documents call)
    refine ⟨messenger.trans (by simp), replies.trans (by simp), ?_⟩
    -- only a write joins the queue, and at its end
    rw [List.foldl_cons, pending, perform_pending]
    cases write : call.write? <;> simp [write]

@[simp] theorem call_messenger : (d.call documents result).messenger = result.1 :=
  (performAll_eq documents { d with messenger := result.1 } result.2).1

@[simp] theorem call_chatsReplies : (d.call documents result).chatsReplies = d.chatsReplies :=
  (performAll_eq documents { d with messenger := result.1 } result.2).2.1

theorem call_pending :
    (d.call documents result).pending = d.pending ++ result.2.filterMap FirestoreCall.write? :=
  (performAll_eq documents { d with messenger := result.1 } result.2).2.2

end Call

/-- The method that an event calls: its new fields and its calls. -/
def method (d : Device) : Event → Option (FirestoreMessenger × List FirestoreCall)
  | .setupObserverChats => some d.messenger.setupObserverChats
  | .loadChatInfoArray => some d.messenger.loadChatInfoArray
  | .addChat nameDiscussion xCoordinate yCoordinate now roomID chatID =>
    some (d.messenger.addChat nameDiscussion xCoordinate yCoordinate now roomID chatID).2
  | .deleteChat name => d.messenger.deleteChat name
  | .startDiscussRoom name => some (d.messenger.startDiscussRoom name)
  | .loadDiscussionRoom => some d.messenger.loadDiscussionRoom
  | .setupObserverChatRoom => some (d.messenger.setupObserverChatRoom d.nextRegistration)
  | .sendMessage owner message now => some (d.messenger.sendMessage owner message now)
  | .closeDiscussRoom => some d.messenger.closeDiscussRoom
  | _ => none

/-- The writes that an event hands to the SDK. -/
def issues (d : Device) (event : Event) : List DocumentWrite :=
  (d.method event).toList.flatMap fun result => result.2.filterMap FirestoreCall.write?

/-- What an event does: it calls a method, or moves one item. -/
inductive Moves (documents : Documents) (chatIDs : List String) (d : Device) :
    Event → Device → Prop
  | method {event : Event} {result : FirestoreMessenger × List FirestoreCall}
      (called : d.method event = some result)
      (once : event = .setupObserverChats → d.reported = none) :
      Moves documents chatIDs d event (d.call documents result)
  | applyWrite {w : DocumentWrite} {rest : List DocumentWrite} (queue : d.pending = w :: rest) :
      Moves documents chatIDs d .applyWrite { d with pending := rest }
  | answerRoom {index : ℕ} {room : String} (asked : d.gets[index]? = some room) :
      Moves documents chatIDs d (.answerRoom index) { d with
        gets := d.gets.eraseIdx index
        roomCallbacks := d.roomCallbacks ++ [.reply room (d.view documents ⟨.rooms, room⟩)] }
  | answerChats {order : List String} (asked : 0 < d.queries)
      (present : order.Perm
        (chatIDs.filter fun chatID => (d.view documents ⟨.chats, chatID⟩).isSome)) :
      Moves documents chatIDs d (.answerChats order) { d with
        queries := d.queries - 1
        chatsReplies := d.chatsReplies ++
          [some (order.filterMap fun chatID => d.view documents ⟨.chats, chatID⟩)] }
  | failChats (asked : 0 < d.queries) :
      Moves documents chatIDs d .failChats { d with
        queries := d.queries - 1
        chatsReplies := d.chatsReplies ++ [none] }
  | raiseRoom {index registration : ℕ} {room : String}
      (live : d.registrations[index]? = some (registration, room)) :
      Moves documents chatIDs d (.raiseRoom index) { d with
        roomCallbacks := d.roomCallbacks ++
          [.snapshot registration room (d.view documents ⟨.rooms, room⟩)] }
  | raiseChange {chatID : String} :
      Moves documents chatIDs d (.raiseChange chatID) (d.raise documents chatID)
  | runRoom {index : ℕ} {callback : RoomCallback}
      (waiting : d.roomCallbacks[index]? = some callback) :
      Moves documents chatIDs d (.runRoom index) { d with
        messenger := d.runRoomCallback callback
        roomCallbacks := d.roomCallbacks.eraseIdx index }
  | runChats {index : ℕ} {reply : Option (List Dictionary)}
      (waiting : d.chatsReplies[index]? = some reply) :
      Moves documents chatIDs d (.runChats index) { d with
        messenger := d.messenger.handleChatsReply reply
        chatsReplies := d.chatsReplies.eraseIdx index }
  | runChange {change : DocumentChange} {rest : List DocumentChange} {m' : FirestoreMessenger}
      (queue : d.changes = change :: rest)
      (handled : d.messenger.handleChatsChange change = some m') :
      Moves documents chatIDs d .runChange { d with messenger := m', changes := rest }

/-- What a step can do is said once, here. -/
theorem moves (h : d.step documents chatIDs event = some d') :
    Moves documents chatIDs d event d' := by
  cases event with
  | setupObserverChats =>
    simp only [step, Option.ite_none_left_eq_some, Option.some.injEq] at h
    obtain ⟨once, rfl⟩ := h
    exact .method rfl fun _ => by simpa using once
  | deleteChat name =>
    obtain ⟨result, deleted, rfl⟩ := Option.map_eq_some_iff.mp h
    exact .method deleted (by simp)
  | loadChatInfoArray | addChat | startDiscussRoom | loadDiscussionRoom | setupObserverChatRoom |
      sendMessage | closeDiscussRoom =>
    exact Option.some.inj h ▸ .method rfl (by simp)
  | applyWrite =>
    cases queue : d.pending with
    | nil => simp [step, queue] at h
    | cons w rest =>
      simp only [step, queue, Option.some.injEq] at h
      exact h ▸ .applyWrite queue
  | answerRoom index =>
    cases asked : d.gets[index]? with
    | none => simp [step, asked] at h
    | some room =>
      simp only [step, asked, Option.some.injEq] at h
      exact h ▸ .answerRoom asked
  | answerChats order =>
    simp only [step, Option.ite_none_right_eq_some, Option.some.injEq] at h
    obtain ⟨⟨asked, present⟩, rfl⟩ := h
    exact .answerChats asked present
  | failChats =>
    simp only [step, Option.ite_none_right_eq_some, Option.some.injEq] at h
    obtain ⟨asked, rfl⟩ := h
    exact .failChats asked
  | raiseRoom index =>
    cases live : d.registrations[index]? with
    | none => simp [step, live] at h
    | some registered =>
      simp only [step, live, Option.some.injEq] at h
      exact h ▸ .raiseRoom live
  | raiseChange chatID => exact Option.some.inj h ▸ .raiseChange
  | runRoom index =>
    cases waiting : d.roomCallbacks[index]? with
    | none => simp [step, waiting] at h
    | some callback =>
      simp only [step, waiting, Option.some.injEq] at h
      exact h ▸ .runRoom waiting
  | runChats index =>
    cases waiting : d.chatsReplies[index]? with
    | none => simp [step, waiting] at h
    | some reply =>
      simp only [step, waiting, Option.some.injEq] at h
      exact h ▸ .runChats waiting
  | runChange =>
    cases queue : d.changes with
    | nil => simp [step, queue] at h
    | cons change rest =>
      simp only [step, queue, Option.map_eq_some_iff] at h
      obtain ⟨m', handled, rfl⟩ := h
      exact .runChange queue handled

/-- An event that calls a method does what the method and its calls do. -/
theorem step_of_method {result : FirestoreMessenger × List FirestoreCall}
    (called : d.method event = some result) (h : d.step documents chatIDs event = some d') :
    d' = d.call documents result := by
  cases moves h with
  | method again _ => rw [Option.some.inj (again.symm.trans called)]
  | _ => cases called

/-- The queue of writes loses its oldest one to the server, and otherwise grows
by what the event issues. -/
theorem step_pending (h : d.step documents chatIDs event = some d')
    (kept : event ≠ .applyWrite) : d'.pending = d.pending ++ d.issues event := by
  cases moves h with
  | method called once => simp [call_pending, issues, called]
  | applyWrite queue => exact absurd rfl kept
  -- the other events call no method, so they issue nothing
  | raiseChange => simp [issues, method]
  | _ => simp [issues, method]

/-- An answer that waits was waiting before, is an error, or lists the documents that
the device sees. -/
theorem step_chatsReplies (h : d.step documents chatIDs event = some d')
    {reply : Option (List Dictionary)} (waiting : reply ∈ d'.chatsReplies) :
    reply ∈ d.chatsReplies ∨ reply = none ∨ ∃ order : List String,
      order.Perm (chatIDs.filter fun chatID => (d.view documents ⟨.chats, chatID⟩).isSome) ∧
        reply = some (order.filterMap fun chatID => d.view documents ⟨.chats, chatID⟩) := by
  cases moves h with
  | method called once =>
    rw [call_chatsReplies] at waiting
    exact Or.inl waiting
  | @answerChats order asked present =>
    refine (List.mem_append.mp waiting).imp id fun last => Or.inr ⟨order, present, ?_⟩
    exact List.mem_singleton.mp last
  | failChats asked =>
    exact (List.mem_append.mp waiting).imp id fun last => Or.inl (List.mem_singleton.mp last)
  | raiseChange =>
    rw [raise_chatsReplies] at waiting
    exact Or.inl waiting
  | runChats => exact Or.inl (List.mem_of_mem_eraseIdx waiting)
  | _ => exact Or.inl waiting

section RoomClosures

/-! ### Answers, snapshots and their closures -/

theorem step_answerRoom {index : ℕ}
    (h : d.step documents chatIDs (.answerRoom index) = some d') : ∃ room,
      d.gets[index]? = some room ∧ d' = { d with
        gets := d.gets.eraseIdx index
        roomCallbacks := d.roomCallbacks ++ [.reply room (d.view documents ⟨.rooms, room⟩)] } := by
  cases moves h with
  | method called => cases called
  | answerRoom asked => exact ⟨_, asked, rfl⟩

theorem step_raiseRoom {index : ℕ}
    (h : d.step documents chatIDs (.raiseRoom index) = some d') : ∃ registration room,
      d.registrations[index]? = some (registration, room) ∧ d' = { d with
        roomCallbacks := d.roomCallbacks ++
          [.snapshot registration room (d.view documents ⟨.rooms, room⟩)] } := by
  cases moves h with
  | method called => cases called
  | raiseRoom live => exact ⟨_, _, live, rfl⟩

theorem step_runRoom {index : ℕ}
    (h : d.step documents chatIDs (.runRoom index) = some d') : ∃ callback,
      d.roomCallbacks[index]? = some callback ∧ d' = { d with
        messenger := d.runRoomCallback callback
        roomCallbacks := d.roomCallbacks.eraseIdx index } := by
  cases moves h with
  | method called => cases called
  | runRoom waiting => exact ⟨_, waiting, rfl⟩

end RoomClosures

/-- The part of a device that belongs to the open room is the same. -/
structure SameRoom (d d' : Device) : Prop where
  idDiscussion : d'.messenger.idDiscussion = d.messenger.idDiscussion
  currentChatRoom : d'.messenger.currentChatRoom = d.messenger.currentChatRoom
  listenerChat : d'.messenger.listenerChat = d.messenger.listenerChat
  gets : d'.gets = d.gets
  registrations : d'.registrations = d.registrations
  nextRegistration : d'.nextRegistration = d.nextRegistration
  roomCallbacks : d'.roomCallbacks = d.roomCallbacks

end Device

/-- The events that are not about the open room. -/
def Event.leavesRoom : Event → Bool
  | .setupObserverChats | .loadChatInfoArray | .addChat .. | .deleteChat _ | .applyWrite
  | .answerChats _ | .failChats | .raiseChange _ | .runChats _ | .runChange => true
  | _ => false

namespace Device

variable {documents : Documents} {chatIDs : List String} {d d' : Device} {event : Event}

/-- Such events leave the open room alone. -/
theorem step_sameRoom (h : d.step documents chatIDs event = some d')
    (away : event.leavesRoom = true) : SameRoom d d' := by
  cases moves h with
  | method called once =>
    cases event with
    | setupObserverChats | loadChatInfoArray =>
      obtain rfl := Option.some.inj called
      constructor <;> rfl
    | addChat name x y now roomID chatID =>
      obtain rfl := Option.some.inj called
      rw [FirestoreMessenger.addChat]
      split <;> constructor <;> simp [call, perform, DocumentWrite.path]
    | deleteChat name =>
      obtain ⟨info, -, rfl⟩ := FirestoreMessenger.deleteChat_eq_some_iff.mp called
      constructor <;> simp [call, perform, DocumentWrite.path]
    -- the other methods are about the open room, or are none
    | _ => first | exact absurd away Bool.false_ne_true | cases called
  | answerRoom | raiseRoom | runRoom => cases away
  | runChats waiting => constructor <;> simp
  | raiseChange => constructor <;> simp
  | runChange queue handled =>
    obtain ⟨chats, rfl, -⟩ := FirestoreMessenger.handleChatsChange_eq_some handled
    constructor <;> rfl
  | _ => constructor <;> rfl

/-- A room closure keeps the room that is open. -/
@[simp] theorem runRoomCallback_idDiscussion (d : Device) (callback : RoomCallback) :
    (d.runRoomCallback callback).idDiscussion = d.messenger.idDiscussion := by
  rcases d.runRoomCallback_cases callback with same | ⟨_, -, replaced⟩
  · rw [same]
  · rw [replaced]

@[simp] theorem runRoomCallback_listenerChat (d : Device) (callback : RoomCallback) :
    (d.runRoomCallback callback).listenerChat = d.messenger.listenerChat := by
  rcases d.runRoomCallback_cases callback with same | ⟨_, -, replaced⟩
  · rw [same]
  · rw [replaced]

@[simp] theorem runRoomCallback_chatInformationArray (d : Device) (callback : RoomCallback) :
    (d.runRoomCallback callback).chatInformationArray = d.messenger.chatInformationArray := by
  rcases d.runRoomCallback_cases callback with same | ⟨_, -, replaced⟩
  · rw [same]
  · rw [replaced]

/-- Only `startDiscussRoom` chooses another room. -/
theorem step_idDiscussion (h : d.step documents chatIDs event = some d')
    (kept : ∀ name, event ≠ .startDiscussRoom name) :
    d'.messenger.idDiscussion = d.messenger.idDiscussion := by
  by_cases away : event.leavesRoom = true
  · exact (step_sameRoom h away).idDiscussion
  cases moves h with
  | method called once =>
    cases event with
    | startDiscussRoom name => exact absurd rfl (kept name)
    | loadDiscussionRoom =>
      obtain rfl := Option.some.inj called
      rw [call_messenger, FirestoreMessenger.loadDiscussionRoom]
      split <;> rfl
    | setupObserverChatRoom =>
      obtain rfl := Option.some.inj called
      rw [call_messenger, FirestoreMessenger.setupObserverChatRoom]
      split <;> rfl
    | sendMessage owner message now =>
      obtain rfl := Option.some.inj called
      rw [call_messenger, FirestoreMessenger.sendMessage]
      split <;> rfl
    | closeDiscussRoom =>
      obtain rfl := Option.some.inj called
      rw [call_messenger, FirestoreMessenger.closeDiscussRoom]
    | _ => first | exact absurd rfl away | cases called
  | answerRoom | raiseRoom => rfl
  | runRoom waiting => exact runRoomCallback_idDiscussion d _
  | _ => exact absurd rfl away

section RoomMethods

/-! ### The methods of the open room -/

variable (documents : Documents) (d : Device)

theorem call_loadDiscussionRoom : ∃ gets, d.call documents d.messenger.loadDiscussionRoom =
    { d with gets := gets } := by
  rw [FirestoreMessenger.loadDiscussionRoom]
  cases d.messenger.idDiscussion <;> exact ⟨_, rfl⟩

theorem call_startDiscussRoom (name : String) : ∃ idDiscussion gets,
    d.call documents (d.messenger.startDiscussRoom name) =
      { d with
        messenger := { d.messenger with currentChatRoom := none, idDiscussion := idDiscussion }
        gets := gets } := by
  rw [FirestoreMessenger.startDiscussRoom, FirestoreMessenger.loadDiscussionRoom]
  split <;> exact ⟨_, _, rfl⟩

/-- Without a room nothing is registered; otherwise a new listener of that room. -/
theorem call_setupObserverChatRoom :
    (d.messenger.idDiscussion = none ∧
        d.call documents (d.messenger.setupObserverChatRoom d.nextRegistration) = d) ∨
      ∃ room, d.messenger.idDiscussion = some room ∧
        d.call documents (d.messenger.setupObserverChatRoom d.nextRegistration) =
          { d with
            messenger := { d.messenger with listenerChat := some d.nextRegistration }
            registrations := d.registrations ++ [(d.nextRegistration, room)]
            nextRegistration := d.nextRegistration + 1 } := by
  obtain ⟨⟨chats, opened, cached, listener⟩, _⟩ := d
  cases opened with
  | none => exact Or.inl ⟨rfl, rfl⟩
  | some room => exact Or.inr ⟨room, rfl, rfl⟩

/-- The cached room gets the message only when a room is open. -/
theorem call_sendMessage (owner message : String) (now : Date) :
    d.call documents (d.messenger.sendMessage owner message now) =
      { d with
        messenger := { d.messenger with
          currentChatRoom := some (match d.messenger.idDiscussion with
            | none => d.messenger.currentChatRoom.getD .empty
            | some _ =>
              (d.messenger.currentChatRoom.getD .empty).appending ⟨owner, message, now⟩) }
        pending := d.pending ++ d.issues (.sendMessage owner message now) } := by
  obtain ⟨⟨chats, opened, cached, listener⟩, _⟩ := d
  cases opened with
  | none => simp [issues, method, FirestoreMessenger.sendMessage, call]
  | some room => rfl

/-- The listener set up last is removed, if there is one. -/
theorem call_closeDiscussRoom :
    d.call documents d.messenger.closeDiscussRoom =
      { d with
        messenger := { d.messenger with currentChatRoom := none }
        registrations := d.registrations.filter fun live =>
          some live.1 ≠ d.messenger.listenerChat } := by
  obtain ⟨⟨chats, opened, cached, listener⟩, _⟩ := d
  cases listener <;>
    simp [FirestoreMessenger.closeDiscussRoom, FirestoreMessenger.deleteObserverChatRoom, call,
      perform]

end RoomMethods

/-- `sendMessage` issues one write, of the cached room and the new message, to the
room that is open; it issues none when no room has ever been opened. -/
theorem issues_sendMessage (d : Device) (owner message : String) (now : Date) :
    d.issues (.sendMessage owner message now) =
      (d.messenger.idDiscussion.map fun chatLink => DocumentWrite.setData ⟨.rooms, chatLink⟩
        ((d.messenger.currentChatRoom.getD .empty).appending ⟨owner, message, now⟩).dictonary
        ).toList := by
  cases opened : d.messenger.idDiscussion <;>
    simp [issues, method, FirestoreMessenger.sendMessage, opened, FirestoreCall.write?]

end Device

namespace Cloud

open Overlay

variable {κ : Type} [DecidableEq κ] {s t : Cloud κ} {a : Action κ} {c : κ}

/-- After its own event a device sees its new writes over what it saw before. -/
theorem view_step_own (hstep : s.step a = some t) :
    t.view a.client = overlay (s.view a.client)
      (((s.devices a.client).issues a.event).map DocumentWrite.toWrite) := by
  rcases step_documents_cases hstep with ⟨kept, same⟩ | ⟨w, rest, applied, queue, written, left⟩
  · rw [view, Device.view, same, Device.step_pending (step_device hstep) kept, List.map_append,
      overlay_append]
    rfl
  · have none : (s.devices a.client).issues a.event = [] := by
      rw [applied]
      rfl
    rw [view, Device.view, none, left, written, view, Device.view, queue]
    rfl

/-- A document that no step writes to looks the same after the step. -/
theorem view_step {path : DocumentPath} (hstep : s.step a = some t)
    (others : a.client ≠ c → a.event = .applyWrite →
      ∀ w ∈ (s.devices a.client).pending.head?, w.path ≠ path)
    (own : a.client = c → ∀ w ∈ (s.devices c).issues a.event, w.path ≠ path) :
    t.view c path = s.view c path := by
  by_cases acting : a.client = c
  · subst acting
    rw [view_step_own hstep, overlay_of_forall_ne]
    intro w hw
    obtain ⟨issue, hissue, rfl⟩ := List.mem_map.mp hw
    exact own rfl issue hissue
  · rw [view, view, step_devices_of_ne hstep (Ne.symm acting)]
    refine overlay_congr ?_
    rcases step_documents_cases hstep with ⟨-, same⟩ | ⟨w, rest, applied, queue, written, -⟩
    · rw [same]
    · rw [written, Write.apply_of_ne]
      exact others acting applied w (by rw [queue]; rfl)

end Cloud

end OnMap
