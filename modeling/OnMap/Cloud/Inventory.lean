/-
# Where data can be

Everything a device reads or writes was put into the system by an `addChat` or
a `sendMessage` and has since been carried around: as a queued write, a document
of the server, data the SDK has handed out, the cached room or an entry of the
cached list. An inventory names a property of the data in each of these places.
An event that puts in nothing new, or only data with the property, keeps the
whole inventory. Every invariant about stored data is an instance.
-/

import OnMap.Cloud.Calls

namespace OnMap

open Overlay

variable {κ : Type}

/-- Properties of the data in each place: served by the server under a path,
issued by a device and not applied, handed out to a device, cached as the open
room, and listed as a chat. -/
structure Inventory (κ : Type) where
  served : DocumentPath → Dictionary → Prop
  issued : κ → DocumentPath → Dictionary → Prop
  seen : κ → DocumentPath → Dictionary → Prop
  cache : κ → ChatRoom → Prop
  entry : κ → ChatInfo → Prop

namespace Inventory

/-- The properties agree along the ways data travels. -/
structure Coherent (I : Inventory κ) : Prop where
  seen_of_served : ∀ c path data, I.served path data → I.seen c path data
  seen_of_issued : ∀ c path data, I.issued c path data → I.seen c path data
  cache_of_seen : ∀ c room data r, I.seen c ⟨.rooms, room⟩ data →
    ChatRoom.ofDictonary data = some r → I.cache c r
  entry_of_seen : ∀ c chatID data e, I.seen c ⟨.chats, chatID⟩ data →
    ChatInfo.ofDictonary data = some e → I.entry c e

/-- The data in each place of one device has its property. -/
structure HoldsOn (I : Inventory κ) (c : κ) (d : Device) : Prop where
  pending : ∀ w ∈ d.pending, ∀ data, w.data = some data → I.issued c w.path data
  reported : ∀ told, d.reported = some told →
    ∀ chatID data, told chatID = some data → I.seen c ⟨.chats, chatID⟩ data
  changes : ∀ change ∈ d.changes, I.seen c ⟨.chats, change.documentID⟩ change.data
  callbacks : ∀ callback ∈ d.roomCallbacks,
    ∀ data, callback.data = some data → I.seen c ⟨.rooms, callback.room⟩ data
  replies : ∀ documents, some documents ∈ d.chatsReplies →
    ∀ data ∈ documents, ∃ chatID, I.seen c ⟨.chats, chatID⟩ data
  cache : ∀ room, d.messenger.currentChatRoom = some room → I.cache c room
  entries : ∀ info ∈ d.messenger.chatInformationArray, I.entry c info

/-- All data of the server and of all devices has its property. -/
structure Holds (I : Inventory κ) (s : Cloud κ) : Prop where
  documents : ∀ path data, s.documents path = some data → I.served path data
  devices : ∀ c, I.HoldsOn c (s.devices c)

/-- The new data an event puts into the system, or moves to the server, has the
property of its place. -/
def Admits (I : Inventory κ) (c : κ) (d : Device) : Event → Prop
  | .addChat name xCoordinate yCoordinate now roomID chatID =>
    d.messenger.chatIsExist name = false →
      let m : Creation κ := ⟨c, name, xCoordinate, yCoordinate, now, roomID, chatID⟩
      (∀ w ∈ m.writes, ∀ data, w.data = some data → I.issued c w.path data) ∧
        I.entry c m.corrected
  | .sendMessage owner message now =>
    let room := d.messenger.currentChatRoom.getD .empty
    match d.messenger.idDiscussion with
    | none => I.cache c room
    | some chatLink =>
      I.issued c ⟨.rooms, chatLink⟩ (room.appending ⟨owner, message, now⟩).stored ∧
        I.cache c (room.appending ⟨owner, message, now⟩)
  | .applyWrite => ∀ w ∈ d.pending.head?, ∀ data, w.data = some data → I.served w.path data
  | _ => True

variable {I : Inventory κ} {c : κ} {d : Device} {documents : Documents}

/-- A weaker inventory holds as well. -/
theorem Holds.mono {I J : Inventory κ} {s : Cloud κ} (h : I.Holds s)
    (served : ∀ path data, I.served path data → J.served path data)
    (issued : ∀ c path data, I.issued c path data → J.issued c path data)
    (seen : ∀ c path data, I.seen c path data → J.seen c path data)
    (cache : ∀ c room, I.cache c room → J.cache c room)
    (entry : ∀ c info, I.entry c info → J.entry c info) : J.Holds s where
  documents path data hdata := served path data (h.documents path data hdata)
  devices c :=
    { pending := fun w hw data hdata => issued _ _ _ ((h.devices c).pending w hw data hdata)
      reported := fun told htold chatID data hdata =>
        seen _ _ _ ((h.devices c).reported told htold chatID data hdata)
      changes := fun change hchange => seen _ _ _ ((h.devices c).changes change hchange)
      callbacks := fun callback hcallback data hdata =>
        seen _ _ _ ((h.devices c).callbacks callback hcallback data hdata)
      replies := fun documents hdocuments data hdata =>
        ((h.devices c).replies documents hdocuments data hdata).imp fun _ => seen _ _ _
      cache := fun room hroom => cache _ _ ((h.devices c).cache room hroom)
      entries := fun info hinfo => entry _ _ ((h.devices c).entries info hinfo) }

/-- What a device reads is served or is its own. -/
theorem seen_of_view (coherent : I.Coherent)
    (served : ∀ path data, documents path = some data → I.served path data)
    (h : I.HoldsOn c d) {path : DocumentPath} {data : Dictionary}
    (shown : d.view documents path = some data) : I.seen c path data := by
  -- the overlay shows a served document or one of the device's own writes
  refine overlay_induction (P := I.seen c path) ?_ ?_ shown
  · exact fun data hdata => coherent.seen_of_served _ _ _ (served path data hdata)
  · intro w hw hkey data hdata
    obtain ⟨issue, hissue, rfl⟩ := List.mem_map.mp hw
    rw [← hkey]
    exact coherent.seen_of_issued _ _ _ (h.pending issue hissue data hdata)

/-- The chats listener passes on what the device sees. -/
theorem HoldsOn.raise (coherent : I.Coherent)
    (served : ∀ path data, documents path = some data → I.served path data)
    (h : I.HoldsOn c d) (chatID : String) : I.HoldsOn c (d.raise documents chatID) := by
  cases listening : d.reported with
  | none => simpa only [Device.raise, listening] using h
  | some reported =>
    have reads (data : Dictionary) (shown : d.view documents ⟨.chats, chatID⟩ = some data) :
        I.seen c ⟨.chats, chatID⟩ data := seen_of_view coherent served h shown
    have told : ∀ other data, Function.update reported chatID
        (d.view documents ⟨.chats, chatID⟩) other = some data →
          I.seen c ⟨.chats, other⟩ data := by
      intro other data hdata
      by_cases same : other = chatID
      · subst same
        rw [Function.update_self] at hdata
        exact reads data hdata
      · rw [Function.update_of_ne same] at hdata
        exact h.reported reported listening other data hdata
    rcases @Device.raise_of_reported_some documents d chatID reported listening with
      ⟨-, -, quiet⟩ | ⟨change, hchange, loud⟩
    · rwa [quiet]
    · obtain ⟨hid, hdata⟩ := Device.changeOf_eq_some hchange
      have carried : I.seen c ⟨.chats, change.documentID⟩ change.data := by
        rw [hid]
        rcases hdata with now | ⟨-, before⟩
        · exact reads _ now
        -- a removed document carries the data told last
        · exact h.reported reported listening chatID _ before
      rw [loud]
      exact { h with
        reported := fun _ htold => Option.some.inj htold ▸ told
        changes := fun other hother => by
          rcases List.mem_append.mp hother with old | new
          · exact h.changes other old
          · rwa [List.mem_singleton.mp new] }

/-- One call on the SDK keeps the inventory when a write has the property of
issued writes. -/
theorem HoldsOn.perform (coherent : I.Coherent)
    (served : ∀ path data, documents path = some data → I.served path data)
    (h : I.HoldsOn c d) (call : FirestoreCall)
    (new : ∀ w, call = .write w → ∀ data, w.data = some data → I.issued c w.path data) :
    I.HoldsOn c (d.perform documents call) := by
  cases call with
  | write w =>
    have queued : I.HoldsOn c { d with pending := d.pending ++ [w] } :=
      { h with
        pending := fun v hv => by
          rcases List.mem_append.mp hv with old | last
          · exact h.pending v old
          · rw [List.mem_singleton.mp last]
            exact new w rfl }
    rw [Device.perform]
    cases w.path.collection with
    | chats => exact queued.raise coherent served _
    | rooms => exact queued
  | getDocument path => exact { h with }
  | getDocuments collection => exact { h with }
  | addSnapshotListener path registration => exact { h with }
  | addCollectionListener collection =>
    exact { h with
      reported := by
        rintro told htold chatID data hdata
        rw [← Option.some.inj htold] at hdata
        cases hdata }
  | remove registration => exact { h with }

theorem HoldsOn.performAll (coherent : I.Coherent)
    (served : ∀ path data, documents path = some data → I.served path data)
    (h : I.HoldsOn c d) (calls : List FirestoreCall)
    (new : ∀ w, .write w ∈ calls → ∀ data, w.data = some data → I.issued c w.path data) :
    I.HoldsOn c (calls.foldl (Device.perform documents) d) := by
  -- over the calls, the device changing along
  induction calls generalizing d with
  | nil => exact h
  | cons call rest ih =>
    refine ih ?_ fun w hw => new w (List.mem_cons_of_mem _ hw)
    exact h.perform coherent served call fun w hw => new w (hw ▸ List.mem_cons_self)

/-- A method of the messenger keeps the inventory when its new fields and its
writes do. -/
theorem HoldsOn.call (coherent : I.Coherent)
    (served : ∀ path data, documents path = some data → I.served path data)
    (h : I.HoldsOn c d) (result : FirestoreMessenger × List FirestoreCall)
    (cache : ∀ room, result.1.currentChatRoom = some room → I.cache c room)
    (entries : ∀ info ∈ result.1.chatInformationArray, I.entry c info)
    (new : ∀ w, .write w ∈ result.2 → ∀ data, w.data = some data → I.issued c w.path data) :
    I.HoldsOn c (d.call documents result) := by
  have start : I.HoldsOn c { d with messenger := result.1 } :=
    { h with cache := cache, entries := entries }
  exact start.performAll coherent served result.2 new

/-- A method that writes nothing and at most drops the cached room. -/
theorem HoldsOn.call_of_quiet (coherent : I.Coherent)
    (served : ∀ path data, documents path = some data → I.served path data)
    (h : I.HoldsOn c d) (result : FirestoreMessenger × List FirestoreCall)
    (cache : ∀ room, result.1.currentChatRoom = some room →
      d.messenger.currentChatRoom = some room)
    (entries : result.1.chatInformationArray = d.messenger.chatInformationArray)
    (quiet : ∀ w, .write w ∉ result.2) :
    I.HoldsOn c (d.call documents result) :=
  h.call coherent served result (fun room hroom => h.cache room (cache room hroom))
    (fun info hinfo => h.entries info (entries ▸ hinfo)) fun w hw => absurd hw (quiet w)

theorem HoldsOn.addChat (coherent : I.Coherent)
    (served : ∀ path data, documents path = some data → I.served path data)
    (h : I.HoldsOn c d) {name : String} {xCoordinate yCoordinate : Double} {now : Date}
    {roomID chatID : String}
    (new : I.Admits c d (.addChat name xCoordinate yCoordinate now roomID chatID)) :
    I.HoldsOn c (d.call documents
      (d.messenger.addChat name xCoordinate yCoordinate now roomID chatID).2) := by
  rw [FirestoreMessenger.addChat]
  split
  case isTrue _ => exact h.call_of_quiet coherent served _ (fun _ => id) rfl (by simp)
  case isFalse unused =>
    obtain ⟨writes, entry⟩ := new (Bool.eq_false_iff.mpr unused)
    refine h.call coherent served _ h.cache ?_ ?_
    · intro info hinfo
      rcases List.mem_append.mp hinfo with old | last
      · exact h.entries info old
      · rwa [List.mem_singleton.mp last]
    · intro w hw
      refine writes w ?_
      simpa [Creation.writes, Creation.roomPath, Creation.chatPath, Creation.placeholder,
        Creation.corrected] using hw

theorem HoldsOn.sendMessage (coherent : I.Coherent)
    (served : ∀ path data, documents path = some data → I.served path data)
    (h : I.HoldsOn c d) {owner message : String} {now : Date}
    (new : I.Admits c d (.sendMessage owner message now)) :
    I.HoldsOn c (d.call documents (d.messenger.sendMessage owner message now)) := by
  rw [FirestoreMessenger.sendMessage]
  cases opened : d.messenger.idDiscussion with
  | none =>
    simp only [Admits, opened] at new
    exact h.call coherent served _ (fun room hroom => Option.some.inj hroom ▸ new) h.entries
      (by simp)
  | some chatLink =>
    simp only [Admits, opened] at new
    refine h.call coherent served _ (fun room hroom => Option.some.inj hroom ▸ new.2) h.entries ?_
    intro w hw data hdata
    obtain rfl : w = .setData ⟨.rooms, chatLink⟩ _ := by simpa using hw
    obtain rfl := Option.some.inj hdata
    exact new.1

theorem HoldsOn.runRoom (coherent : I.Coherent) (h : I.HoldsOn c d) {callback : RoomCallback}
    (waiting : callback ∈ d.roomCallbacks) {rest : List RoomCallback}
    (fewer : rest ⊆ d.roomCallbacks) :
    I.HoldsOn c { d with messenger := d.runRoomCallback callback, roomCallbacks := rest } := by
  have left : I.HoldsOn c { d with roomCallbacks := rest } :=
    { h with callbacks := fun other hother => h.callbacks other (fewer hother) }
  rcases d.runRoomCallback_cases callback with same | ⟨data, hdata, replaced⟩
  · rwa [same]
  · -- the new cached room is decoded from data that was handed out
    rw [replaced]
    exact { left with
      cache := fun room hroom =>
        coherent.cache_of_seen _ _ _ _ (h.callbacks callback waiting data hdata) hroom }

theorem HoldsOn.runChats (coherent : I.Coherent) (h : I.HoldsOn c d)
    {reply : Option (List Dictionary)} (waiting : reply ∈ d.chatsReplies)
    {rest : List (Option (List Dictionary))} (fewer : rest ⊆ d.chatsReplies) :
    I.HoldsOn c { d with messenger := d.messenger.handleChatsReply reply, chatsReplies := rest } :=
  { h with
    replies := fun documents hdocuments => h.replies documents (fewer hdocuments)
    cache := fun room hroom => h.cache room (by simpa using hroom)
    entries := fun info hinfo => by
      rcases FirestoreMessenger.mem_handleChatsReply hinfo with
        old | ⟨documents, rfl, data, hdata, decoded⟩
      · exact h.entries info old
      · obtain ⟨chatID, shown⟩ := h.replies documents waiting data hdata
        exact coherent.entry_of_seen _ _ _ _ shown decoded }

theorem HoldsOn.runChange (coherent : I.Coherent) (h : I.HoldsOn c d) {change : DocumentChange}
    {rest : List DocumentChange} (queue : d.changes = change :: rest) {m' : FirestoreMessenger}
    (handled : d.messenger.handleChatsChange change = some m') :
    I.HoldsOn c { d with messenger := m', changes := rest } := by
  have shown := h.changes change (queue ▸ List.mem_cons_self)
  have left : I.HoldsOn c { d with changes := rest } :=
    { h with
      changes := fun other hother => h.changes other (queue ▸ List.mem_cons_of_mem _ hother) }
  obtain ⟨chats, rfl, happened⟩ := FirestoreMessenger.handleChatsChange_eq_some handled
  refine { left with entries := fun info hinfo => ?_ }
  rcases happened with ⟨chatID, data, new, rfl, decoded, rfl⟩ | ⟨chatID, data, rfl, rfl⟩ |
    ⟨chatID, data, rfl, rfl⟩
  · rcases List.mem_append.mp hinfo with old | last
    · exact h.entries info old
    · rw [List.mem_singleton.mp last]
      exact coherent.entry_of_seen _ _ _ _ shown decoded
  · exact h.entries info hinfo
  · exact h.entries info ((FirestoreMessenger.removeNamed_sublist _ _).subset hinfo)

/-- A method of the messenger keeps the inventory of the device, when the data it
puts in has the property of its place. -/
theorem HoldsOn.method (coherent : I.Coherent)
    (served : ∀ path data, documents path = some data → I.served path data)
    (h : I.HoldsOn c d) {event : Event} {result : FirestoreMessenger × List FirestoreCall}
    (new : I.Admits c d event) (called : d.method event = some result) :
    I.HoldsOn c (d.call documents result) := by
  cases event with
  | setupObserverChats =>
    obtain rfl := Option.some.inj called
    exact h.call_of_quiet coherent served _ (fun _ => id) rfl
      (by simp [FirestoreMessenger.setupObserverChats])
  | loadChatInfoArray =>
    obtain rfl := Option.some.inj called
    exact h.call_of_quiet coherent served _ (fun _ => id) rfl
      (by simp [FirestoreMessenger.loadChatInfoArray])
  | addChat => exact Option.some.inj called ▸ h.addChat coherent served new
  | deleteChat name =>
    obtain ⟨info, -, rfl⟩ := FirestoreMessenger.deleteChat_eq_some_iff.mp called
    refine h.call coherent served _ h.cache (fun e he => h.entries e (List.mem_of_mem_eraseP he)) ?_
    intro w hw data hdata
    rcases (by simpa using hw : w = .delete _ ∨ w = .delete _) with rfl | rfl <;> cases hdata
  | startDiscussRoom name =>
    obtain rfl := Option.some.inj called
    rw [FirestoreMessenger.startDiscussRoom, FirestoreMessenger.loadDiscussionRoom]
    split <;> exact h.call_of_quiet coherent served _ (by simp) rfl (by simp)
  | loadDiscussionRoom =>
    obtain rfl := Option.some.inj called
    rw [FirestoreMessenger.loadDiscussionRoom]
    split <;> exact h.call_of_quiet coherent served _ (fun _ => id) rfl (by simp)
  | setupObserverChatRoom =>
    obtain rfl := Option.some.inj called
    rw [FirestoreMessenger.setupObserverChatRoom]
    split <;> exact h.call_of_quiet coherent served _ (fun _ => id) rfl (by simp)
  | sendMessage => exact Option.some.inj called ▸ h.sendMessage coherent served new
  | closeDiscussRoom =>
    obtain rfl := Option.some.inj called
    exact h.call_of_quiet coherent served _ (by simp [FirestoreMessenger.closeDiscussRoom]) rfl
      (by simp [FirestoreMessenger.closeDiscussRoom, FirestoreMessenger.deleteObserverChatRoom])
  | applyWrite | answerRoom | answerChats | failChats | raiseRoom | raiseChange | runRoom |
      runChats | runChange => cases called

/-- A room closure that joins the main queue brings data the device reads. -/
theorem HoldsOn.waiting (coherent : I.Coherent)
    (served : ∀ path data, documents path = some data → I.served path data)
    (h : I.HoldsOn c d) (callback : RoomCallback)
    (reads : callback.data = d.view documents ⟨.rooms, callback.room⟩) :
    ∀ waiting ∈ d.roomCallbacks ++ [callback], ∀ data, waiting.data = some data →
      I.seen c ⟨.rooms, waiting.room⟩ data := by
  intro waiting hwaiting data hdata
  rcases List.mem_append.mp hwaiting with old | last
  · exact h.callbacks waiting old data hdata
  · obtain rfl := List.mem_singleton.mp last
    exact seen_of_view coherent served h (reads ▸ hdata)

/-- One event on a device keeps the inventory of the device, when the data it
puts in has the property of its place. -/
theorem HoldsOn.step (coherent : I.Coherent)
    (served : ∀ path data, documents path = some data → I.served path data)
    (h : I.HoldsOn c d) {chatIDs : List String} {event : Event} {d' : Device}
    (new : I.Admits c d event) (hstep : d.step documents chatIDs event = some d') :
    I.HoldsOn c d' := by
  cases Device.moves hstep with
  | method called _ => exact h.method coherent served new called
  | applyWrite queue =>
    exact { h with pending := fun v hv => h.pending v (queue ▸ List.mem_cons_of_mem _ hv) }
  | answerRoom asked => exact { h with callbacks := h.waiting coherent served _ rfl }
  | answerChats asked present =>
    exact { h with
      replies := fun documents hdocuments data hdata => by
        rcases List.mem_append.mp hdocuments with old | last
        · exact h.replies documents old data hdata
        · rw [Option.some.inj (List.mem_singleton.mp last)] at hdata
          obtain ⟨chatID, -, shown⟩ := List.mem_filterMap.mp hdata
          exact ⟨chatID, seen_of_view coherent served h shown⟩ }
  | failChats asked =>
    exact { h with
      replies := fun documents hdocuments => by
        rcases List.mem_append.mp hdocuments with old | last
        · exact h.replies documents old
        · cases List.mem_singleton.mp last }
  | raiseRoom live => exact { h with callbacks := h.waiting coherent served _ rfl }
  | raiseChange => exact h.raise coherent served _
  | runRoom waiting =>
    exact h.runRoom coherent (List.mem_of_getElem? waiting) (List.eraseIdx_subset ..)
  | runChats waiting =>
    exact h.runChats coherent (List.mem_of_getElem? waiting) (List.eraseIdx_subset ..)
  | runChange queue handled => exact h.runChange coherent queue handled

/-- One step of the cloud keeps an inventory, when the data the event puts in,
or moves to the server, has the property of its place. -/
theorem Holds.step [DecidableEq κ] {I : Inventory κ} (coherent : I.Coherent) {s s' : Cloud κ}
    (h : I.Holds s) {a : Action κ} (hstep : s.step a = some s')
    (new : I.Admits a.client (s.devices a.client) a.event) : I.Holds s' := by
  constructor
  · intro path data hdata
    rcases Cloud.step_documents_cases hstep with ⟨-, same⟩ | ⟨w, rest, hevent, queue, written, -⟩
    · exact h.documents path data (same ▸ hdata)
    · -- a document changes only by a write that is admitted
      rw [hevent, Admits, queue] at new
      rw [written] at hdata
      by_cases here : w.toWrite.key = path
      · rw [w.toWrite.apply_apply_of_key_eq here] at hdata
        exact here ▸ new w rfl data hdata
      · rw [Write.apply_of_ne here] at hdata
        exact h.documents path data hdata
  · intro c
    by_cases acting : c = a.client
    · subst acting
      exact (h.devices a.client).step coherent h.documents new (Cloud.step_device hstep)
    · rw [Cloud.step_devices_of_ne hstep acting]
      exact h.devices c

end Inventory

end OnMap
