/-
# Where chats come from

Every chat that is stored, on its way, or listed is a version of a chat that some
`addChat` created: with the placeholder, or with the identifier of its document.
Rooms have the identifiers of created rooms. As the identifiers are distinct, a
document and an entry tell which creation they belong to.
-/

import OnMap.Cloud.Inventory
import OnMap.Library.Transition
import Mathlib.Data.List.Nodup

namespace OnMap

open Overlay Transition

variable {κ : Type}

namespace Creation

variable {m : Creation κ} {info : ChatInfo}

/-- One of the two chats that `addChat` stores. -/
def Version (m : Creation κ) (info : ChatInfo) : Prop :=
  info = m.placeholder ∨ info = m.corrected

instance (m : Creation κ) (info : ChatInfo) : Decidable (m.Version info) :=
  inferInstanceAs (Decidable (_ ∨ _))

theorem Version.name (h : m.Version info) : info.name = m.name := by
  rcases h with rfl | rfl <;> rfl

theorem Version.chatLink (h : m.Version info) : info.chatLink = m.roomID := by
  rcases h with rfl | rfl <;> rfl

/-- A version without the placeholder has the identifier of its document. -/
theorem Version.eq_corrected (h : m.Version info)
    (finished : info.firebaseID ≠ FirestoreMessenger.placeholderID) : info = m.corrected :=
  h.resolve_left fun first => finished (by rw [first, placeholder_firebaseID])

theorem roomPath_ne_chatPath (m m' : Creation κ) : m.roomPath ≠ m'.chatPath := nofun

end Creation

namespace Cloud

/-! ### What an event creates and writes -/

section Events

variable [DecidableEq κ] {s t : Cloud κ} {a : Action κ}

/-- The event is an `addChat` that passes its check and creates `m`. -/
structure Creates (s : Cloud κ) (a : Action κ) (m : Creation κ) : Prop where
  client : m.client = a.client
  event : a.event =
    .addChat m.name m.xCoordinate m.yCoordinate m.timeCreate m.roomID m.chatID
  unused : (s.devices a.client).messenger.chatIsExist m.name = false

omit [DecidableEq κ] in
/-- An `addChat` that passes its check creates a chat with its arguments. -/
theorem creates_addChat {client : κ} {name : String} {x y : Double} {now : Date}
    {roomID chatID : String} (unused : (s.devices client).messenger.chatIsExist name = false) :
    s.Creates ⟨client, .addChat name x y now roomID chatID⟩
      ⟨client, name, x, y, now, roomID, chatID⟩ := ⟨rfl, rfl, unused⟩

/-- An event creates one chat or none. -/
theorem step_created_cases (hstep : s.step a = some t) :
    ((∀ m, ¬ s.Creates a m) ∧ t.created = s.created) ∨
      ∃ m, s.Creates a m ∧ t.created = s.created ++ [m] := by
  obtain ⟨client, event⟩ := a
  rw [step_created hstep, createdAfter]
  cases event with
  | addChat name x y now roomID chatID =>
    by_cases used : (s.devices client).messenger.chatIsExist name
    · refine Or.inl ⟨fun m created => ?_, if_pos used⟩
      have unused := created.unused
      cases created.event
      exact Bool.false_ne_true (unused.symm.trans used)
    · exact Or.inr ⟨_, creates_addChat (by simpa using used), if_neg used⟩
  | _ => exact Or.inl ⟨fun _ created => (nomatch created.event), rfl⟩

theorem step_created_subset (hstep : s.step a = some t) : s.created ⊆ t.created := by
  rcases step_created_cases hstep with ⟨-, same⟩ | ⟨m, -, added⟩
  · rw [same]
    exact List.Subset.refl _
  · rw [added]
    exact List.subset_append_left ..

theorem Creates.mem_created {m : Creation κ} (h : s.Creates a m) (hstep : s.step a = some t) :
    m ∈ t.created := by
  rcases step_created_cases hstep with ⟨none, -⟩ | ⟨m', again, added⟩
  · exact absurd h (none m)
  · obtain ⟨_, _, _, _, _, _, _⟩ := m
    obtain ⟨_, _, _, _, _, _, _⟩ := m'
    obtain rfl := h.client.trans again.client.symm
    cases h.event.symm.trans again.event
    rw [added]
    exact List.mem_append_right _ (List.mem_singleton_self _)

/-- The identifiers of a new chat are not in use. -/
theorem Creates.fresh {m : Creation κ} (h : s.Creates a m) (hstep : s.step a = some t) :
    (∀ m' ∈ s.created, m'.chatID ≠ m.chatID ∧ m'.roomID ≠ m.roomID) ∧
      m.chatID ≠ FirestoreMessenger.placeholderID := by
  obtain ⟨room, chat, -, proper⟩ := step_fresh hstep (m.roomID, m.chatID) (by rw [h.event]; rfl)
  refine ⟨fun m' hm' => ⟨fun same => chat ?_, fun same => room ?_⟩, proper⟩
  · exact List.mem_flatMap.mpr ⟨m', hm', by simp [same]⟩
  · exact List.mem_flatMap.mpr ⟨m', hm', by simp [same]⟩

omit [DecidableEq κ] in
theorem Creates.issues {m : Creation κ} (h : s.Creates a m) :
    (s.devices a.client).issues a.event = m.writes := by
  rw [h.event]
  simp [Device.issues, Device.method, FirestoreMessenger.addChat, h.unused, Creation.writes,
    Creation.roomPath, Creation.chatPath, Creation.placeholder, Creation.corrected]

omit [DecidableEq κ] in
/-- Only `addChat`, `deleteChat` and `sendMessage` write. -/
theorem issues_cases (s : Cloud κ) (a : Action κ) :
    (s.devices a.client).issues a.event = [] ∨
      (∃ m, s.Creates a m ∧ (s.devices a.client).issues a.event = m.writes) ∨
      (∃ name info, a.event = .deleteChat name ∧
        (s.devices a.client).messenger.chatInformationArray.find?
          (fun info => info.name == name) = some info ∧
        (s.devices a.client).issues a.event =
          [.delete ⟨.chats, info.firebaseID⟩, .delete ⟨.rooms, info.chatLink⟩]) ∨
      ∃ owner message now id, a.event = .sendMessage owner message now ∧
        (s.devices a.client).messenger.idDiscussion = some id ∧
        ∃ room : ChatRoom, (s.devices a.client).issues a.event =
          [.setData ⟨.rooms, id⟩ room.dictonary] := by
  obtain ⟨client, event⟩ := a
  cases event with
  | addChat name x y now roomID chatID =>
    by_cases used : (s.devices client).messenger.chatIsExist name
    · left
      simp [Device.issues, Device.method, FirestoreMessenger.addChat, used]
    · have creates : s.Creates ⟨client, .addChat name x y now roomID chatID⟩ _ :=
        creates_addChat (by simpa using used)
      exact Or.inr (Or.inl ⟨_, creates, creates.issues⟩)
  | deleteChat name =>
    cases deleted : (s.devices client).messenger.deleteChat name with
    | none =>
      left
      simp [Device.issues, Device.method, deleted]
    | some result =>
      obtain ⟨info, found, rfl⟩ := FirestoreMessenger.deleteChat_eq_some_iff.mp deleted
      refine Or.inr (Or.inr (Or.inl ⟨name, info, rfl, found, ?_⟩))
      simp [Device.issues, Device.method, deleted]
  | sendMessage owner message now =>
    -- without an open room nothing is sent
    cases opened : (s.devices client).messenger.idDiscussion with
    | none =>
      left
      simp [Device.issues_sendMessage, opened]
    | some id =>
      refine Or.inr (Or.inr (Or.inr ⟨owner, message, now, id, rfl, rfl, ?_⟩))
      exact ⟨_, by rw [Device.issues_sendMessage, opened]; rfl⟩
  | startDiscussRoom name | loadDiscussionRoom | setupObserverChatRoom =>
    -- these ask and listen
    left
    simp only [Device.issues, Device.method, FirestoreMessenger.startDiscussRoom,
      FirestoreMessenger.loadDiscussionRoom, FirestoreMessenger.setupObserverChatRoom]
    split <;> simp [FirestoreCall.write?]
  | closeDiscussRoom =>
    left
    simp only [Device.issues, Device.method, FirestoreMessenger.closeDiscussRoom,
      FirestoreMessenger.deleteObserverChatRoom]
    cases (s.devices client).messenger.listenerChat <;> simp [FirestoreCall.write?]
  | _ => exact Or.inl rfl

omit [DecidableEq κ] in
/-- What is deleted is named by an entry of the list. -/
theorem delete_mem_issues {path : DocumentPath}
    (issued : .delete path ∈ (s.devices a.client).issues a.event) :
    ∃ info ∈ (s.devices a.client).messenger.chatInformationArray,
      path = ⟨.chats, info.firebaseID⟩ ∨ path = ⟨.rooms, info.chatLink⟩ := by
  rcases s.issues_cases a with none | ⟨m, -, writes⟩ | ⟨name, info, -, found, writes⟩ |
    ⟨_, _, _, _, -, -, _, writes⟩
  · rw [none] at issued
    cases issued
  · simp [writes, Creation.writes] at issued
  · rw [writes] at issued
    exact ⟨info, List.mem_of_find?_eq_some found, by simpa using issued⟩
  · simp [writes] at issued

end Events

end Cloud

/-! ### Data that somebody created -/

/-- The data is a version with property `P` of the chat created for this path; or the
path is of a created room. -/
def Made (created : List (Creation κ)) (P : Creation κ → ChatInfo → Prop) (path : DocumentPath)
    (data : Dictionary) : Prop :=
  match path.collection with
  | .chats => ∃ m ∈ created, m.chatID = path.documentID ∧
      ∃ info, m.Version info ∧ data = info.stored ∧ P m info
  | .rooms => ∃ m ∈ created, m.roomID = path.documentID

theorem Made.mono {created later : List (Creation κ)} {P Q : Creation κ → ChatInfo → Prop}
    {path : DocumentPath} {data : Dictionary} (more : created ⊆ later)
    (weaker : ∀ m ∈ created, ∀ info, P m info → Q m info) (h : Made created P path data) :
    Made later Q path data := by
  obtain ⟨collection, id⟩ := path
  cases collection with
  | chats =>
    obtain ⟨m, hm, same, info, version, stored, holds⟩ := h
    exact ⟨m, more hm, same, info, version, stored, weaker m hm info holds⟩
  | rooms =>
    obtain ⟨m, hm, room⟩ := h
    exact ⟨m, more hm, room⟩

/-- A family of properties of chat versions: of those the server holds, of those a
device has issued, and of those it has on the way or in its list. -/
structure ChatProperty (κ : Type) where
  served : Creation κ → ChatInfo → Prop
  issued : κ → Creation κ → ChatInfo → Prop
  held : κ → Creation κ → ChatInfo → Prop

namespace ChatProperty

/-- What the server holds or a device has issued, a device may read. -/
structure Coherent (P : ChatProperty κ) : Prop where
  held_of_served : ∀ c m info, P.served m info → P.held c m info
  held_of_issued : ∀ c m info, P.issued c m info → P.held c m info

/-- The inventory of the versions of created chats. -/
def inventory (P : ChatProperty κ) (created : List (Creation κ)) : Inventory κ where
  served := Made created P.served
  issued c := Made created (P.issued c)
  seen c := Made created (P.held c)
  cache _ _ := True
  entry c info := ∃ m ∈ created, m.Version info ∧ P.held c m info

/-- All chats are versions of created ones, with the property. -/
abbrev Holds (P : ChatProperty κ) (s : Cloud κ) : Prop := (P.inventory s.created).Holds s

theorem Coherent.inventory {P : ChatProperty κ} (h : P.Coherent) (created : List (Creation κ)) :
    (P.inventory created).Coherent where
  seen_of_served c _ _ (served : Made created P.served _ _) :=
    served.mono (List.Subset.refl _) fun _ _ _ => h.held_of_served c _ _
  seen_of_issued c _ _ (issued : Made created (P.issued c) _ _) :=
    issued.mono (List.Subset.refl _) fun _ _ _ => h.held_of_issued c _ _
  cache_of_seen _ _ _ _ _ _ := trivial
  entry_of_seen := by
    rintro c chatID data info ⟨m, hm, -, version, hversion, rfl, held⟩ decoded
    rw [ChatInfo.ofDictonary_stored, Option.some.injEq] at decoded
    subst decoded
    exact ⟨m, hm, hversion, held⟩

/-- Nothing is stored at the start. -/
theorem holds_init (P : ChatProperty κ) : P.Holds Cloud.init where
  documents _ _ hdata := by cases hdata
  devices c := by constructor <;> simp [Cloud.init]

/-- The property `Q` after an event follows from the property `P` before it. -/
structure Grows (P Q : ChatProperty κ) (s : Cloud κ) (a : Action κ) : Prop where
  served : ∀ m ∈ s.created, ∀ info, P.served m info → Q.served m info
  issued : ∀ c, ∀ m ∈ s.created, ∀ info, P.issued c m info → Q.issued c m info
  held : ∀ c, ∀ m ∈ s.created, ∀ info, P.held c m info → Q.held c m info
  creates : ∀ m, s.Creates a m → Q.issued a.client m m.placeholder ∧
    Q.issued a.client m m.corrected
  applied : ∀ w rest, a.event = .applyWrite → (s.devices a.client).pending = w :: rest →
    ∀ m ∈ s.created, w.path = m.chatPath → ∀ info : ChatInfo, w.data = some info.stored →
      P.issued a.client m info → Q.served m info

variable [DecidableEq κ] {P Q : ChatProperty κ} {s t : Cloud κ} {a : Action κ}

/-- One step takes a property of all chat versions to the next. -/
theorem Holds.step (coherent : Q.Coherent) (h : P.Holds s)
    (opened : ∀ c id, (s.devices c).messenger.idDiscussion = some id →
      ∃ m ∈ s.created, m.roomID = id)
    (hstep : s.step a = some t) (grows : P.Grows Q s a) : Q.Holds t := by
  have more := Cloud.step_created_subset hstep
  have grown : (Q.inventory t.created).Holds s :=
    Inventory.Holds.mono h
      (fun _ _ (old : Made s.created P.served _ _) => old.mono more grows.served)
      (fun c _ _ (old : Made s.created (P.issued c) _ _) => old.mono more (grows.issued c))
      (fun c _ _ (old : Made s.created (P.held c) _ _) => old.mono more (grows.held c))
      (fun _ _ => id)
      fun c _ ⟨m, hm, version, held⟩ => ⟨m, more hm, version, grows.held c m hm _ held⟩
  refine Inventory.Holds.step (coherent.inventory _) grown hstep ?_
  obtain ⟨client, event⟩ := a
  -- three events put data in or move it to the server
  cases event with
  | addChat name x y now roomID chatID =>
    intro unused m
    have creates : s.Creates ⟨client, .addChat name x y now roomID chatID⟩ m :=
      Cloud.creates_addChat unused
    have new : m ∈ t.created := creates.mem_created hstep
    obtain ⟨placeholder, corrected⟩ := grows.creates m creates
    refine ⟨fun w hw data hdata => ?_, m, new, Or.inr rfl, coherent.held_of_issued _ _ _ corrected⟩
    simp only [Creation.writes, List.mem_cons, List.not_mem_nil, or_false] at hw
    -- the room, the version with the placeholder, the corrected one
    rcases hw with rfl | rfl | rfl
    · exact ⟨m, new, rfl⟩
    · exact ⟨m, new, rfl, m.placeholder, Or.inl rfl, (Option.some.inj hdata).symm, placeholder⟩
    · exact ⟨m, new, rfl, m.corrected, Or.inr rfl, (Option.some.inj hdata).symm, corrected⟩
  | sendMessage owner message now =>
    simp only [Inventory.Admits]
    cases discussion : (s.devices client).messenger.idDiscussion with
    | none => trivial
    | some id =>
      obtain ⟨m, hm, room⟩ := opened client id discussion
      exact ⟨⟨m, more hm, room⟩, trivial⟩
  | applyWrite =>
    intro w hw data hdata
    obtain ⟨rest, queue⟩ := List.head?_eq_some_iff.mp hw
    have issued : Made s.created (P.issued client) w.path data :=
      (Inventory.Holds.devices h client).pending w (List.mem_of_mem_head? hw) data hdata
    obtain ⟨⟨collection, id⟩, path⟩ : ∃ path, w.path = path := ⟨_, rfl⟩
    rw [path] at issued ⊢
    cases collection with
    | rooms => exact issued.imp fun m hm => ⟨more hm.1, hm.2⟩
    | chats =>
      obtain ⟨m, hm, rfl, info, version, rfl, held⟩ := issued
      exact ⟨m, more hm, rfl, info, version, rfl,
        grows.applied w rest rfl queue m hm path info hdata held⟩
  | _ => trivial

end ChatProperty

/-- Versions of created chats; those a device has issued itself are its own. -/
def origin (κ : Type) : ChatProperty κ where
  served _ _ := True
  issued c m _ := m.client = c
  held _ _ _ := True

theorem origin_coherent : (origin κ).Coherent := ⟨fun _ _ _ _ => trivial, fun _ _ _ _ => trivial⟩

/-- A path that a version of a created chat names. -/
def Deletable (created : List (Creation κ)) (path : DocumentPath) : Prop :=
  ∃ m ∈ created, path = m.chatPath ∨ path = m.roomPath ∨
    path = ⟨.chats, FirestoreMessenger.placeholderID⟩

theorem Deletable.mono {created later : List (Creation κ)} (more : created ⊆ later)
    {path : DocumentPath} (h : Deletable created path) : Deletable later path :=
  h.imp fun _ hm => ⟨more hm.1, hm.2⟩

theorem deletable_of_version {created : List (Creation κ)} {m : Creation κ} (hm : m ∈ created)
    {info : ChatInfo} (version : m.Version info) {path : DocumentPath}
    (deleted : path = ⟨.chats, info.firebaseID⟩ ∨ path = ⟨.rooms, info.chatLink⟩) :
    Deletable created path := by
  refine ⟨m, hm, ?_⟩
  rcases deleted with rfl | rfl
  · rcases version with rfl | rfl
    · exact Or.inr (Or.inr rfl)
    · exact Or.inl rfl
  · rw [version.chatLink]
    exact Or.inr (Or.inl rfl)

/-- What is known about the origin of the data in every state. -/
structure Provenance (s : Cloud κ) : Prop where
  data : (origin κ).Holds s
  chatIDs : (s.created.map Creation.chatID).Nodup
  roomIDs : (s.created.map Creation.roomID).Nodup
  proper : ∀ m ∈ s.created, m.chatID ≠ FirestoreMessenger.placeholderID
  opened : ∀ c id, (s.devices c).messenger.idDiscussion = some id →
    ∃ m ∈ s.created, m.roomID = id
  deletes : ∀ c path, .delete path ∈ (s.devices c).pending → Deletable s.created path

namespace Provenance

theorem init : Provenance (Cloud.init : Cloud κ) where
  data := ChatProperty.holds_init _
  chatIDs := List.nodup_nil
  roomIDs := List.nodup_nil
  proper _ hm := by cases hm
  opened _ _ hopened := by cases hopened
  deletes _ _ hdelete := by cases hdelete

section Identifiers

variable {s : Cloud κ} {m m' : Creation κ}

theorem eq_of_chatID (h : Provenance s) (hm : m ∈ s.created) (hm' : m' ∈ s.created)
    (same : m.chatID = m'.chatID) : m = m' :=
  List.inj_on_of_nodup_map h.chatIDs hm hm' same

theorem eq_of_roomID (h : Provenance s) (hm : m ∈ s.created) (hm' : m' ∈ s.created)
    (same : m.roomID = m'.roomID) : m = m' :=
  List.inj_on_of_nodup_map h.roomIDs hm hm' same

/-- An entry is a version of a created chat. -/
theorem version_of_entry (h : Provenance s) {c : κ} {info : ChatInfo}
    (listed : info ∈ (s.devices c).messenger.chatInformationArray) :
    ∃ m ∈ s.created, m.Version info := by
  obtain ⟨m, hm, version, -⟩ := (h.data.devices c).entries info listed
  exact ⟨m, hm, version⟩

/-- An entry is a version of one created chat, told by its link. -/
theorem version_of_link (h : Provenance s) {c : κ} {info : ChatInfo}
    (listed : info ∈ (s.devices c).messenger.chatInformationArray) (hm : m ∈ s.created)
    (link : info.chatLink = m.roomID) : m.Version info := by
  obtain ⟨m', hm', version⟩ := h.version_of_entry listed
  rwa [h.eq_of_roomID hm hm' (link.symm.trans version.chatLink)]

/-- The stored chat of a creation is one of its versions. -/
theorem version_of_stored (h : Provenance s) (hm : m ∈ s.created) {data : Dictionary}
    (stored : s.documents m.chatPath = some data) :
    ∃ info, m.Version info ∧ data = info.stored := by
  obtain ⟨m', hm', same, info, version, rfl, -⟩ := h.data.documents m.chatPath data stored
  rw [h.eq_of_chatID hm hm' same.symm]
  exact ⟨info, version, rfl⟩

/-- A chat that a device sees is a version of the one created for its document. -/
theorem version_of_view (h : Provenance s) {c : κ} {chatID : String} {info : ChatInfo}
    (seen : (s.view c ⟨.chats, chatID⟩).bind ChatInfo.ofDictonary = some info) :
    ∃ m ∈ s.created, m.chatID = chatID ∧ m.Version info := by
  obtain ⟨data, shown, decoded⟩ := Option.bind_eq_some_iff.mp seen
  obtain ⟨m, hm, same, _, version, rfl, -⟩ :=
    Inventory.seen_of_view (origin_coherent.inventory s.created) h.data.documents
      (h.data.devices c) shown
  rw [ChatInfo.ofDictonary_stored, Option.some.injEq] at decoded
  exact ⟨m, hm, same, decoded ▸ version⟩

end Identifiers

section Step

variable [DecidableEq κ] {s t : Cloud κ} {a : Action κ}

/-- Identifiers stay distinct, as those of a new chat are fresh. -/
theorem nodup_created (hstep : s.step a = some t) (f : Creation κ → String)
    (distinct : (s.created.map f).Nodup)
    (fresh : ∀ m, s.Creates a m → ∀ m' ∈ s.created, f m' ≠ f m) : (t.created.map f).Nodup := by
  rcases Cloud.step_created_cases hstep with ⟨-, same⟩ | ⟨m, creates, added⟩
  · rw [same]
    exact distinct
  · rw [added, List.map_append, List.map_singleton, ← List.concat_eq_append, List.nodup_concat]
    refine ⟨fun used => ?_, distinct⟩
    -- the new identifier would have been generated before
    obtain ⟨m', hm', same⟩ := List.mem_map.mp used
    exact fresh m creates m' hm' same

/-- The open room is the one that was open, or that of an entry. -/
theorem opened_step (h : Provenance s) (hstep : s.step a = some t) :
    ∀ c id, (t.devices c).messenger.idDiscussion = some id → ∃ m ∈ t.created, m.roomID = id := by
  have more := Cloud.step_created_subset hstep
  have taken := Cloud.step_device hstep
  have old (c : κ) (id : String) (opened : (s.devices c).messenger.idDiscussion = some id) :
      ∃ m ∈ t.created, m.roomID = id := (h.opened c id opened).imp fun _ hm => ⟨more hm.1, hm.2⟩
  refine Cloud.step_forall_devices hstep (Q := fun d => ∀ id,
    d.messenger.idDiscussion = some id → ∃ m ∈ t.created, m.roomID = id) old fun id opened => ?_
  obtain ⟨client, event⟩ := a
  -- only `startDiscussRoom` opens another room
  by_cases starts : ∃ name, event = .startDiscussRoom name
  · obtain ⟨name, rfl⟩ := starts
    rw [Device.step_of_method rfl taken, Device.call_messenger,
      FirestoreMessenger.startDiscussRoom_idDiscussion, Option.or_eq_some_iff] at opened
    rcases opened with found | ⟨-, kept⟩
    · obtain ⟨info, first, rfl⟩ := Option.map_eq_some_iff.mp found
      obtain ⟨m, hm, version⟩ := h.version_of_entry (List.mem_of_find?_eq_some first)
      exact ⟨m, more hm, version.chatLink.symm⟩
    · exact old client id kept
  · rw [Device.step_idDiscussion taken fun name same => starts ⟨name, same⟩] at opened
    exact old client id opened

/-- A new deletion names the documents of an entry. -/
theorem deletes_step (h : Provenance s) (hstep : s.step a = some t) :
    ∀ c path, .delete path ∈ (t.devices c).pending → Deletable t.created path := by
  have more := Cloud.step_created_subset hstep
  have old (c : κ) (path : DocumentPath) (queued : .delete path ∈ (s.devices c).pending) :
      Deletable t.created path := (h.deletes c path queued).mono more
  refine Cloud.step_forall_devices hstep (Q := fun d => ∀ path,
    .delete path ∈ d.pending → Deletable t.created path) old fun path queued => ?_
  rcases Cloud.step_documents_cases hstep with ⟨unapplied, -⟩ | ⟨w, rest, -, queue, -, left⟩
  · rw [Device.step_pending (Cloud.step_device hstep) unapplied] at queued
    refine (List.mem_append.mp queued).elim (old a.client path) fun issued => ?_
    obtain ⟨info, listed, deleted⟩ := Cloud.delete_mem_issues issued
    obtain ⟨m, hm, version⟩ := h.version_of_entry listed
    exact (deletable_of_version hm version deleted).mono more
  · -- a write that leaves the queue leaves the rest behind
    rw [left] at queued
    exact old a.client path (queue ▸ List.mem_cons_of_mem _ queued)

/-- Every step keeps what is known about origins. -/
theorem step (h : Provenance s) (hstep : s.step a = some t) : Provenance t where
  data := h.data.step origin_coherent h.opened hstep
    { served := fun _ _ _ => id
      issued := fun _ _ _ _ => id
      held := fun _ _ _ _ => id
      creates := fun _ creates => ⟨creates.client, creates.client⟩
      applied := fun _ _ _ _ _ _ _ _ _ _ => trivial }
  chatIDs := nodup_created hstep Creation.chatID h.chatIDs fun _ creates m' hm' =>
    ((creates.fresh hstep).1 m' hm').1
  roomIDs := nodup_created hstep Creation.roomID h.roomIDs fun _ creates m' hm' =>
    ((creates.fresh hstep).1 m' hm').2
  proper := by
    intro m hm
    rcases Cloud.step_created_cases hstep with ⟨-, same⟩ | ⟨m', creates, added⟩
    · exact h.proper m (same ▸ hm)
    · rw [added] at hm
      rcases List.mem_append.mp hm with old | new
      · exact h.proper m old
      · rw [List.mem_singleton.mp new]
        exact (creates.fresh hstep).2
  opened := h.opened_step hstep
  deletes := h.deletes_step hstep

/-- Origins are known in every state of every run. -/
theorem of_exec {labels : List (Action κ)} (run : exec Cloud.step Cloud.init labels = some s) :
    Provenance s :=
  exec_invariant (fun _ _ _ => step) init run

end Step

end Provenance

end OnMap
