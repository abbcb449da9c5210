/-
# The cloud: the server and all devices

Any number of devices share the documents of one database. The server applies
each device's writes in the order the device issued them, and the devices'
queues in any order. `created` records the chats that `addChat` made; the
identifiers the SDK generates are new and are not the placeholder.
-/

import OnMap.Cloud.Device

namespace OnMap

open Overlay

/-- A successful `addChat` call. -/
structure Creation (κ : Type) where
  client : κ
  name : String
  xCoordinate : Double
  yCoordinate : Double
  timeCreate : Date
  roomID : String
  chatID : String
  deriving DecidableEq

namespace Creation

variable {κ : Type}

/-- The chat as `addDocument` stores it first. -/
def placeholder (m : Creation κ) : ChatInfo where
  name := m.name
  timeCreate := m.timeCreate
  xCoordinate := m.xCoordinate
  yCoordinate := m.yCoordinate
  chatLink := m.roomID
  firebaseID := FirestoreMessenger.placeholderID

/-- The chat with the identifier of its own document. -/
def corrected (m : Creation κ) : ChatInfo := { m.placeholder with firebaseID := m.chatID }

@[simp] theorem corrected_name (m : Creation κ) : m.corrected.name = m.name := rfl
@[simp] theorem corrected_chatLink (m : Creation κ) : m.corrected.chatLink = m.roomID := rfl
@[simp] theorem corrected_firebaseID (m : Creation κ) : m.corrected.firebaseID = m.chatID := rfl
@[simp] theorem placeholder_firebaseID (m : Creation κ) :
    m.placeholder.firebaseID = FirestoreMessenger.placeholderID := rfl

def roomPath (m : Creation κ) : DocumentPath := ⟨.rooms, m.roomID⟩

def chatPath (m : Creation κ) : DocumentPath := ⟨.chats, m.chatID⟩

/-- The writes of `addChat`. -/
def writes (m : Creation κ) : List DocumentWrite :=
  [.addDocument m.roomPath ChatRoom.empty.dictonary,
   .addDocument m.chatPath m.placeholder.dictonary,
   .setData m.chatPath m.corrected.dictonary]

end Creation

/-- The identifiers the SDK generates for an event: the room's and the chat's. -/
def Event.newIDs : Event → Option (String × String)
  | .addChat _ _ _ _ roomID chatID => some (roomID, chatID)
  | _ => none

/-- The server and the devices. -/
structure Cloud (κ : Type) where
  documents : Documents
  devices : κ → Device
  created : List (Creation κ)

/-- An event on one of the devices. -/
structure Action (κ : Type) where
  client : κ
  event : Event

namespace Cloud

variable {κ : Type}

/-- An empty database and freshly started devices. -/
def init : Cloud κ := ⟨fun _ => none, fun _ => {}, []⟩

/-- Every identifier the SDK has generated. -/
def generated (s : Cloud κ) : List String :=
  s.created.flatMap fun m => [m.roomID, m.chatID]

/-- Generated identifiers are new. -/
def Fresh (s : Cloud κ) (event : Event) : Prop :=
  ∀ ids ∈ event.newIDs, ids.1 ∉ s.generated ∧ ids.2 ∉ s.generated ∧ ids.1 ≠ ids.2 ∧
    ids.2 ≠ FirestoreMessenger.placeholderID

instance (s : Cloud κ) (event : Event) : Decidable (s.Fresh event) :=
  inferInstanceAs (Decidable (∀ ids ∈ event.newIDs, _))

/-- The documents after an event: the server takes the oldest write of a queue. -/
def documentsAfter (s : Cloud κ) (a : Action κ) : Documents :=
  match a.event, (s.devices a.client).pending with
  | .applyWrite, w :: _ => w.toWrite.apply s.documents
  | _, _ => s.documents

section DocumentsAfter

variable {s : Cloud κ} {a : Action κ}

theorem documentsAfter_of_ne (h : a.event ≠ .applyWrite) : s.documentsAfter a = s.documents := by
  rw [documentsAfter]
  split
  case h_1 hevent _ => exact absurd hevent h
  case h_2 => rfl

theorem documentsAfter_applyWrite (h : a.event = .applyWrite) {w : DocumentWrite}
    {rest : List DocumentWrite} (queue : (s.devices a.client).pending = w :: rest) :
    s.documentsAfter a = w.toWrite.apply s.documents := by
  rw [documentsAfter, h, queue]

end DocumentsAfter

/-- The chats created so far, after an event. -/
def createdAfter (s : Cloud κ) (a : Action κ) : List (Creation κ) :=
  match a.event with
  | .addChat nameDiscussion xCoordinate yCoordinate now roomID chatID =>
    -- a refused call creates nothing
    if (s.devices a.client).messenger.chatIsExist nameDiscussion then s.created
    else s.created ++
      [⟨a.client, nameDiscussion, xCoordinate, yCoordinate, now, roomID, chatID⟩]
  | _ => s.created

variable [DecidableEq κ]

def step (s : Cloud κ) (a : Action κ) : Option (Cloud κ) :=
  if s.Fresh a.event then
    ((s.devices a.client).step s.documents (s.created.map Creation.chatID) a.event).map
      fun d =>
        { documents := s.documentsAfter a
          devices := Function.update s.devices a.client d
          created := s.createdAfter a }
  else none

theorem step_eq_some_iff {s s' : Cloud κ} {a : Action κ} :
    s.step a = some s' ↔ s.Fresh a.event ∧
      ∃ d, (s.devices a.client).step s.documents (s.created.map Creation.chatID) a.event =
        some d ∧
        s' = ⟨s.documentsAfter a, Function.update s.devices a.client d, s.createdAfter a⟩ := by
  rw [step]
  split
  case isTrue fresh =>
    rw [Option.map_eq_some_iff]
    exact ⟨fun ⟨d, hd, same⟩ => ⟨fresh, d, hd, same.symm⟩,
      fun ⟨_, d, hd, same⟩ => ⟨d, hd, same.symm⟩⟩
  case isFalse stale => simp [stale]

section Step

variable {s s' : Cloud κ} {a : Action κ}

theorem step_fresh (h : s.step a = some s') : s.Fresh a.event := (step_eq_some_iff.mp h).1

/-- The acting device takes the event's step. -/
theorem step_device (h : s.step a = some s') :
    (s.devices a.client).step s.documents (s.created.map Creation.chatID) a.event =
      some (s'.devices a.client) := by
  obtain ⟨-, d, hd, rfl⟩ := step_eq_some_iff.mp h
  simp only [hd, Function.update_self]

/-- No other device changes. -/
theorem step_devices_of_ne (h : s.step a = some s') {c : κ} (other : c ≠ a.client) :
    s'.devices c = s.devices c := by
  obtain ⟨-, d, -, rfl⟩ := step_eq_some_iff.mp h
  exact Function.update_of_ne other ..

/-- What every device has and the acting one keeps, every device has afterwards. -/
theorem step_forall_devices (h : s.step a = some s') {Q : Device → Prop}
    (before : ∀ c, Q (s.devices c)) (now : Q (s'.devices a.client)) : ∀ c, Q (s'.devices c) := by
  intro c
  by_cases acting : c = a.client
  · rwa [acting]
  · rw [step_devices_of_ne h acting]
    exact before c

theorem step_documents (h : s.step a = some s') : s'.documents = s.documentsAfter a := by
  obtain ⟨-, d, -, rfl⟩ := step_eq_some_iff.mp h
  rfl

theorem step_created (h : s.step a = some s') : s'.created = s.createdAfter a := by
  obtain ⟨-, d, -, rfl⟩ := step_eq_some_iff.mp h
  rfl

/-- The documents change only when the server takes the oldest write of the
acting device, which then leaves the queue. -/
theorem step_documents_cases (h : s.step a = some s') :
    (a.event ≠ .applyWrite ∧ s'.documents = s.documents) ∨
      ∃ w rest, a.event = .applyWrite ∧ (s.devices a.client).pending = w :: rest ∧
        s'.documents = w.toWrite.apply s.documents ∧
        s'.devices a.client = { s.devices a.client with pending := rest } := by
  by_cases applied : a.event = .applyWrite
  · have taken := step_device h
    rw [applied] at taken
    cases queue : (s.devices a.client).pending with
    | nil => simp [Device.step, queue] at taken
    | cons w rest =>
      simp only [Device.step, queue, Option.some.injEq] at taken
      refine Or.inr ⟨w, rest, applied, rfl, ?_, taken.symm⟩
      rw [step_documents h, documentsAfter_applyWrite applied queue]
  · exact Or.inl ⟨applied, (step_documents h).trans (documentsAfter_of_ne applied)⟩

end Step

/-- The documents as a device sees them. -/
def view (s : Cloud κ) (c : κ) : Documents := (s.devices c).view s.documents

/-- No write is waiting on any device. -/
def Settled (s : Cloud κ) : Prop := ∀ c, (s.devices c).pending = []

end Cloud

end OnMap
