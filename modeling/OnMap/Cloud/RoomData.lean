/-
# Properties of stored rooms

Room data comes from two methods: `addChat` stores an empty room, `sendMessage`
the cached room with one more message. A property of rooms that the empty room
has and that one more message keeps therefore holds of every stored, waiting or
cached room. It may depend on the document and on the device, and it may change
from step to step.
-/

import OnMap.Cloud.Inventory

namespace OnMap

open Overlay

variable {κ : Type}

/-- The data stored under a path of `rooms` is a room with the property. -/
def RoomData (P : String → ChatRoom → Prop) (path : DocumentPath) (data : Dictionary) : Prop :=
  path.collection = .rooms →
    ∃ room, ChatRoom.ofDictonary data = some room ∧ P path.documentID room

theorem RoomData.mono {P Q : String → ChatRoom → Prop} (weaker : ∀ id room, P id room → Q id room)
    {path : DocumentPath} {data : Dictionary} (h : RoomData P path data) : RoomData Q path data :=
  fun rooms => (h rooms).imp fun _ hroom => ⟨hroom.1, weaker _ _ hroom.2⟩

theorem roomData_stored {P : String → ChatRoom → Prop} {path : DocumentPath} {room : ChatRoom}
    (h : P path.documentID room) : RoomData P path room.stored :=
  fun _ => ⟨room, ChatRoom.ofDictonary_stored room, h⟩

/-- A family of room properties: of the rooms the server holds, of those a device
holds or has on the way, and of its cached room. -/
structure RoomProperty (κ : Type) where
  served : String → ChatRoom → Prop
  held : κ → String → ChatRoom → Prop
  cache : κ → ChatRoom → Prop

namespace RoomProperty

/-- One property for all rooms. -/
def everywhere (κ : Type) (P : ChatRoom → Prop) : RoomProperty κ :=
  ⟨fun _ => P, fun _ _ => P, fun _ => P⟩

/-- What the server holds a device may read, and what it reads it may cache. -/
structure Coherent (P : RoomProperty κ) : Prop where
  held_of_served : ∀ c id room, P.served id room → P.held c id room
  cache_of_held : ∀ c id room, P.held c id room → P.cache c room

theorem coherent_everywhere (P : ChatRoom → Prop) : (everywhere κ P).Coherent :=
  ⟨fun _ _ _ => id, fun _ _ _ => id⟩

/-- The inventory of the room data. -/
def inventory (P : RoomProperty κ) : Inventory κ where
  served := RoomData P.served
  issued c := RoomData (P.held c)
  seen c := RoomData (P.held c)
  cache := P.cache
  entry _ _ := True

theorem Coherent.inventory {P : RoomProperty κ} (h : P.Coherent) : P.inventory.Coherent where
  seen_of_served c _ _ hdata := hdata.mono (h.held_of_served c)
  seen_of_issued _ _ _ := id
  cache_of_seen c id _ room hdata decoded := by
    obtain ⟨other, hother, held⟩ := hdata rfl
    exact h.cache_of_held c id _ (Option.some.inj (hother.symm.trans decoded) ▸ held)
  entry_of_seen _ _ _ _ _ _ := trivial

/-- All room data has its property. -/
abbrev Holds (P : RoomProperty κ) (s : Cloud κ) : Prop := P.inventory.Holds s

/-- Nothing is stored at the start. -/
theorem holds_init (P : RoomProperty κ) : P.Holds Cloud.init where
  documents _ _ hdata := by cases hdata
  devices c := by constructor <;> simp [Cloud.init]

/-- The property `Q` after an event follows from the property `P` before it. -/
structure Grows (P Q : RoomProperty κ) (s : Cloud κ) (a : Action κ) : Prop where
  served : ∀ id room, P.served id room → Q.served id room
  held : ∀ c id room, P.held c id room → Q.held c id room
  cache : ∀ c room, P.cache c room → Q.cache c room
  empty : ∀ name x y now roomID chatID, a.event = .addChat name x y now roomID chatID →
    Q.held a.client roomID .empty
  sent : ∀ owner message now, a.event = .sendMessage owner message now →
    let room := (s.devices a.client).messenger.currentChatRoom.getD .empty
    match (s.devices a.client).messenger.idDiscussion with
    | none => Q.cache a.client room
    | some chatLink => Q.held a.client chatLink (room.appending ⟨owner, message, now⟩)
  applied : ∀ w rest, a.event = .applyWrite → (s.devices a.client).pending = w :: rest →
    w.path.collection = .rooms → ∀ data room, w.data = some data →
      ChatRoom.ofDictonary data = some room → Q.held a.client w.path.documentID room →
        Q.served w.path.documentID room

/-- An event that neither puts in room data nor takes it to the server. -/
theorem Grows.of_quiet {P : RoomProperty κ} {s : Cloud κ} {a : Action κ}
    (unadded : ∀ name x y now roomID chatID, a.event ≠ .addChat name x y now roomID chatID)
    (unsent : ∀ owner message now, a.event ≠ .sendMessage owner message now)
    (unapplied : a.event ≠ .applyWrite) : P.Grows P s a where
  served _ _ := id
  held _ _ _ := id
  cache _ _ := id
  empty _ _ _ _ _ _ added := absurd added (unadded _ _ _ _ _ _)
  sent _ _ _ sent := absurd sent (unsent _ _ _)
  applied _ _ applied := absurd applied unapplied

/-- One step takes a property of all room data to the next. -/
theorem Holds.step [DecidableEq κ] {P Q : RoomProperty κ} (coherent : Q.Coherent)
    {s t : Cloud κ} {a : Action κ} (h : P.Holds s) (hstep : s.step a = some t)
    (grows : P.Grows Q s a) : Q.Holds t := by
  have grown : Q.Holds s := Inventory.Holds.mono h (fun _ _ => RoomData.mono grows.served)
    (fun c _ _ => RoomData.mono (grows.held c)) (fun c _ _ => RoomData.mono (grows.held c))
    grows.cache fun _ _ => id
  refine Inventory.Holds.step coherent.inventory grown hstep ?_
  cases event : a.event with
  | addChat name x y now roomID chatID =>
    refine fun _ => ⟨fun w hw data hdata rooms => ?_, trivial⟩
    -- only the first write of `addChat` goes to `rooms`; it holds the empty room
    rcases List.mem_cons.mp hw with rfl | others
    · obtain rfl := Option.some.inj hdata
      exact ⟨.empty, ChatRoom.ofDictonary_stored _, grows.empty _ _ _ _ _ _ event⟩
    · rcases (by simpa using others : w = _ ∨ w = _) with rfl | rfl <;> cases rooms
  | sendMessage owner message now =>
    have sent := grows.sent owner message now event
    simp only [Inventory.Admits]
    cases opened : (s.devices a.client).messenger.idDiscussion with
    | none =>
      simp only [opened] at sent
      exact sent
    | some chatLink =>
      simp only [opened] at sent
      exact ⟨roomData_stored sent, coherent.cache_of_held _ _ _ sent⟩
  | applyWrite =>
    intro w hw data hdata rooms
    obtain ⟨rest, queue⟩ := List.head?_eq_some_iff.mp hw
    obtain ⟨room, decoded, held⟩ :=
      (grown.devices a.client).pending w (List.mem_of_mem_head? hw) data hdata rooms
    exact ⟨room, decoded, grows.applied w rest event queue rooms data room hdata decoded held⟩
  | _ => trivial

end RoomProperty

end OnMap
