/-
# The cloud comes to rest

When the users pause, only the server, the SDK and the main queues act. Each of their
deliveries takes off something that is under way, and some delivery is possible as long as
anything is: no closure traps and nothing waits for a user. So every run of deliveries is
bounded, and one that cannot go on has delivered everything.

With the snapshots that the SDK raises in between, the devices then agree with the server:
every chats listener has told the stored documents, and a device whose room listener is
alive shows the stored room.
-/

import OnMap.Cloud.Traps
import OnMap.Library.Progress
import Mathlib.Algebra.BigOperators.Group.Finset.Basic
import Mathlib.Algebra.Order.BigOperators.Group.Finset

namespace OnMap

open Transition Overlay

/-- Events that deliver something under way. -/
def Event.delivers : Event → Bool
  | .applyWrite | .answerRoom _ | .answerChats _ | .failChats | .runRoom _ | .runChats _
  | .runChange => true
  | _ => false

/-- Events of the server, the SDK and the main queue. -/
def Event.ofSystem : Event → Bool
  | .raiseRoom _ | .raiseChange _ => true
  | event => event.delivers

theorem Event.ofSystem_of_delivers {event : Event} (h : event.delivers = true) :
    event.ofSystem = true := by
  cases event <;> first | exact h | cases h

namespace Device

/-- What is under way on a device; an answer still has to run after it has come. -/
def load (d : Device) : ℕ :=
  d.pending.length + 2 * d.gets.length + 2 * d.queries + d.changes.length +
    d.roomCallbacks.length + d.chatsReplies.length

variable {documents : Documents} {chatIDs : List String} {d d' : Device} {event : Event}

theorem load_eq_zero_iff {d : Device} : d.load = 0 ↔ d.pending = [] ∧ d.gets = [] ∧
    d.queries = 0 ∧ d.changes = [] ∧ d.roomCallbacks = [] ∧ d.chatsReplies = [] := by
  simp only [load, Nat.add_eq_zero_iff, Nat.mul_eq_zero, List.length_eq_zero_iff]
  simp [and_assoc]

/-- A delivery takes something off. -/
theorem load_step (h : d.step documents chatIDs event = some d')
    (delivers : event.delivers = true) : d'.load < d.load := by
  cases moves h with
  | method called =>
    cases event with
    | applyWrite | answerRoom | answerChats | failChats | runRoom | runChats | runChange =>
      cases called
    | _ => cases delivers
  | raiseRoom | raiseChange => cases delivers
  | applyWrite queue =>
    simp only [load, queue, List.length_cons]
    omega
  | answerRoom asked =>
    have inside := (List.getElem?_eq_some_iff.mp asked).1
    simp only [load, List.length_eraseIdx_of_lt inside, List.length_append, List.length_singleton]
    omega
  | answerChats asked | failChats asked =>
    simp only [load, List.length_append, List.length_singleton]
    omega
  | runRoom waiting =>
    have inside := (List.getElem?_eq_some_iff.mp waiting).1
    simp only [load, List.length_eraseIdx_of_lt inside]
    omega
  | runChats waiting =>
    have inside := (List.getElem?_eq_some_iff.mp waiting).1
    simp only [load, List.length_eraseIdx_of_lt inside]
    omega
  | runChange queue =>
    simp only [load, queue, List.length_cons]
    omega

/-- As long as something is under way, a delivery is possible. -/
theorem exists_possible (documents : Documents) (chatIDs : List String) (d : Device)
    (loaded : 0 < d.load) :
    ∃ event, event.delivers = true ∧ d.Possible documents chatIDs event := by
  by_cases pending : d.pending = []
  · by_cases gets : d.gets = []
    · by_cases queries : d.queries = 0
      · by_cases changes : d.changes = []
        · by_cases callbacks : d.roomCallbacks = []
          · have replies : d.chatsReplies ≠ [] := by
              rintro replies
              simp [load, *] at loaded
            exact ⟨.runChats 0, rfl, List.length_pos_iff.mpr replies⟩
          · exact ⟨.runRoom 0, rfl, List.length_pos_iff.mpr callbacks⟩
        · exact ⟨.runChange, rfl, changes⟩
      · exact ⟨.answerChats _, rfl, Nat.pos_of_ne_zero queries, List.Perm.refl _⟩
    · exact ⟨.answerRoom 0, rfl, List.length_pos_iff.mpr gets⟩
  · exact ⟨.applyWrite, rfl, pending⟩

/-- The system calls no method. -/
theorem method_eq_none_of_system (system : event.ofSystem = true) : d.method event = none := by
  cases event <;> first | rfl | cases system

/-- Only snapshots of the chats listener tell it something. -/
theorem reported_step (h : d.step documents chatIDs event = some d')
    (system : event.ofSystem = true) (silent : ∀ chatID, event ≠ .raiseChange chatID) :
    d'.reported = d.reported := by
  cases moves h with
  | method called =>
    rw [method_eq_none_of_system system] at called
    cases called
  | raiseChange => exact absurd rfl (silent _)
  | _ => rfl

end Device

namespace Cloud

variable {κ : Type} [DecidableEq κ]

/-- Everything under way, on all devices. -/
def load [Fintype κ] (s : Cloud κ) : ℕ := ∑ c, (s.devices c).load

/-- The action is a delivery. -/
def Delivery (a : Action κ) : Prop := a.event.delivers = true

/-- The action is one of the server, the SDK or a main queue. -/
def OfSystem (a : Action κ) : Prop := a.event.ofSystem = true

section Deliveries

variable {s t : Cloud κ} {a : Action κ}

/-- The system creates no chats. -/
theorem created_of_system (hstep : s.step a = some t) (system : OfSystem a) :
    t.created = s.created := by
  obtain ⟨c, event⟩ := a
  rw [step_created hstep, createdAfter]
  cases event with
  | addChat => cases system
  | _ => rfl

theorem load_lt_load [Fintype κ] (hstep : s.step a = some t) (delivers : Delivery a) :
    t.load < s.load := by
  refine Finset.sum_lt_sum (fun c _ => ?_) ⟨a.client, Finset.mem_univ _, ?_⟩
  · by_cases acting : c = a.client
    · rw [acting]
      exact Nat.le_of_lt (Device.load_step (step_device hstep) delivers)
    · rw [step_devices_of_ne hstep acting]
  · exact Device.load_step (step_device hstep) delivers

/-- What the system can do is no trap. -/
theorem exists_step_of_possible (origins : Provenance s) {c : κ} {event : Event}
    (system : event.ofSystem = true)
    (possible : (s.devices c).Possible s.documents (s.created.map Creation.chatID) event) :
    ∃ t, s.step ⟨c, event⟩ = some t := by
  have no_deletion (name : String) : event ≠ .deleteChat name := by
    rintro rfl
    cases system
  have fresh : s.Fresh event := by
    cases event with
    | addChat => cases system
    | _ => exact nofun
  obtain ⟨d, taken⟩ := Option.isSome_iff_exists.mp
    ((Device.step_isSome_iff (origins.decodes c)).mpr
      ⟨possible, fun name same => absurd same (no_deletion name)⟩)
  exact ⟨_, step_eq_some_iff.mpr ⟨fresh, d, taken, rfl⟩⟩

theorem exists_delivery [Fintype κ] (origins : Provenance s) (loaded : 0 < s.load) :
    ∃ a t, Delivery a ∧ s.step a = some t := by
  obtain ⟨c, -, busy⟩ := Finset.exists_ne_zero_of_sum_ne_zero (Nat.ne_of_gt loaded)
  obtain ⟨event, delivers, possible⟩ :=
    Device.exists_possible s.documents (s.created.map Creation.chatID) (s.devices c)
      (Nat.pos_of_ne_zero busy)
  have system := Event.ofSystem_of_delivers delivers
  obtain ⟨t, taken⟩ := exists_step_of_possible origins system possible
  exact ⟨⟨c, event⟩, t, delivers, taken⟩

end Deliveries

/-- From every reachable state, deliveries go on for as long as something is under way and
no longer: their number is bounded, and where no delivery is possible nothing is left. -/
theorem deliveries_end [Fintype κ] {s : Cloud κ} {labels : List (Action κ)}
    (run : exec step init labels = some s) {deliveries : List (Action κ)}
    (delivers : ∀ a ∈ deliveries, Delivery a) {t : Cloud κ}
    (delivered : exec step s deliveries = some t) :
    deliveries.length + t.load ≤ s.load ∧
      ((∀ a, Delivery a → t.step a = none) ↔ t.load = 0) := by
  have origins := Provenance.of_exec run
  refine ⟨length_add_work_le step load (I := fun _ => True) (fun _ _ _ _ _ _ => trivial)
    (fun _ _ _ _ now taken => load_lt_load taken now) trivial delivers delivered, ?_⟩
  have there : Provenance t := exec_invariant (fun _ _ _ => Provenance.step) origins delivered
  constructor
  · intro stuck
    by_contra loaded
    obtain ⟨a, u, now, taken⟩ := exists_delivery there (Nat.pos_of_ne_zero loaded)
    rw [stuck a now] at taken
    cases taken
  · intro none a now
    cases taken : t.step a with
    | none => rfl
    | some u => exact absurd (load_lt_load taken now) (by omega)

/-- A chat is added by one device, and the other one looks for its room at once. -/
def addition : List (Action Bool) :=
  [⟨true, .setupObserverChats⟩, ⟨false, .setupObserverChats⟩,
   ⟨true, .addChat "дом" ⟨1⟩ ⟨2⟩ 1 "r1" "c1"⟩, ⟨true, .applyWrite⟩, ⟨true, .applyWrite⟩,
   ⟨false, .raiseChange "c1"⟩, ⟨false, .runChange⟩, ⟨false, .startDiscussRoom "дом"⟩]

theorem deliveries_end_addition : ∃ s t, exec step init addition = some s ∧ s.load = 5 ∧
    exec step s [⟨false, .answerRoom 0⟩, ⟨true, .applyWrite⟩, ⟨false, .runRoom 0⟩,
      ⟨true, .runChange⟩, ⟨true, .runChange⟩] = some t ∧ ∀ a, Delivery a → t.step a = none := by
  obtain ⟨s, run, loaded⟩ : ∃ s ∈ exec step init addition, s.load = 5 := by decide +kernel
  obtain ⟨s', run', t, delivered, done⟩ : ∃ s ∈ exec step init addition, ∃ t ∈ exec step s
      [⟨false, .answerRoom 0⟩, ⟨true, .applyWrite⟩, ⟨false, .runRoom 0⟩,
        ⟨true, .runChange⟩, ⟨true, .runChange⟩], t.load = 0 := by
    decide +kernel
  obtain rfl := Option.some.inj (run.symm.trans run')
  exact ⟨s, t, run, loaded, delivered,
    (deliveries_end run (by simp [Delivery, Event.delivers]) delivered).2.mpr done⟩

/-! ### Agreement with the server -/

/-- A device with a live listener of its open room shows the stored room. -/
def ShowsStored (s : Cloud κ) (c : κ) : Prop :=
  ∀ registration room data, (registration, room) ∈ (s.devices c).registrations →
    (s.devices c).messenger.idDiscussion = some room →
    s.documents ⟨.rooms, room⟩ = some data →
      (s.devices c).messenger.currentChatRoom = ChatRoom.ofDictonary data

/-- Nothing is under way on the device, its chats listener has told the stored documents,
and it shows the stored room. -/
structure Calm (s : Cloud κ) (c : κ) : Prop where
  load : (s.devices c).load = 0
  told : ∀ told ∈ (s.devices c).reported, ∀ chatID, told chatID = s.documents ⟨.chats, chatID⟩
  shown : s.ShowsStored c

/-- `u` is `s` but for what is under way on the device `c`, which has no writes waiting. -/
structure Beside (s : Cloud κ) (c : κ) (u : Cloud κ) : Prop where
  origins : Provenance u
  documents : u.documents = s.documents
  created : u.created = s.created
  others : ∀ c', c' ≠ c → u.devices c' = s.devices c'
  pending : (u.devices c).pending = []

/-- The system acts on the device `c`, and not on the documents. -/
def ActsOn (c : κ) (a : Action κ) : Prop :=
  a.client = c ∧ OfSystem a ∧ a.event ≠ .applyWrite

section Beside

variable {s t u : Cloud κ} {a : Action κ} {c : κ}

omit [DecidableEq κ] in
theorem Beside.refl (origins : Provenance s) (pending : (s.devices c).pending = []) :
    s.Beside c s := ⟨origins, rfl, rfl, fun _ _ => rfl, pending⟩

theorem Beside.step (h : s.Beside c u) (acts : ActsOn c a) (hstep : u.step a = some t) :
    s.Beside c t := by
  obtain ⟨rfl, system, unapplied⟩ := acts
  have none : (u.devices a.client).issues a.event = [] := by
    rw [Device.issues, Device.method_eq_none_of_system system]
    rfl
  refine ⟨h.origins.step hstep, ?_, (created_of_system hstep system).trans h.created, ?_, ?_⟩
  · rw [step_documents hstep, documentsAfter_of_ne unapplied, h.documents]
  · exact fun c' other => (step_devices_of_ne hstep other).trans (h.others c' other)
  · rw [Device.step_pending (step_device hstep) unapplied, none, h.pending, List.append_nil]

/-- What the system can do on the device leads on. -/
theorem Beside.exists_step (h : s.Beside c u) (event : Event) (system : event.ofSystem = true)
    (unapplied : event ≠ .applyWrite)
    (possible : (u.devices c).Possible u.documents (u.created.map Creation.chatID) event) :
    ∃ t, u.step ⟨c, event⟩ = some t ∧ s.Beside c t := by
  obtain ⟨t, taken⟩ := exists_step_of_possible h.origins system possible
  exact ⟨t, taken, h.step (a := ⟨c, event⟩) ⟨rfl, system, unapplied⟩ taken⟩

/-- The listener of the device has told the stored document. -/
def Told (c : κ) (chatID : String) (u : Cloud κ) : Prop :=
  ∀ told ∈ (u.devices c).reported, told chatID = u.documents ⟨.chats, chatID⟩

/-- Everything under way on the device is delivered, and the listener is told nothing new. -/
theorem Beside.exists_drained (h : s.Beside c u) :
    ∃ t, Reaches Cloud.step (ActsOn c) u t ∧ s.Beside c t ∧ (t.devices c).load = 0 ∧
      (t.devices c).reported = (u.devices c).reported := by
  have reaches := exists_reaches_work_eq_zero Cloud.step (fun v => (v.devices c).load)
    (L := ActsOn c)
    (I := fun v => s.Beside c v ∧ (v.devices c).reported = (u.devices c).reported) ?_ ⟨h, rfl⟩
  · obtain ⟨t, reached, ⟨beside, reported⟩, drained⟩ := reaches
    exact ⟨t, reached, beside, drained, reported⟩
  rintro v ⟨beside, reported⟩ loaded
  obtain ⟨event, delivers, possible⟩ :=
    Device.exists_possible v.documents (v.created.map Creation.chatID) (v.devices c) loaded
  have system := Event.ofSystem_of_delivers delivers
  have unapplied : event ≠ .applyWrite := by
    rintro rfl
    exact possible beside.pending
  obtain ⟨t, taken, kept⟩ := beside.exists_step event system unapplied possible
  refine ⟨⟨c, event⟩, t, ⟨rfl, system, unapplied⟩, taken, ⟨kept, ?_⟩,
    Device.load_step (step_device taken) delivers⟩
  refine (Device.reported_step (step_device taken) system fun chatID => ?_).trans reported
  rintro rfl
  cases delivers

/-- A snapshot of the chats listener tells the stored document, and forgets no other. -/
theorem Beside.exists_told (h : s.Beside c u) (chatID : String) :
    ∃ t, Reaches Cloud.step (ActsOn c) u t ∧ s.Beside c t ∧ Told c chatID t ∧
      ∀ other, Told c other u → Told c other t := by
  obtain ⟨t, taken, beside⟩ := h.exists_step (.raiseChange chatID) rfl (by simp) trivial
  have same : t.documents = u.documents := beside.documents.trans h.documents.symm
  have raised : t.devices c = (u.devices c).raise u.documents chatID :=
    (Option.some.inj (step_device taken)).symm
  have shown : (u.devices c).view u.documents = u.documents := by
    rw [Device.view, h.pending]
    rfl
  refine ⟨t, .single (a := ⟨c, .raiseChange chatID⟩) ⟨rfl, rfl, by simp⟩ taken, beside, ?_⟩
  simp only [Told, raised, same]
  cases listening : (u.devices c).reported with
  | none => simp [Device.raise_of_reported_none, listening]
  | some told =>
    simp only [Option.mem_some_iff, forall_eq']
    rcases @Device.raise_of_reported_some u.documents _ chatID _ listening with
      ⟨untold, missing, quiet⟩ | ⟨change, -, loud⟩
    · -- there was nothing to tell
      rw [shown] at missing
      rw [quiet, listening]
      simp only [Option.mem_some_iff, forall_eq']
      exact ⟨untold.trans missing.symm, fun _ => id⟩
    · rw [loud, shown]
      simp only [Option.mem_some_iff, forall_eq', Function.update_self, true_and]
      intro other here
      by_cases now : other = chatID
      · rw [now, Function.update_self]
      · rwa [Function.update_of_ne now]

/-- A snapshot of the room that is open, if its listener is alive, shows the stored room. -/
theorem Beside.exists_shown (h : s.Beside c u) (drained : (u.devices c).load = 0) :
    ∃ t, Reaches Cloud.step (ActsOn c) u t ∧ s.Beside c t ∧ (t.devices c).load = 0 ∧
      (t.devices c).reported = (u.devices c).reported ∧ t.ShowsStored c := by
  by_cases live : ∃ registration room, (registration, room) ∈ (u.devices c).registrations ∧
      (u.devices c).messenger.idDiscussion = some room
  case neg =>
    refine ⟨u, .refl u, h, drained, rfl, fun registration room _ listens opened _ => ?_⟩
    exact absurd ⟨registration, room, listens, opened⟩ live
  obtain ⟨registration, room, listens, opened⟩ := live
  obtain ⟨index, found⟩ := List.getElem?_of_mem listens
  obtain ⟨-, gets, queries, changes, callbacks, replies⟩ := Device.load_eq_zero_iff.mp drained
  -- the snapshot is raised
  have raises : ActsOn c ⟨c, .raiseRoom index⟩ := ⟨rfl, rfl, Event.noConfusion⟩
  obtain ⟨v, raised, beside⟩ := h.exists_step (.raiseRoom index) rfl raises.2.2
    (List.getElem?_eq_some_iff.mp found).1
  obtain ⟨_, _, again, now⟩ := Device.step_raiseRoom (step_device raised)
  obtain ⟨rfl, rfl⟩ := Prod.mk.inj (Option.some.inj (found.symm.trans again))
  rw [callbacks, List.nil_append] at now
  -- and its closure runs
  have runs : ActsOn c ⟨c, .runRoom 0⟩ := ⟨rfl, rfl, Event.noConfusion⟩
  obtain ⟨t, handled, beside'⟩ := beside.exists_step (.runRoom 0) rfl runs.2.2
    (by simp [Device.Possible, now])
  obtain ⟨callback, waiting, then_⟩ := Device.step_runRoom (step_device handled)
  obtain rfl : _ = callback := by simpa [now] using waiting
  have alive : registration ∈ (u.devices c).registrations.map Prod.fst :=
    List.mem_map_of_mem (f := Prod.fst) listens
  have shown : (u.devices c).view u.documents = u.documents := by
    rw [Device.view, h.pending]
    rfl
  have same : t.documents = u.documents := beside'.documents.trans h.documents.symm
  simp only [now, Device.runRoomCallback, alive, if_true, shown, List.eraseIdx_zero,
    List.tail_cons] at then_
  refine ⟨t, (Reaches.single raises raised).trans (.single runs handled), beside', ?_,
    by rw [then_], ?_⟩
  · rw [Device.load_eq_zero_iff, then_]
    exact ⟨h.pending, gets, queries, changes, rfl, replies⟩
  · intro _ room' data _ opened' stored
    rw [then_] at opened' ⊢
    -- the room that is open is the one that the snapshot is of
    have kept : ((u.devices c).messenger.handleRoom (u.documents ⟨.rooms, room⟩)).idDiscussion =
        some room := by
      cases u.documents ⟨.rooms, room⟩ <;> exact opened
    obtain rfl := Option.some.inj (kept.symm.trans opened')
    rw [same] at stored
    rw [stored]
    rfl

end Beside

/-- A device whose writes are all applied comes to agree with the server. -/
theorem exists_calm {s : Cloud κ} (origins : Provenance s) {c : κ}
    (pending : (s.devices c).pending = []) :
    ∃ t, Reaches Cloud.step (ActsOn c) s t ∧ s.Beside c t ∧ t.Calm c := by
  obtain ⟨u, told, atU, all⟩ := exists_reaches_forall_mem Cloud.step
    (L := ActsOn c) (I := s.Beside c) (F := Told c)
    (fun chatID v h => by
      obtain ⟨t, reached, beside, now, still⟩ := h.exists_told chatID
      exact ⟨t, reached, beside, now, still⟩)
    (s.created.map Creation.chatID) (Beside.refl origins pending)
  obtain ⟨v, delivered, atV, drained, same⟩ := atU.exists_drained
  obtain ⟨t, shown, beside, rest, same', stored⟩ := atV.exists_shown drained
  refine ⟨t, (told.trans delivered).trans shown, beside, rest, fun told listening chatID => ?_,
    stored⟩
  by_cases created : chatID ∈ t.created.map Creation.chatID
  · rw [beside.created] at created
    rw [same', same] at listening
    rw [beside.documents, ← atU.documents]
    exact all chatID created told listening
  · -- nothing is told or stored of a chat that was never created
    have unmade {data : Option Dictionary} (made : ∀ d, data = some d →
        Made t.created (fun _ _ => True) ⟨.chats, chatID⟩ d) : data = none := by
      cases data with
      | none => rfl
      | some d =>
        obtain ⟨m, hm, id, -⟩ := made d rfl
        exact absurd (List.mem_map.mpr ⟨m, hm, id⟩) created
    have holds := beside.origins.data
    exact (unmade ((holds.devices c).reported told listening chatID)).trans
      (unmade (holds.documents ⟨.chats, chatID⟩)).symm

omit [DecidableEq κ] in
theorem ActsOn.ofSystem {c : κ} {a : Action κ} (h : ActsOn c a) : OfSystem a := h.2.1

omit [DecidableEq κ] in
/-- What happens on one device does not disturb another. -/
theorem Beside.calm {s u : Cloud κ} {c c' : κ} (h : s.Beside c u) (other : c' ≠ c)
    (calm : s.Calm c') : u.Calm c' := by
  obtain ⟨load, told, shown⟩ := calm
  rw [← h.others c' other] at load told
  refine ⟨load, by rwa [h.documents], fun registration room data => ?_⟩
  rw [h.others c' other, h.documents]
  exact shown registration room data

/-- From every reachable state the system can go on, without any user, to a state where
nothing is under way and every device agrees with the server. -/
theorem converges [Fintype κ] {s : Cloud κ} {labels : List (Action κ)}
    (run : exec step init labels = some s) :
    ∃ t, Reaches step OfSystem s t ∧ t.created = s.created ∧ t.load = 0 ∧ ∀ c, t.Calm c := by
  -- first all deliveries
  obtain ⟨u, delivered, origins, drained⟩ := exists_reaches_work_eq_zero step load
    (L := Delivery) (I := Provenance)
    (fun v origins loaded => by
      obtain ⟨a, t, delivers, taken⟩ := exists_delivery origins loaded
      exact ⟨a, t, delivers, taken, origins.step taken, load_lt_load taken delivers⟩)
    (Provenance.of_exec run)
  have settled (c : κ) : (u.devices c).pending = [] :=
    (Device.load_eq_zero_iff.mp (Finset.sum_eq_zero_iff.mp drained c (Finset.mem_univ c))).1
  -- then one device after the other
  obtain ⟨t, agreed, -, calm⟩ := exists_reaches_forall_mem step (L := OfSystem)
    (I := fun v => Provenance v ∧ ∀ c, (v.devices c).pending = []) (F := fun c v => v.Calm c)
    (fun c v ⟨origins, settled⟩ => by
      obtain ⟨t, reached, beside, calm⟩ := exists_calm origins (settled c)
      refine ⟨t, reached.mono fun _ => ActsOn.ofSystem, ⟨beside.origins, fun c' => ?_⟩, calm,
        fun c' before => ?_⟩
      · by_cases own : c' = c
        · rw [own, beside.pending]
        · rw [beside.others c' own, settled]
      · by_cases own : c' = c
        · rwa [own]
        · exact beside.calm own before)
    Finset.univ.toList ⟨origins, settled⟩
  have reached : Reaches step OfSystem s t :=
    (delivered.mono fun _ => Event.ofSystem_of_delivers).trans agreed
  have all (c : κ) : t.Calm c := calm c (Finset.mem_toList.mpr (Finset.mem_univ c))
  refine ⟨t, reached, ?_, Finset.sum_eq_zero fun c _ => (all c).load, all⟩
  exact reached.invariant (I := fun v => v.created = s.created)
    (fun _ _ _ same system taken => (created_of_system taken system).trans same) rfl

theorem converges_addition : ∃ s t, exec step init addition = some s ∧ s.load = 5 ∧
    Reaches step OfSystem s t ∧ t.load = 0 ∧ ∀ c, t.Calm c := by
  obtain ⟨s, run, loaded⟩ : ∃ s ∈ exec step init addition, s.load = 5 := by decide +kernel
  obtain ⟨t, reached, -, rest, calm⟩ := converges run
  exact ⟨s, t, run, loaded, reached, rest, calm⟩

end Cloud

end OnMap
