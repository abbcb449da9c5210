/-
# Rejected writes of addChat

`addChat` hands three writes to the SDK: the room document and twice the chats document.
The server decides on each for itself. The SDK takes a rejected write back, and tells the
chats listener if a document changes by that.

The entry that `addChat` appends is nobody's to take back: the listener echoes the chat as
a second entry, and a removed document takes out one entry only.
-/

import OnMap.Cloud.Cloud
import OnMap.Cloud.Listener

namespace OnMap

open Overlay Transition

/-- One device and the documents of the server. -/
structure Client where
  documents : Documents
  device : Device

namespace Client

/-- The server accepts or rejects the oldest write, or the chats listener is called. -/
inductive Event
  | decide (accepted : Bool)
  | runChange

/-- The SDK takes a write back; the listener is told of the chats document as it is now. -/
def reject (documents : Documents) (d : Device) (path : DocumentPath) : Device :=
  match path.collection with
  | .chats => d.raise documents path.documentID
  | .rooms => d

/-- The closures that `addDocument` calls with the server's reply print it, and set a
variable that nobody reads any more. -/
def step (s : Client) : Event → Option Client
  | .decide accepted =>
    match s.device.pending with
    | [] => none
    | w :: rest =>
      let d := { s.device with pending := rest }
      if accepted then some ⟨w.toWrite.apply s.documents, d⟩
      else some ⟨s.documents, reject s.documents d w.path⟩
  | .runChange => (s.device.step s.documents [] .runChange).map fun d => ⟨s.documents, d⟩

/-- What the server decided, in order. -/
def decisions (events : List Event) : List Bool :=
  events.filterMap fun
    | .decide accepted => some accepted
    | .runChange => none

variable {κ : Type} (m : Creation κ)

/-- The client calls `addChat`. -/
def addChat (s : Client) : Client :=
  { s with device := s.device.call s.documents (s.device.messenger.addChat m.name m.xCoordinate
      m.yCoordinate m.timeCreate m.roomID m.chatID).2 }

/-- A client with nothing under way. The name is new to the list; the identifiers are new
to the server and to the listener. -/
structure Ready (s : Client) : Prop where
  unused : s.device.messenger.chatIsExist m.name = false
  pending : s.device.pending = []
  changes : s.device.changes = []
  room : s.documents m.roomPath = none
  chat : s.documents m.chatPath = none
  untold : ∀ told ∈ s.device.reported, told m.chatID = none

/-- Every reply and every event has been processed. -/
def Complete (s : Client) : Prop := s.device.pending = [] ∧ s.device.changes = []

/-- Both documents are there, linked, and the name is in the list, or neither document is
and the list is what it was in `before`. -/
def AllOrNothing (before s : Client) : Prop :=
  ((s.documents m.roomPath).isSome = true ∧
      (∃ data ∈ s.documents m.chatPath, data "chatLink" = some (.string m.roomID)) ∧
      s.device.messenger.chatIsExist m.name = true) ∨
    s.documents m.roomPath = none ∧ s.documents m.chatPath = none ∧
      s.device.messenger.chatInformationArray = before.device.messenger.chatInformationArray

/-! ### What the decisions leave -/

/-- The writes that were accepted. -/
def accepted (decided : List Bool) : List (Write DocumentPath Dictionary) :=
  ((m.writes.zip decided).filter Prod.snd).map fun write => write.1.toWrite

/-- The chats document as the client sees it: the last write that was not rejected. -/
def shown : List Bool → Option ChatInfo
  | [_, create, set] =>
    if set then some m.corrected else if create then some m.placeholder else none
  | _ => some m.corrected

section Decisions

variable {m} {documents : Documents} {decided : List Bool}

theorem writes_map_toWrite (m : Creation κ) : m.writes.map DocumentWrite.toWrite =
    [⟨m.roomPath, some ChatRoom.empty.stored⟩, ⟨m.chatPath, some m.placeholder.stored⟩,
      ⟨m.chatPath, some m.corrected.stored⟩] := rfl

/-- The three documents paths of the writes are two. -/
theorem roomPath_ne_chatPath (m : Creation κ) : m.roomPath ≠ m.chatPath := nofun

/-- Undecided writes are seen like accepted ones. -/
theorem overlay_chatPath (chat : documents m.chatPath = none) (decided : List Bool)
    (short : decided.length ≤ 3) : overlay documents
      (accepted m decided ++ (m.writes.drop decided.length).map DocumentWrite.toWrite) m.chatPath =
        (shown m decided).map ChatInfo.stored := by
  have apart := roomPath_ne_chatPath m
  rw [List.map_drop, writes_map_toWrite]
  match decided, short with
  | [], _ => simp [accepted, overlay, Write.apply, shown]
  | [room], _ => cases room <;> simp [accepted, overlay, Write.apply, shown]
  | [room, create], _ =>
    cases room <;> cases create <;> simp [accepted, overlay, Write.apply, shown]
  | [room, create, set], _ =>
    cases room <;> cases create <;> cases set <;>
      simp [accepted, overlay, Write.apply, shown, Creation.writes, DocumentWrite.toWrite,
        DocumentWrite.path, DocumentWrite.data, apart.symm, chat] <;> rfl

/-- As long as the last write is not decided on, or if it is accepted, it is seen. -/
theorem shown_of_short (short : decided.length < 3) : shown m decided = some m.corrected ∧
    shown m (decided ++ [true]) = some m.corrected := by
  match decided, short with
  | [], _ | [_], _ | [_, _], _ => exact ⟨rfl, rfl⟩

theorem overlay_roomPath (room : documents m.roomPath = none) (created create set : Bool) :
    overlay documents (accepted m [created, create, set]) m.roomPath =
      if created then some ChatRoom.empty.stored else none := by
  have apart := roomPath_ne_chatPath m
  cases created <;> cases create <;> cases set <;>
    simp [accepted, overlay, Write.apply, Creation.writes, DocumentWrite.toWrite,
      DocumentWrite.path, DocumentWrite.data, apart, room] <;> rfl

/-- A write is left to decide on only if less than three have been. -/
theorem short_of_drop {w : DocumentWrite} {rest : List DocumentWrite}
    (next : m.writes.drop decided.length = w :: rest) : decided.length < 3 := by
  have left := congrArg List.length next
  rw [List.length_drop, List.length_cons] at left
  have three : m.writes.length = 3 := rfl
  omega

/-- The first write is that of the room. -/
theorem path_of_drop {w : DocumentWrite} {rest : List DocumentWrite}
    (next : m.writes.drop decided.length = w :: rest) :
    w.path = m.roomPath ∧ decided = [] ∨ w.path = m.chatPath := by
  match decided, short_of_drop next, next with
  | [], _, next =>
    obtain ⟨rfl, -⟩ := List.cons.inj next
    exact Or.inl ⟨rfl, rfl⟩
  | [room], _, next =>
    obtain ⟨rfl, -⟩ := List.cons.inj next
    exact Or.inr rfl
  | [room, create], _, next =>
    obtain ⟨rfl, -⟩ := List.cons.inj next
    exact Or.inr rfl

/-- One more decision. -/
theorem accepted_concat {w : DocumentWrite} {rest : List DocumentWrite}
    (next : m.writes.drop decided.length = w :: rest) (b : Bool) :
    accepted m (decided ++ [b]) = accepted m decided ++ if b then [w.toWrite] else [] := by
  match decided, short_of_drop next, next with
  | [], _, next =>
    obtain ⟨rfl, -⟩ := List.cons.inj next
    cases b <;> rfl
  | [room], _, next =>
    obtain ⟨rfl, -⟩ := List.cons.inj next
    cases room <;> cases b <;> rfl
  | [room, create], _, next =>
    obtain ⟨rfl, -⟩ := List.cons.inj next
    cases room <;> cases create <;> cases b <;> rfl

end Decisions

/-! ### What the listener is told -/

section Raise

variable {m} {documents : Documents} {d : Device} {before now : Option ChatInfo}

/-- The chats listener, if there is one, has been told this of the chats document. -/
def Told (m : Creation κ) (d : Device) (chat : Option ChatInfo) : Prop :=
  ∀ told ∈ d.reported, told m.chatID = chat.map ChatInfo.stored

theorem raise_told (told : Told m d before)
    (view : d.view documents m.chatPath = now.map ChatInfo.stored) :
    Told m (d.raise documents m.chatID) now ∧
      (d.raise documents m.chatID).changes = d.changes ++
        if d.reported.isSome then (Device.changeOf m.chatID (before.map ChatInfo.stored)
          (now.map ChatInfo.stored)).toList else [] := by
  have view : d.view documents ⟨.chats, m.chatID⟩ = now.map ChatInfo.stored := view
  cases listening : d.reported with
  | none =>
    rw [Device.raise_of_reported_none listening]
    refine ⟨fun reported known => ?_, (List.append_nil _).symm⟩
    rw [listening] at known
    cases known
  | some reported =>
    have old := told reported listening
    rcases Device.raise_of_reported_some listening with
      ⟨missing, gone, quiet⟩ | ⟨change, turns, loud⟩
    · rw [view] at gone
      rw [quiet, ← old, missing, gone]
      refine ⟨fun reported' known => ?_, (List.append_nil _).symm⟩
      obtain rfl := Option.some.inj (listening.symm.trans known)
      exact missing.trans gone.symm
    · rw [old, view] at turns
      rw [loud, turns]
      refine ⟨fun reported' known => ?_, rfl⟩
      obtain rfl := Option.some.inj known
      rw [Function.update_self, view]

end Raise

/-! ### A run -/

/-- What `addChat` leaves in the list once every change has been handled: the entry that it
appends, and the listener's echo, of which the removal of the document takes the first. -/
def entries (listening : Bool) (chat : Option ChatInfo) : List ChatInfo :=
  match listening, chat with
  | false, _ => [m.corrected]
  | true, some _ => [m.corrected, m.placeholder]
  | true, none => [m.placeholder]

/-- After so many decisions: the writes that are left, the documents, what the listener
has been told, and the list that the waiting changes lead to. -/
structure Stage (start : Client) (decided : List Bool) (s : Client) : Prop where
  pending : s.device.pending = m.writes.drop decided.length
  short : decided.length ≤ 3
  documents : s.documents = overlay start.documents (accepted m decided)
  told : Told m s.device (shown m decided)
  list : ∃ final, s.device.changes.foldlM FirestoreMessenger.handleChatsChange
    s.device.messenger = some final ∧ final.chatInformationArray =
      start.device.messenger.chatInformationArray ++
        entries m s.device.reported.isSome (shown m decided)

section Runs

variable {m} {start s t : Client} {decided : List Bool} {events : List Event}

/-- The call appends the entry, and the listener is told of the chat and then of its own
identifier. -/
theorem Ready.stage (ready : Ready m s) : Stage m s [] (s.addChat m) := by
  let messenger : FirestoreMessenger :=
    { s.device.messenger with chatInformationArray :=
        s.device.messenger.chatInformationArray ++ [m.corrected] }
  let added : Device := { s.device with messenger := messenger, pending := m.writes.take 2 }
  let set : Device := { added.raise s.documents m.chatID with pending := m.writes }
  have called : s.addChat m = ⟨s.documents, set.raise s.documents m.chatID⟩ := by
    have unused : ¬ s.device.messenger.chatIsExist m.name = true := by simp [ready.unused]
    rw [addChat, FirestoreMessenger.addChat, if_neg unused]
    simp only [Device.call, List.foldl_cons, List.foldl_nil, Device.perform, DocumentWrite.path,
      ready.pending, Device.raise_pending]
    rfl
  -- the listener is told of the document as it is after each of the two writes
  have first : added.view s.documents m.chatPath = (some m.placeholder).map ChatInfo.stored := by
    rw [Device.view, List.map_take, writes_map_toWrite]
    simp [overlay, Write.apply]
  have second : set.view s.documents m.chatPath = (some m.corrected).map ChatInfo.stored :=
    overlay_chatPath (m := m) ready.chat [] (Nat.zero_le _)
  have told : Told m added none := ready.untold
  obtain ⟨told, changes⟩ := raise_told told first
  obtain ⟨told, changes'⟩ := raise_told (d := set) told second
  rw [called]
  refine ⟨?_, Nat.zero_le _, rfl, told, ?_⟩
  · rw [Device.raise_pending]
    rfl
  · have listening : set.reported.isSome = s.device.reported.isSome :=
      Device.raise_reported_isSome ..
    have still : (set.raise s.documents m.chatID).reported.isSome = s.device.reported.isSome :=
      (Device.raise_reported_isSome ..).trans listening
    have kept : (set.raise s.documents m.chatID).messenger = messenger :=
      (Device.raise_messenger ..).trans (Device.raise_messenger ..)
    have queue : set.changes = s.device.changes ++ if s.device.reported.isSome then
        (Device.changeOf m.chatID none (some m.placeholder.stored)).toList else [] := changes
    change ∃ final, (set.raise s.documents m.chatID).changes.foldlM
      FirestoreMessenger.handleChatsChange (set.raise s.documents m.chatID).messenger = some final ∧
        final.chatInformationArray = s.device.messenger.chatInformationArray ++
          entries m (set.raise s.documents m.chatID).reported.isSome (some m.corrected)
    rw [still, kept, changes', listening, queue, ready.changes]
    cases s.device.reported.isSome with
    | false => exact ⟨messenger, rfl, rfl⟩
    | true => exact ⟨_, rfl, List.append_assoc ..⟩

/-- Handling a change brings the list nearer to what it leads to. -/
theorem Stage.runChange (h : Stage m start decided s) (taken : s.step .runChange = some t) :
    Stage m start decided t := by
  obtain ⟨d, ran, rfl⟩ := Option.map_eq_some_iff.mp taken
  rw [Device.step] at ran
  split at ran
  case h_1 => cases ran
  case h_2 change rest queue =>
    obtain ⟨messenger, handled, rfl⟩ := Option.map_eq_some_iff.mp ran
    obtain ⟨final, leads, list⟩ := h.list
    rw [queue, List.foldlM_cons, handled] at leads
    exact ⟨h.pending, h.short, h.documents, h.told, final, leads, list⟩

theorem Stage.accept (h : Stage m start decided s) {w : DocumentWrite}
    {rest : List DocumentWrite} (queue : s.device.pending = w :: rest) :
    Stage m start (decided ++ [true])
      ⟨w.toWrite.apply s.documents, { s.device with pending := rest }⟩ := by
  have next := h.pending.symm.trans queue
  have short := short_of_drop next
  obtain ⟨before, after⟩ := shown_of_short (m := m) short
  have told := h.told
  obtain ⟨final, leads, list⟩ := h.list
  rw [before] at told list
  refine ⟨?_, ?_, ?_, ?_, final, leads, ?_⟩
  · rw [List.length_append, List.length_singleton, ← List.tail_drop, next, List.tail_cons]
  · rw [List.length_append, List.length_singleton]
    omega
  · rw [accepted_concat next, h.documents, if_pos rfl, overlay_concat]
  · rw [after]
    exact told
  · rw [after]
    exact list

/-- Of the two entries, the removal of the document takes the first. -/
theorem Ready.removeNamed (ready : Ready m start) :
    FirestoreMessenger.removeNamed (some m.name)
        (start.device.messenger.chatInformationArray ++ [m.corrected, m.placeholder]) =
      start.device.messenger.chatInformationArray ++ [m.placeholder] := by
  have named : m.corrected.name = m.name := rfl
  rw [FirestoreMessenger.removeNamed_some]
  refine (FirestoreMessenger.first_of_name (fun other listed same => ?_) named).2
  have used := FirestoreMessenger.chatIsExist_iff.mpr ⟨other, listed, same⟩
  exact absurd (ready.unused.symm.trans used) nofun

/-- The listener hears that the document is another one, which it ignores, or that it is
gone. -/
theorem Ready.leads (ready : Ready m start) {changes : List DocumentChange}
    {messenger final : FirestoreMessenger} {listening : Bool} (now : Option ChatInfo)
    (leads : changes.foldlM FirestoreMessenger.handleChatsChange messenger = some final)
    (list : final.chatInformationArray = start.device.messenger.chatInformationArray ++
      entries m listening (some m.corrected)) :
    ∃ last, (changes ++ if listening then (Device.changeOf m.chatID
        (some m.corrected.stored) (now.map ChatInfo.stored)).toList else []).foldlM
          FirestoreMessenger.handleChatsChange messenger = some last ∧
      last.chatInformationArray = start.device.messenger.chatInformationArray ++
        entries m listening now := by
  cases listening with
  | false =>
    refine ⟨final, ?_, list⟩
    rw [if_neg nofun, List.append_nil, leads]
  | true =>
    rw [if_pos rfl, List.foldlM_append, leads]
    cases now with
    | some info => exact ⟨final, rfl, list⟩
    | none =>
      -- the change is `.removed`, which goes by the name
      refine ⟨_, rfl, ?_⟩
      rw [list]
      exact ready.removeNamed

theorem Stage.reject (ready : Ready m start) (h : Stage m start decided s) {w : DocumentWrite}
    {rest : List DocumentWrite} (queue : s.device.pending = w :: rest) :
    Stage m start (decided ++ [false])
      ⟨s.documents, Client.reject s.documents { s.device with pending := rest } w.path⟩ := by
  have next := h.pending.symm.trans queue
  have short := short_of_drop next
  have left : rest = m.writes.drop (decided ++ [false]).length := by
    rw [List.length_append, List.length_singleton, ← List.tail_drop, next, List.tail_cons]
  have length : (decided ++ [false]).length ≤ 3 := by
    rw [List.length_append, List.length_singleton]
    omega
  have documents : s.documents = overlay start.documents (accepted m (decided ++ [false])) := by
    rw [accepted_concat next, h.documents, if_neg nofun, List.append_nil]
  obtain ⟨before, -⟩ := shown_of_short (m := m) short
  have told := h.told
  obtain ⟨final, leads, list⟩ := h.list
  rw [before] at told list
  rcases path_of_drop next with room | chat
  · -- a room document is none of the chats listener's
    have taken : Client.reject s.documents { s.device with pending := rest } w.path =
        { s.device with pending := rest } := by
      rw [room.1]
      rfl
    have same : shown m (decided ++ [false]) = some m.corrected := by rw [room.2]; rfl
    rw [taken]
    refine ⟨left, length, documents, ?_, final, leads, ?_⟩
    · rw [same]
      exact told
    · rw [same]
      exact list
  · -- the listener is told what the writes that are left make of the document
    have view : ({ s.device with pending := rest } : Device).view s.documents m.chatPath =
        (shown m (decided ++ [false])).map ChatInfo.stored := by
      rw [Device.view, documents, ← overlay_append, left]
      exact overlay_chatPath ready.chat _ length
    have taken : Client.reject s.documents { s.device with pending := rest } w.path =
        ({ s.device with pending := rest } : Device).raise s.documents m.chatID := by
      rw [chat]
      rfl
    obtain ⟨now, changes⟩ := raise_told (d := { s.device with pending := rest }) told view
    rw [taken]
    refine ⟨?_, length, documents, now, ?_⟩
    · rw [Device.raise_pending]
      exact left
    · rw [changes, Device.raise_messenger, Device.raise_reported_isSome]
      exact ready.leads _ leads list

theorem Stage.exec (ready : Ready m start) (h : Stage m start decided s)
    (run : exec step s events = some t) : Stage m start (decided ++ decisions events) t := by
  induction events generalizing s decided with
  | nil =>
    obtain rfl := Option.some.inj run
    rwa [decisions, List.filterMap_nil, List.append_nil]
  | cons e rest ih =>
    obtain ⟨u, taken, later⟩ := exec_cons_eq_some.mp run
    cases e with
    | runChange => exact ih (h.runChange taken) later
    | decide b =>
      have first : decisions (.decide b :: rest) = b :: decisions rest := rfl
      rw [first, List.append_cons]
      rw [step] at taken
      split at taken
      case h_1 => cases taken
      case h_2 w left queue =>
        cases b with
        | true =>
          obtain rfl := Option.some.inj taken
          exact ih (h.accept queue) later
        | false =>
          obtain rfl := Option.some.inj taken
          exact ih (h.reject ready queue) later

/-- Once every change has been handled, the list holds what is left of the chat. -/
theorem Stage.list_eq (h : Stage m start decided s) (complete : s.Complete) :
    s.device.messenger.chatInformationArray = start.device.messenger.chatInformationArray ++
      entries m s.device.reported.isSome (shown m decided) := by
  obtain ⟨final, leads, list⟩ := h.list
  rw [complete.2] at leads
  obtain rfl := Option.some.inj leads
  exact list

end Runs

/-- Something of the chat is left in the list, whatever was rejected, and all of it has the
chat's name. -/
theorem exists_entry (listening : Bool) (chat : Option ChatInfo) :
    ∃ info ∈ entries m listening chat, info.name = m.name := by
  cases listening with
  | false => exact ⟨m.corrected, List.mem_cons_self, rfl⟩
  | true =>
    cases chat with
    | some info => exact ⟨m.corrected, List.mem_cons_self, rfl⟩
    | none => exact ⟨m.placeholder, List.mem_cons_self, rfl⟩

/-- The document is there if one of the two writes was accepted, and names the room. -/
theorem shown_eq_none_iff (room create set : Bool) :
    shown m [room, create, set] = none ↔ ¬ (create = true ∨ set = true) := by
  cases create <;> cases set <;> simp [shown]

theorem chatLink_of_shown {decided : List Bool} {info : ChatInfo}
    (seen : shown m decided = some info) :
    info.stored "chatLink" = some (.string m.roomID) := by
  have version : info = m.corrected ∨ info = m.placeholder := by
    rw [shown.eq_def] at seen
    split at seen
    · split at seen
      · exact Or.inl (Option.some.inj seen).symm
      · split at seen
        · exact Or.inr (Option.some.inj seen).symm
        · cases seen
    · exact Or.inl (Option.some.inj seen).symm
  rcases version with rfl | rfl <;> rfl

/-- `addChat` is all or nothing exactly if the server accepts the room document and one of
the two writes of the chats document. -/
theorem all_or_nothing_iff {m : Creation κ} {s t : Client} {events : List Event}
    (ready : Ready m s) (run : exec step (s.addChat m) events = some t) (complete : t.Complete) :
    ∃ room create set, decisions events = [room, create, set] ∧
      (AllOrNothing m s t ↔ room = true ∧ (create = true ∨ set = true)) := by
  have stage : Stage m s (decisions events) t := ready.stage.exec ready run
  obtain ⟨room, create, set, decided⟩ :
      ∃ room create set, decisions events = [room, create, set] := by
    have drained := stage.pending.symm.trans complete.1
    have enough := List.drop_eq_nil_iff.mp drained
    have three : m.writes.length = 3 := rfl
    exact List.length_eq_three.mp (by have := stage.short; omega)
  refine ⟨room, create, set, decided, ?_⟩
  rw [decided] at stage
  have rooms : t.documents m.roomPath = if room then some ChatRoom.empty.stored else none := by
    rw [stage.documents, overlay_roomPath ready.room]
  have chats : t.documents m.chatPath = (shown m [room, create, set]).map ChatInfo.stored := by
    have all := overlay_chatPath (m := m) ready.chat [room, create, set] (Nat.le_refl 3)
    rw [stage.documents, ← all]
    simp [Creation.writes]
  have list := stage.list_eq complete
  obtain ⟨entry, left, named⟩ :=
    exists_entry m t.device.reported.isSome (shown m [room, create, set])
  constructor
  · rintro (⟨there, ⟨data, here, -⟩, -⟩ | ⟨-, -, same⟩)
    · refine ⟨?_, ?_⟩
      · by_contra rejected
        rw [rooms, if_neg rejected] at there
        cases there
      · by_contra rejected
        rw [chats, (shown_eq_none_iff m room create set).mpr rejected] at here
        cases here
    · -- the entry stays although both documents are gone
      rw [same] at list
      have none := List.self_eq_append_right.mp list
      rw [none] at left
      cases left
  · rintro ⟨rfl, kept⟩
    refine Or.inl ⟨by rw [rooms]; rfl, ?_, ?_⟩
    · cases seen : shown m [true, create, set] with
      | none => exact absurd kept ((shown_eq_none_iff m true create set).mp seen)
      | some info =>
        rw [seen] at chats
        exact ⟨info.stored, chats, chatLink_of_shown m seen⟩
    · refine FirestoreMessenger.chatIsExist_iff.mpr ⟨entry, ?_, named⟩
      rw [list]
      exact List.mem_append_right _ left

/-- A client that listens to the chats, before its first chat. -/
def listener : Client where
  documents := fun _ => none
  device := { reported := some fun _ => none }

/-- The first chat of the first user. -/
def firstChat : Creation Unit := ⟨(), "дом", ⟨0⟩, ⟨0⟩, 0, "r1", "c1"⟩

theorem ready_listener : Ready firstChat listener where
  unused := rfl
  pending := rfl
  changes := rfl
  room := rfl
  chat := rfl
  untold told known := by
    obtain rfl := Option.some.inj known
    rfl

/-- All three writes are rejected, and then the listener handles its four changes. -/
def allRejected : List Event :=
  List.replicate 3 (.decide false) ++ List.replicate 4 .runChange

/-- All three writes are accepted. -/
def allAccepted : List Event :=
  List.replicate 3 (.decide true) ++ List.replicate 2 .runChange

theorem all_or_nothing_allAccepted : ∃ t, exec step (listener.addChat firstChat) allAccepted =
    some t ∧ AllOrNothing firstChat listener t := by
  obtain ⟨t, run, complete⟩ : ∃ t, exec step (listener.addChat firstChat) allAccepted = some t ∧
      t.Complete := ⟨_, rfl, rfl, rfl⟩
  obtain ⟨room, create, set, decided, all⟩ := all_or_nothing_iff ready_listener run complete
  refine ⟨t, run, all.mpr ?_⟩
  obtain ⟨rfl, rfl, rfl⟩ : true = room ∧ true = create ∧ true = set := by
    simpa [allAccepted, decisions] using decided
  decide

/-- The echo stays in the list, so the name cannot be used again. -/
theorem not_all_or_nothing_allRejected : ∃ t, exec step (listener.addChat firstChat) allRejected =
    some t ∧ t.Complete ∧ ¬ AllOrNothing firstChat listener t := by
  refine ⟨_, rfl, ⟨rfl, rfl⟩, ?_⟩
  rintro (⟨there, -⟩ | ⟨-, -, same⟩)
  · cases there
  · cases same

end Client

end OnMap
