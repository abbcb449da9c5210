/-
# Chats and their rooms

The chat document and the room document of one chat are kept in step by separate
writes: `addChat` creates the room before the chat, `deleteChat` deletes the chat
before the room, messages replace the room. For one created chat, the writes under
way on a device are therefore what is left of `addChat`, then messages and pairs of
deletions; the first pair may be half applied.
-/

import OnMap.Cloud.Provenance
import Mathlib.Data.Fintype.Defs

namespace OnMap

open Overlay Transition

variable {κ : Type}

namespace Creation

variable {m m' : Creation κ}

/-- The writes of a queue to the chat's document or its room. -/
def writesIn (m : Creation κ) (queue : List DocumentWrite) : List DocumentWrite :=
  queue.filter fun w => w.path = m.chatPath ∨ w.path = m.roomPath

@[simp] theorem writesIn_nil (m : Creation κ) : m.writesIn [] = [] := rfl

theorem writesIn_append (m : Creation κ) (first second : List DocumentWrite) :
    m.writesIn (first ++ second) = m.writesIn first ++ m.writesIn second :=
  List.filter_append ..

theorem writesIn_cons_of_touches {w : DocumentWrite} (queue : List DocumentWrite)
    (touches : w.path = m.chatPath ∨ w.path = m.roomPath) :
    m.writesIn (w :: queue) = w :: m.writesIn queue :=
  List.filter_cons_of_pos (by simpa using touches)

theorem writesIn_cons_of_not {w : DocumentWrite} (queue : List DocumentWrite)
    (apart : ¬ (w.path = m.chatPath ∨ w.path = m.roomPath)) :
    m.writesIn (w :: queue) = m.writesIn queue :=
  List.filter_cons_of_neg (by simpa using apart)

theorem writesIn_eq_nil {queue : List DocumentWrite}
    (apart : ∀ w ∈ queue, w.path ≠ m.chatPath ∧ w.path ≠ m.roomPath) : m.writesIn queue = [] :=
  List.filter_eq_nil_iff.mpr fun w hw => by simp [apart w hw]

/-- A message to the chat's room. -/
def IsSend (m : Creation κ) (w : DocumentWrite) : Prop :=
  ∃ room : ChatRoom, w = .setData m.roomPath room.dictonary

/-- What may follow the creation of a chat in a queue: messages, and deletions of the
chat and its room in pairs. -/
inductive Follows (m : Creation κ) : List DocumentWrite → Prop
  | nil : Follows m []
  | send {w : DocumentWrite} {later : List DocumentWrite} (send : m.IsSend w)
      (rest : Follows m later) : Follows m (w :: later)
  | delete {later : List DocumentWrite} (rest : Follows m later) :
      Follows m (.delete m.chatPath :: .delete m.roomPath :: later)

theorem Follows.append {first second : List DocumentWrite} (h : m.Follows first)
    (h' : m.Follows second) : m.Follows (first ++ second) := by
  induction h with
  | nil => exact h'
  | send send _ ih => exact .send send ih
  | delete _ ih => exact .delete ih

theorem follows_of_sends {queue : List DocumentWrite} (sends : ∀ w ∈ queue, m.IsSend w) :
    m.Follows queue := by
  induction queue with
  | nil => exact .nil
  | cons w rest ih =>
    exact .send (sends w List.mem_cons_self) (ih fun v hv => sends v (List.mem_cons_of_mem _ hv))

/-- The first of these writes is a message, or the deletion of the chat, after which
that of the room is next. -/
theorem Follows.of_cons {w : DocumentWrite} {rest : List DocumentWrite}
    (h : m.Follows (w :: rest)) :
    m.IsSend w ∧ m.Follows rest ∨
      w = .delete m.chatPath ∧ ∃ later, m.Follows later ∧ rest = .delete m.roomPath :: later := by
  cases h with
  | send sends later => exact Or.inl ⟨sends, later⟩
  | delete later => exact Or.inr ⟨rfl, _, later, rfl⟩

end Creation

/-- The first `n` of the chat's three writes have been applied. Other devices can
only have sent to the room. -/
structure Creating (m : Creation κ) (n : ℕ) (s : Cloud κ) : Prop where
  unfinished : n < 3
  own : ∃ later, m.Follows later ∧
    m.writesIn (s.devices m.client).pending = m.writes.drop n ++ later
  others : ∀ c, c ≠ m.client → ∀ w ∈ m.writesIn (s.devices c).pending, m.IsSend w
  room : 0 < n → (s.documents m.roomPath).isSome = true

/-- The deletion of the room is next on the device, as that of the chat has been
applied. -/
def HalfDeleted (m : Creation κ) (s : Cloud κ) (c : κ) : Prop :=
  ∃ later, m.Follows later ∧ m.writesIn (s.devices c).pending = .delete m.roomPath :: later

/-- The chat has been created: chat and room exist together, unless the room is still
to be deleted. -/
structure Linked (m : Creation κ) (s : Cloud κ) : Prop where
  queue : ∀ c, m.Follows (m.writesIn (s.devices c).pending) ∨
    s.documents m.chatPath = none ∧ HalfDeleted m s c
  room : (s.documents m.chatPath).isSome = true → (s.documents m.roomPath).isSome = true
  gone : s.documents m.chatPath = none → s.documents m.roomPath = none ∨ ∃ c, HalfDeleted m s c

/-- Finished versions are known to the chat's creator only, until the chat has been
created. -/
def announced (s : Cloud κ) : ChatProperty κ where
  served m info := info = m.corrected → Linked m s
  issued c m _ := m.client = c
  held c m info := info = m.corrected → m.client = c ∨ Linked m s

theorem announced_coherent (s : Cloud κ) : (announced s).Coherent where
  held_of_served _ _ _ served finished := Or.inr (served finished)
  held_of_issued _ _ _ own _ := Or.inl own

namespace Cloud

/-- The chat that `deleteChat` finds has the identifier of its document, and a message
is applied only while its room exists. -/
def KeepsReferences (s : Cloud κ) (a : Action κ) : Prop :=
  match a.event with
  | .deleteChat name => ∀ info ∈ (s.devices a.client).messenger.chatInformationArray.find?
      (fun info => info.name == name), info.firebaseID ≠ FirestoreMessenger.placeholderID
  | .applyWrite =>
    match (s.devices a.client).pending with
    | .setData ⟨.rooms, id⟩ _ :: _ => (s.documents ⟨.rooms, id⟩).isSome = true
    | _ => True
  | _ => True

instance (s : Cloud κ) (a : Action κ) : Decidable (s.KeepsReferences a) := by
  obtain ⟨c, event⟩ := a
  unfold KeepsReferences
  rcases event
  case applyWrite =>
    obtain _ | ⟨_ | ⟨⟨_ | _, _⟩, _⟩ | _, _⟩ := (s.devices c).pending <;> infer_instance
  all_goals infer_instance

end Cloud

section Step

variable [DecidableEq κ] {s t : Cloud κ} {a : Action κ} {m : Creation κ}

/-- For one created chat, an event writes messages to its room, or deletes it as a
whole. -/
theorem writesIn_issues (origins : Provenance s) (known : (announced s).Holds s)
    (guard : s.KeepsReferences a) (hm : m ∈ s.created) (hstep : s.step a = some t) :
    (∀ w ∈ m.writesIn ((s.devices a.client).issues a.event), m.IsSend w) ∨
      m.writesIn ((s.devices a.client).issues a.event) =
          [.delete m.chatPath, .delete m.roomPath] ∧
        (m.client = a.client ∨ Linked m s) := by
  rcases s.issues_cases a with none | ⟨m', creates, writes⟩ |
    ⟨name, info, event, found, writes⟩ | ⟨_, _, _, id, event, opened, room, writes⟩
  · left
    simp [none]
  · -- a new chat has documents of its own
    left
    obtain ⟨chat, room⟩ := (creates.fresh hstep).1 m hm
    have apart : m.writesIn m'.writes = [] := by
      refine Creation.writesIn_eq_nil fun w hw => ?_
      simp only [Creation.writes, List.mem_cons, List.not_mem_nil, or_false] at hw
      rcases hw with rfl | rfl | rfl <;>
        simp [DocumentWrite.path, Creation.chatPath, Creation.roomPath, chat.symm, room.symm]
    simp [writes, apart]
  · obtain ⟨m', hm', version, held⟩ :=
      (known.devices a.client).entries info (List.mem_of_find?_eq_some found)
    -- by the condition the entry is a finished one, so it names the document of its own chat
    have finished : info = m'.corrected := by
      refine version.eq_corrected ?_
      simp only [Cloud.KeepsReferences, event] at guard
      exact guard info found
    rw [writes, finished]
    by_cases same : m' = m
    · subst same
      right
      exact ⟨by simp [Creation.writesIn, Creation.chatPath, Creation.roomPath, DocumentWrite.path],
        held finished⟩
    · left
      have chat : m'.chatID ≠ m.chatID := fun eq => same (origins.eq_of_chatID hm' hm eq)
      have room : m'.roomID ≠ m.roomID := fun eq => same (origins.eq_of_roomID hm' hm eq)
      rw [Creation.writesIn_eq_nil]
      · simp
      · intro w hw
        rcases (by simpa using hw : w = .delete _ ∨ w = .delete _) with rfl | rfl <;>
          simp [DocumentWrite.path, Creation.chatPath, Creation.roomPath, chat, room]
  · left
    rw [writes]
    intro w hw
    obtain ⟨hw, touches⟩ := List.mem_filter.mp hw
    obtain rfl := List.mem_singleton.mp hw
    have here : id = m.roomID := by
      simpa [DocumentWrite.path, Creation.chatPath, Creation.roomPath] using touches
    exact ⟨room, by rw [here]; rfl⟩

/-- What an event means for one created chat: writes are added on the acting device,
or the server takes one of them. -/
inductive Affects (m : Creation κ) (s t : Cloud κ) (a : Action κ) : Prop
  | writes (extra : List DocumentWrite)
      (kind : (∀ w ∈ extra, m.IsSend w) ∨
        extra = [.delete m.chatPath, .delete m.roomPath] ∧ (m.client = a.client ∨ Linked m s))
      (queue : m.writesIn (t.devices a.client).pending =
        m.writesIn (s.devices a.client).pending ++ extra)
      (chat : t.documents m.chatPath = s.documents m.chatPath)
      (room : t.documents m.roomPath = s.documents m.roomPath)
  | applies (w : DocumentWrite)
      (queue : m.writesIn (s.devices a.client).pending =
        w :: m.writesIn (t.devices a.client).pending)
      (documents : t.documents = w.toWrite.apply s.documents)
      (to_room : m.IsSend w → (s.documents m.roomPath).isSome = true)

theorem affects (origins : Provenance s) (known : (announced s).Holds s)
    (guard : s.KeepsReferences a) (hm : m ∈ s.created) (hstep : s.step a = some t) :
    Affects m s t a := by
  rcases Cloud.step_documents_cases hstep with
    ⟨unapplied, same⟩ | ⟨w, rest, event, queue, written, left⟩
  · refine .writes _ (writesIn_issues origins known guard hm hstep) ?_ (by rw [same]) (by rw [same])
    rw [Device.step_pending (Cloud.step_device hstep) unapplied, Creation.writesIn_append]
  · by_cases touches : w.path = m.chatPath ∨ w.path = m.roomPath
    · refine .applies w ?_ written ?_
      · rw [queue, left, Creation.writesIn_cons_of_touches rest touches]
      · rintro ⟨room, rfl⟩
        simp only [Cloud.KeepsReferences, event, queue] at guard
        exact guard
    · -- a write to other documents
      refine .writes [] (Or.inl (by simp)) ?_ ?_ ?_
      · rw [queue, left, Creation.writesIn_cons_of_not rest touches, List.append_nil]
      · rw [written]
        exact Write.apply_of_ne (fun here => touches (Or.inl here)) _
      · rw [written]
        exact Write.apply_of_ne (fun here => touches (Or.inr here)) _

end Step

section Stages

variable {s t : Cloud κ} {a : Action κ} {m : Creation κ}

/-- A half applied deletion stays half applied while only later writes join it. -/
theorem HalfDeleted.append {c : κ} (h : HalfDeleted m s c) {extra : List DocumentWrite}
    (follows : m.Follows extra)
    (queue : m.writesIn (t.devices c).pending = m.writesIn (s.devices c).pending ++ extra) :
    HalfDeleted m t c := by
  obtain ⟨later, rest, half⟩ := h
  exact ⟨later ++ extra, rest.append follows, by rw [queue, half]; rfl⟩

theorem HalfDeleted.congr {c : κ} (h : HalfDeleted m s c) (same : t.devices c = s.devices c) :
    HalfDeleted m t c := by
  rwa [HalfDeleted, same]

/-- Writes that join the queue keep a created chat linked. -/
theorem Linked.join (h : Linked m s) {extra : List DocumentWrite} (follows : m.Follows extra)
    (queue : m.writesIn (t.devices a.client).pending =
      m.writesIn (s.devices a.client).pending ++ extra)
    (chat : t.documents m.chatPath = s.documents m.chatPath)
    (room : t.documents m.roomPath = s.documents m.roomPath)
    (others : ∀ c, c ≠ a.client → t.devices c = s.devices c) : Linked m t := by
  have kept (c : κ) (half : HalfDeleted m s c) : HalfDeleted m t c := by
    by_cases acting : c = a.client
    · subst acting
      exact half.append follows queue
    · exact half.congr (others c acting)
  refine ⟨fun c => ?_, ?_, ?_⟩
  · rw [chat]
    refine (h.queue c).imp (fun later => ?_) fun ⟨gone, half⟩ => ⟨gone, kept c half⟩
    by_cases acting : c = a.client
    · subst acting
      rw [queue]
      exact later.append follows
    · rwa [others c acting]
  · rw [chat, room]
    exact h.room
  · rw [chat, room]
    exact fun gone => (h.gone gone).imp_right fun ⟨c, half⟩ => ⟨c, kept c half⟩

/-- Another device's queue is as good as before, unless the chat comes back. -/
theorem Linked.queue_of_ne (h : Linked m s) {c : κ} (same : t.devices c = s.devices c)
    (chat : s.documents m.chatPath = none → t.documents m.chatPath = none) :
    m.Follows (m.writesIn (t.devices c).pending) ∨
      t.documents m.chatPath = none ∧ HalfDeleted m t c := by
  rw [same]
  exact (h.queue c).imp_right fun ⟨gone, half⟩ => ⟨chat gone, half.congr same⟩

/-- The server takes a message while the room exists. -/
theorem Linked.apply_send (h : Linked m s) {content : ChatRoom}
    (queue : m.writesIn (s.devices a.client).pending =
      .setData m.roomPath content.dictonary :: m.writesIn (t.devices a.client).pending)
    (rest : m.Follows (m.writesIn (t.devices a.client).pending))
    (documents : t.documents =
      (DocumentWrite.setData m.roomPath content.dictonary).toWrite.apply s.documents)
    (present : (s.documents m.roomPath).isSome = true)
    (others : ∀ c, c ≠ a.client → t.devices c = s.devices c) : Linked m t := by
  have chat : t.documents m.chatPath = s.documents m.chatPath := by
    rw [documents]
    exact Write.apply_of_ne (m.roomPath_ne_chatPath m) _
  have room : t.documents m.roomPath = some content.stored := by
    rw [documents]
    exact (DocumentWrite.setData m.roomPath _).toWrite.apply_key _
  refine ⟨fun c => ?_, fun _ => by rw [room]; rfl, fun gone => ?_⟩
  · by_cases acting : c = a.client
    · subst acting
      exact Or.inl rest
    · exact h.queue_of_ne (others c acting) chat.trans
  · -- the room exists, so another device still has to delete it
    rcases h.gone (chat.symm.trans gone) with missing | ⟨c, half⟩
    · rw [missing] at present
      cases present
    · refine Or.inr ⟨c, half.congr (others c ?_)⟩
      rintro rfl
      obtain ⟨_, -, head⟩ := half
      cases queue.symm.trans head

/-- The server takes the deletion of the chat; that of the room is next. -/
theorem Linked.apply_chat (h : Linked m s) (half : HalfDeleted m t a.client)
    (documents : t.documents = (DocumentWrite.delete m.chatPath).toWrite.apply s.documents)
    (others : ∀ c, c ≠ a.client → t.devices c = s.devices c) : Linked m t := by
  have chat : t.documents m.chatPath = none := by
    rw [documents]
    exact (DocumentWrite.delete m.chatPath).toWrite.apply_key _
  refine ⟨fun c => ?_, fun present => ?_, fun _ => Or.inr ⟨a.client, half⟩⟩
  · by_cases acting : c = a.client
    · subst acting
      exact Or.inr ⟨chat, half⟩
    · exact h.queue_of_ne (others c acting) fun _ => chat
  · rw [chat] at present
    cases present

/-- The server takes the deletion of the room, after that of the chat. -/
theorem Linked.apply_room (h : Linked m s) (gone : s.documents m.chatPath = none)
    (rest : m.Follows (m.writesIn (t.devices a.client).pending))
    (documents : t.documents = (DocumentWrite.delete m.roomPath).toWrite.apply s.documents)
    (others : ∀ c, c ≠ a.client → t.devices c = s.devices c) : Linked m t := by
  have chat : t.documents m.chatPath = none := by
    rw [documents, ← gone]
    exact Write.apply_of_ne (m.roomPath_ne_chatPath m) _
  have room : t.documents m.roomPath = none := by
    rw [documents]
    exact (DocumentWrite.delete m.roomPath).toWrite.apply_key _
  refine ⟨fun c => ?_, fun present => ?_, fun _ => Or.inl room⟩
  · by_cases acting : c = a.client
    · subst acting
      exact Or.inl rest
    · exact h.queue_of_ne (others c acting) fun _ => chat
  · rw [chat] at present
    cases present

/-- Writes that the server takes keep a created chat linked. -/
theorem Linked.apply (h : Linked m s) {w : DocumentWrite}
    (queue : m.writesIn (s.devices a.client).pending =
      w :: m.writesIn (t.devices a.client).pending)
    (documents : t.documents = w.toWrite.apply s.documents)
    (to_room : m.IsSend w → (s.documents m.roomPath).isSome = true)
    (others : ∀ c, c ≠ a.client → t.devices c = s.devices c) : Linked m t := by
  rcases h.queue a.client with later | ⟨gone, later, rest, half⟩
  · -- the first write is a message, or starts a pair of deletions
    rw [queue] at later
    rcases later.of_cons with ⟨⟨content, rfl⟩, rest⟩ | ⟨rfl, half⟩
    · exact h.apply_send queue rest documents (to_room ⟨content, rfl⟩) others
    · exact h.apply_chat half documents others
  · -- the first write ends a pair
    obtain ⟨rfl, left⟩ := List.cons.inj (queue.symm.trans half)
    exact h.apply_room gone (left ▸ rest) documents others

/-- A created chat stays linked. -/
theorem Linked.step (h : Linked m s) (effect : Affects m s t a)
    (others : ∀ c, c ≠ a.client → t.devices c = s.devices c) : Linked m t := by
  cases effect with
  | writes extra kind queue chat room =>
    refine h.join ?_ queue chat room others
    rcases kind with sends | ⟨rfl, -⟩
    · exact Creation.follows_of_sends sends
    · exact .delete .nil
  | applies w queue documents to_room => exact h.apply queue documents to_room others

/-- A chat is not linked while one of its three writes is under way. -/
theorem Creating.not_linked {n : ℕ} (h : Creating m n s) : ¬ Linked m s := by
  intro linked
  obtain ⟨later, -, own⟩ := h.own
  have bound := h.unfinished
  have first : ∃ w rest, m.writesIn (s.devices m.client).pending = w :: rest ∧ ¬ m.IsSend w ∧
      ∀ path, w ≠ .delete path := by
    obtain rfl | rfl | rfl : n = 0 ∨ n = 1 ∨ n = 2 := by omega
    · exact ⟨_, _, own, (fun ⟨_, send⟩ => nomatch send), nofun⟩
    · exact ⟨_, _, own, (fun ⟨_, send⟩ => nomatch send), nofun⟩
    · refine ⟨_, _, own, fun ⟨_, send⟩ => ?_, nofun⟩
      exact m.roomPath_ne_chatPath m (DocumentWrite.setData.inj send).1.symm
  obtain ⟨w, rest, queue, unsent, undeleted⟩ := first
  rcases linked.queue m.client with later | ⟨-, _, -, half⟩
  · rw [queue] at later
    rcases later.of_cons with ⟨send, -⟩ | ⟨delete, -⟩
    · exact unsent send
    · exact undeleted _ delete
  · exact undeleted _ (List.cons.inj (queue.symm.trans half)).1

/-- The server takes one of the chat's own writes: the next of the three. -/
theorem Creating.advance {n : ℕ} (h : Creating m n s) (own : a.client = m.client)
    {w : DocumentWrite} (queue : m.writesIn (s.devices a.client).pending =
      w :: m.writesIn (t.devices a.client).pending)
    (documents : t.documents = w.toWrite.apply s.documents)
    (others : ∀ c, c ≠ a.client → t.devices c = s.devices c) :
    m.writes[n]? = some w ∧ (Creating m (n + 1) t ∨ n = 2 ∧ Linked m t) := by
  obtain ⟨later, follows, pending⟩ := h.own
  rw [own] at queue others
  have sends (c : κ) (other : c ≠ m.client) : ∀ w ∈ m.writesIn (t.devices c).pending,
      m.IsSend w := by
    rw [others c other]
    exact h.others c other
  have next := pending.symm.trans queue
  have bound := h.unfinished
  obtain rfl | rfl | rfl : n = 0 ∨ n = 1 ∨ n = 2 := by omega
  · -- the room is added
    obtain ⟨rfl, left⟩ := List.cons.inj next
    refine ⟨rfl, Or.inl ⟨by omega, ⟨later, follows, left.symm⟩, sends, fun _ => ?_⟩⟩
    rw [documents]
    exact congrArg Option.isSome ((DocumentWrite.addDocument m.roomPath _).toWrite.apply_key _)
  · -- the chat is added, with the placeholder
    obtain ⟨rfl, left⟩ := List.cons.inj next
    refine ⟨rfl, Or.inl ⟨by omega, ⟨later, follows, left.symm⟩, sends, fun _ => ?_⟩⟩
    rw [documents, Write.apply_of_ne (m.roomPath_ne_chatPath m).symm]
    exact h.room (by omega)
  · -- the identifier is corrected, and the chat is created
    obtain ⟨rfl, left⟩ := List.cons.inj next
    have chat : t.documents m.chatPath = some m.corrected.stored := by
      rw [documents]
      exact (DocumentWrite.setData m.chatPath _).toWrite.apply_key _
    refine ⟨rfl, Or.inr ⟨rfl, fun c => Or.inl ?_, fun _ => ?_, fun gone => ?_⟩⟩
    · by_cases creator : c = m.client
      · rw [creator, ← left]
        exact follows
      · exact Creation.follows_of_sends (sends c creator)
    · rw [documents, Write.apply_of_ne (m.roomPath_ne_chatPath m).symm]
      exact h.room (by omega)
    · rw [chat] at gone
      cases gone

/-- A chat under creation stays so or gets linked. -/
theorem Creating.step {n : ℕ} (h : Creating m n s) (effect : Affects m s t a)
    (others : ∀ c, c ≠ a.client → t.devices c = s.devices c) :
    (∃ n, Creating m n t) ∨ Linked m t := by
  cases effect with
  | writes extra kind queue chat room =>
    refine Or.inl ⟨n, h.unfinished, ?_, fun c other => ?_, fun some => ?_⟩
    · obtain ⟨later, follows, pending⟩ := h.own
      by_cases own : m.client = a.client
      · refine ⟨later ++ extra, follows.append ?_, ?_⟩
        · rcases kind with sends | ⟨rfl, -⟩
          · exact Creation.follows_of_sends sends
          · exact .delete .nil
        · rw [own, queue, ← own, pending, List.append_assoc]
      · rw [others m.client own]
        exact ⟨later, follows, pending⟩
    · by_cases acting : c = a.client
      · subst acting
        rw [queue]
        intro w hw
        rcases List.mem_append.mp hw with old | new
        · exact h.others a.client other w old
        · -- nobody else can delete a chat that is not finished
          rcases kind with sends | ⟨-, own | linked⟩
          · exact sends w new
          · exact absurd own.symm other
          · exact absurd linked h.not_linked
      · rw [others c acting]
        exact h.others c other
    · rw [room]
      exact h.room some
  | applies w queue documents to_room =>
    by_cases own : a.client = m.client
    · rcases (h.advance own queue documents others).2 with next | ⟨-, linked⟩
      · exact Or.inl ⟨_, next⟩
      · exact Or.inr linked
    · -- another device's write can only be a message
      obtain ⟨room, rfl⟩ := h.others a.client own w (queue ▸ List.mem_cons_self)
      refine Or.inl ⟨n, h.unfinished, ?_, fun c other => ?_, fun _ => ?_⟩
      · rw [others m.client (Ne.symm own)]
        exact h.own
      · by_cases acting : c = a.client
        · subst acting
          exact fun w hw => h.others a.client other w (queue ▸ List.mem_cons_of_mem _ hw)
        · rw [others c acting]
          exact h.others c other
      · rw [documents]
        exact congrArg Option.isSome ((DocumentWrite.setData m.roomPath _).toWrite.apply_key _)

end Stages

/-- Every created chat is under creation or linked. -/
structure Referenced (s : Cloud κ) : Prop where
  origins : Provenance s
  known : (announced s).Holds s
  stages : ∀ m ∈ s.created, (∃ n, Creating m n s) ∨ Linked m s

namespace Referenced

theorem init : Referenced (Cloud.init : Cloud κ) where
  origins := .init
  known := ChatProperty.holds_init _
  stages _ hm := by cases hm

section Step

variable [DecidableEq κ] {s t : Cloud κ} {a : Action κ} {m : Creation κ}

theorem linked_step (h : Referenced s) (guard : s.KeepsReferences a) (hm : m ∈ s.created)
    (hstep : s.step a = some t) (linked : Linked m s) : Linked m t :=
  linked.step (affects h.origins h.known guard hm hstep) fun _ => Cloud.step_devices_of_ne hstep

/-- When the server takes the finished version, the chat is linked. -/
theorem linked_of_applied (h : Referenced s) (guard : s.KeepsReferences a) (hm : m ∈ s.created)
    (hstep : s.step a = some t) (event : a.event = .applyWrite) (own : m.client = a.client)
    {w : DocumentWrite} {rest : List DocumentWrite}
    (pending : (s.devices a.client).pending = w :: rest) (path : w.path = m.chatPath)
    (data : w.data = some m.corrected.stored) : Linked m t := by
  rcases h.stages m hm with ⟨n, creating⟩ | linked
  · rcases Cloud.step_documents_cases hstep with
      ⟨unapplied, -⟩ | ⟨w', rest', -, queue, written, left⟩
    · exact absurd event unapplied
    obtain ⟨rfl, rfl⟩ := List.cons.inj (pending.symm.trans queue)
    have first : m.writesIn (s.devices a.client).pending =
        w :: m.writesIn (t.devices a.client).pending := by
      rw [pending, left, Creation.writesIn_cons_of_touches rest (Or.inl path)]
    obtain ⟨next, after⟩ := creating.advance own.symm first written fun _ =>
      Cloud.step_devices_of_ne hstep
    rcases after with creating' | ⟨-, linked⟩
    · -- the first two writes are of the room and of the version with the placeholder
      have bound := creating'.unfinished
      obtain rfl | rfl : n = 0 ∨ n = 1 := by omega
      · obtain rfl := Option.some.inj next
        exact absurd path (m.roomPath_ne_chatPath m)
      · obtain rfl := Option.some.inj next
        have same := ChatInfo.stored_injective (Option.some.inj data)
        exact absurd (congrArg ChatInfo.firebaseID same).symm (h.origins.proper m hm)
    · exact linked
  · exact h.linked_step guard hm hstep linked

theorem known_step (h : Referenced s) (guard : s.KeepsReferences a) (hstep : s.step a = some t) :
    (announced t).Holds t := by
  refine h.known.step (announced_coherent t) h.origins.opened hstep
    { served := fun m hm info served finished =>
        h.linked_step guard hm hstep (served finished)
      issued := fun _ _ _ _ => id
      held := fun c m hm info held finished =>
        (held finished).imp_right (h.linked_step guard hm hstep)
      creates := fun m creates => ⟨creates.client, creates.client⟩
      applied := ?_ }
  rintro w rest event pending m hm path info data own rfl
  exact h.linked_of_applied guard hm hstep event own pending path data

/-- A new chat has nothing under way before. -/
theorem writesIn_of_creates (origins : Provenance s) (creates : s.Creates a m)
    (hstep : s.step a = some t) (c : κ) : m.writesIn (s.devices c).pending = [] := by
  obtain ⟨fresh, proper⟩ := creates.fresh hstep
  refine Creation.writesIn_eq_nil fun w hw => ?_
  -- what is under way belongs to chats created before
  suffices others : ∃ m' ∈ s.created, w.path = m'.chatPath ∨ w.path = m'.roomPath ∨
      w.path = ⟨.chats, FirestoreMessenger.placeholderID⟩ by
    obtain ⟨m', hm', path | path | path⟩ := others <;>
      simp [path, Creation.chatPath, Creation.roomPath, fresh m' hm', proper.symm]
  cases hdata : w.data with
  | none =>
    cases w with
    | delete path => exact origins.deletes c path hw
    | addDocument | setData => cases hdata
  | some data =>
    have made := (origins.data.devices c).pending w hw data hdata
    obtain ⟨⟨collection, id⟩, path⟩ : ∃ path, w.path = path := ⟨_, rfl⟩
    rw [path] at made ⊢
    cases collection with
    | chats =>
      obtain ⟨m', hm', rfl, -⟩ := made
      exact ⟨m', hm', Or.inl rfl⟩
    | rooms =>
      obtain ⟨m', hm', rfl⟩ := made
      exact ⟨m', hm', Or.inr (Or.inl rfl)⟩

theorem creating_of_creates (origins : Provenance s) (creates : s.Creates a m)
    (hstep : s.step a = some t) : Creating m 0 t where
  unfinished := by omega
  own := by
    refine ⟨[], .nil, ?_⟩
    rw [creates.client, Device.step_pending (Cloud.step_device hstep) (by simp [creates.event]),
      creates.issues, Creation.writesIn_append, writesIn_of_creates origins creates hstep]
    simp [Creation.writesIn, Creation.writes, DocumentWrite.path]
  others c other := by
    rw [Cloud.step_devices_of_ne hstep (creates.client ▸ other),
      writesIn_of_creates origins creates hstep]
    exact fun w hw => absurd hw List.not_mem_nil
  room := by omega

theorem step (h : Referenced s) (guard : s.KeepsReferences a) (hstep : s.step a = some t) :
    Referenced t where
  origins := h.origins.step hstep
  known := h.known_step guard hstep
  stages m hm := by
    have old (hm : m ∈ s.created) : (∃ n, Creating m n t) ∨ Linked m t := by
      rcases h.stages m hm with ⟨n, creating⟩ | linked
      · exact creating.step (affects h.origins h.known guard hm hstep) fun _ =>
          Cloud.step_devices_of_ne hstep
      · exact Or.inr (h.linked_step guard hm hstep linked)
    rcases Cloud.step_created_cases hstep with ⟨-, same⟩ | ⟨m', creates, added⟩
    · exact old (same ▸ hm)
    · rw [added] at hm
      rcases List.mem_append.mp hm with before | new
      · exact old before
      · rw [List.mem_singleton.mp new]
        exact Or.inl ⟨0, creating_of_creates h.origins creates hstep⟩

end Step

end Referenced

namespace Cloud

/-- The room that a chats document links to. -/
def chatLink (s : Cloud κ) (chatID : String) : Option String :=
  ((s.documents ⟨.chats, chatID⟩).bind ChatInfo.ofDictonary).map ChatInfo.chatLink

/-- `chatLink` is a bijection from the documents of `chats` to those of `rooms`. -/
def ReferencesMatch (s : Cloud κ) : Prop :=
  (∀ chatID, (s.documents ⟨.chats, chatID⟩).isSome = true →
    ∃ roomID, s.chatLink chatID = some roomID ∧ (s.documents ⟨.rooms, roomID⟩).isSome = true) ∧
  ∀ roomID, (s.documents ⟨.rooms, roomID⟩).isSome = true →
    ∃! chatID, s.chatLink chatID = some roomID

section Links

variable {s : Cloud κ} {m : Creation κ}

theorem chatLink_eq_of_stored {info : ChatInfo} (stored : s.documents m.chatPath = some info.stored)
    (version : m.Version info) : s.chatLink m.chatID = some m.roomID := by
  rw [chatLink, ← Creation.chatPath, stored, Option.bind_some, ChatInfo.ofDictonary_stored,
    Option.map_some, version.chatLink]

/-- A stored chat belongs to a creation and links to its room. -/
theorem exists_of_chat_isSome (origins : Provenance s) {chatID : String}
    (exists_chat : (s.documents ⟨.chats, chatID⟩).isSome = true) :
    ∃ m ∈ s.created, m.chatID = chatID ∧ s.chatLink chatID = some m.roomID := by
  obtain ⟨data, stored⟩ := Option.isSome_iff_exists.mp exists_chat
  obtain ⟨m, hm, rfl, info, version, rfl, -⟩ := origins.data.documents _ data stored
  exact ⟨m, hm, rfl, chatLink_eq_of_stored stored version⟩

theorem exists_of_chatLink (origins : Provenance s) {chatID roomID : String}
    (link : s.chatLink chatID = some roomID) :
    ∃ m ∈ s.created, m.chatID = chatID ∧ m.roomID = roomID := by
  have exists_chat : (s.documents ⟨.chats, chatID⟩).isSome = true := by
    rw [Option.isSome_iff_ne_none]
    intro missing
    rw [chatLink, missing] at link
    cases link
  obtain ⟨m, hm, same, link'⟩ := exists_of_chat_isSome origins exists_chat
  exact ⟨m, hm, same, Option.some.inj (link'.symm.trans link)⟩

end Links

/-- When nothing is under way, a chat and its room exist together. -/
theorem exists_together {s : Cloud κ} (h : Referenced s) (settled : s.Settled) {m : Creation κ}
    (hm : m ∈ s.created) :
    (s.documents m.chatPath).isSome = (s.documents m.roomPath).isSome := by
  rcases h.stages m hm with ⟨n, creating⟩ | linked
  · obtain ⟨later, -, own⟩ := creating.own
    have bound := creating.unfinished
    rw [settled m.client] at own
    obtain rfl | rfl | rfl : n = 0 ∨ n = 1 ∨ n = 2 := by omega
    all_goals cases own
  · have whole (c : κ) : ¬ HalfDeleted m s c := by
      rintro ⟨later, -, half⟩
      rw [settled c] at half
      cases half
    cases chat : s.documents m.chatPath with
    | none =>
      rcases linked.gone chat with gone | ⟨c, half⟩
      · rw [gone]
      · exact absurd half (whole c)
    | some data => exact (linked.room (by rw [chat]; rfl)).symm

/-- In every run in which `deleteChat` finds entries with the identifier of their
document and no message is applied after its room has been deleted: whenever
nothing is under way, `chatLink` is a bijection from the chats to the rooms. -/
theorem references_match [DecidableEq κ] {s : Cloud κ} {labels : List (Action κ)}
    (run : exec step init labels = some s)
    (guard : EveryStep step KeepsReferences init labels) (settled : s.Settled) :
    s.ReferencesMatch := by
  have h := exec_invariant_of_everyStep (I := Referenced)
    (fun _ _ _ kept guard hstep => kept.step guard hstep) Referenced.init guard run
  constructor
  · intro chatID exists_chat
    obtain ⟨m, hm, rfl, link⟩ := exists_of_chat_isSome h.origins exists_chat
    exact ⟨m.roomID, link, (exists_together h settled hm).symm.trans exists_chat⟩
  · intro roomID exists_room
    obtain ⟨data, stored⟩ := Option.isSome_iff_exists.mp exists_room
    obtain ⟨m, hm, rfl⟩ := h.origins.data.documents _ data stored
    have exists_chat := (exists_together h settled hm).trans exists_room
    obtain ⟨m', hm', same, link⟩ := exists_of_chat_isSome h.origins exists_chat
    obtain rfl := h.origins.eq_of_chatID hm' hm same
    refine ⟨m'.chatID, link, fun chatID other => ?_⟩
    obtain ⟨m'', hm'', rfl, room⟩ := exists_of_chatLink h.origins other
    rw [h.origins.eq_of_roomID hm'' hm room]

/-- Two chats; one device sends to the first and deletes it. -/
def sentAndDeleted : List (Action Bool) :=
  [⟨true, .addChat "дом" ⟨0⟩ ⟨0⟩ 1 "r1" "c1"⟩, ⟨true, .addChat "двор" ⟨0⟩ ⟨0⟩ 2 "r2" "c2"⟩] ++
  List.replicate 6 ⟨true, .applyWrite⟩ ++
  [⟨false, .setupObserverChats⟩, ⟨false, .raiseChange "c1"⟩, ⟨false, .runChange⟩,
   ⟨false, .startDiscussRoom "дом"⟩, ⟨false, .sendMessage "Аня" "привет" 3⟩,
   ⟨false, .deleteChat "дом"⟩, ⟨false, .applyWrite⟩, ⟨false, .applyWrite⟩, ⟨false, .applyWrite⟩]

theorem references_match_sentAndDeleted :
    ∃ s, exec step init sentAndDeleted = some s ∧ s.ReferencesMatch := by
  obtain ⟨s, run, settled⟩ : ∃ s ∈ exec step init sentAndDeleted,
      ∀ c, (s.devices c).pending = [] := by decide +kernel
  exact ⟨s, run, references_match run (by decide +kernel) settled⟩

/-- A device that heard of the version with the placeholder deletes the room, but not
the chat. -/
theorem not_references_match :
    ¬ ∀ (labels : List (Action Bool)) (s : Cloud Bool), exec step init labels = some s →
      s.Settled → s.ReferencesMatch := by
  intro always
  let deletedEarly : List (Action Bool) :=
    [⟨true, .addChat "дом" ⟨0⟩ ⟨0⟩ 1 "r1" "c1"⟩, ⟨true, .applyWrite⟩, ⟨true, .applyWrite⟩,
     ⟨false, .setupObserverChats⟩, ⟨false, .raiseChange "c1"⟩, ⟨false, .runChange⟩,
     ⟨true, .applyWrite⟩, ⟨false, .deleteChat "дом"⟩, ⟨false, .applyWrite⟩,
     ⟨false, .applyWrite⟩]
  obtain ⟨s, run, settled, chat, link, room⟩ : ∃ s ∈ exec step init deletedEarly,
      (∀ c, (s.devices c).pending = []) ∧ (s.documents ⟨.chats, "c1"⟩).isSome = true ∧
        s.chatLink "c1" = some "r1" ∧ (s.documents ⟨.rooms, "r1"⟩).isSome = false := by
    decide +kernel
  obtain ⟨roomID, linked, exists_room⟩ := (always deletedEarly s run settled).1 "c1" chat
  obtain rfl := Option.some.inj (link.symm.trans linked)
  exact Bool.false_ne_true (room.symm.trans exists_room)

end Cloud

end OnMap
