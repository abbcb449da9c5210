/-
# One room for each name

`addChat` refuses a name that its device lists, but another device may have used the
name without this device knowing, and the write that follows is unconditional. When
no chat of the name is stored or on its way, names stay unique, through every queue
of writes. A device whose list follows its listener then opens for a name the room
of the one document that has it.
-/

import OnMap.Cloud.Following

namespace OnMap

open Overlay Transition Feed

variable {κ : Type}

/-- The name of the chat stored under an identifier. -/
def chatName (documents : Documents) (chatID : String) : Option String :=
  ((documents ⟨.chats, chatID⟩).bind ChatInfo.ofDictonary).map ChatInfo.name

/-- No two documents of `chats` have the same name. -/
def UniqueNames (documents : Documents) : Prop :=
  ∀ chatID chatID' name, chatName documents chatID = some name →
    chatName documents chatID' = some name → chatID = chatID'

namespace DocumentWrite

/-- The name under which the write stores a chat. -/
def chatName (w : DocumentWrite) : Option String :=
  match w.path.collection with
  | .chats => (w.data.bind ChatInfo.ofDictonary).map ChatInfo.name
  | .rooms => none

theorem chatName_of_path {w : DocumentWrite} {chatID : String} (path : w.path = ⟨.chats, chatID⟩) :
    w.chatName = (w.data.bind ChatInfo.ofDictonary).map ChatInfo.name := by
  rw [chatName, path]

end DocumentWrite

section Names

variable {documents : Documents} {w : DocumentWrite} {queue : List DocumentWrite}
  {chatID name : String}

/-- What stands under an identifier after a write. -/
theorem chatName_apply (w : DocumentWrite) (documents : Documents) (chatID : String) :
    chatName (w.toWrite.apply documents) chatID =
      if w.path = ⟨.chats, chatID⟩ then w.chatName else chatName documents chatID := by
  split
  case isTrue same =>
    rw [chatName, w.toWrite.apply_apply_of_key_eq same, DocumentWrite.chatName_of_path same]
    rfl
  case isFalse apart => rw [chatName, Write.apply_of_ne (w := w.toWrite) apart, chatName]

/-- A chat seen through a queue is stored, or one of the queued writes stores it. -/
theorem chatName_overlay_cases
    (seen : chatName (overlay documents (queue.map DocumentWrite.toWrite)) chatID = some name) :
    chatName documents chatID = some name ∨ ∃ w ∈ queue, w.chatName = some name := by
  rw [chatName] at seen
  rcases overlay_eq_or_mem documents (queue.map DocumentWrite.toWrite) ⟨.chats, chatID⟩ with
    shared | ⟨_, queued, path, value⟩
  · rw [shared] at seen
    exact Or.inl seen
  · obtain ⟨w, hw, rfl⟩ := List.mem_map.mp queued
    rw [value] at seen
    exact Or.inr ⟨w, hw, (DocumentWrite.chatName_of_path path).trans seen⟩

/-- Writes of one document keep names unique if no other document has their name. -/
theorem UniqueNames.throughout (h : UniqueNames documents) (writes : List DocumentWrite)
    (own : ∀ w ∈ writes, ∀ name, w.chatName = some name → w.path = ⟨.chats, chatID⟩ ∧
      ∀ other, chatName documents other = some name → other = chatID) :
    Throughout UniqueNames documents (writes.map DocumentWrite.toWrite) := by
  induction writes generalizing documents with
  | nil =>
    intro applied first
    rwa [List.prefix_nil.mp first]
  | cons w writes ih =>
    have first := own w List.mem_cons_self
    refine Throughout.cons h (ih ?_ fun v hv name named => ?_)
    · -- a document of the written name is the written one
      intro left right name hleft hright
      rw [chatName_apply] at hleft hright
      have home {other : String} (there : (if w.path = ⟨.chats, other⟩ then w.chatName
          else chatName documents other) = some name) (hit : w.chatName = some name) :
          other = chatID := by
        split at there
        case isTrue same =>
          rw [(first name hit).1] at same
          exact (DocumentPath.mk.inj same).2.symm
        case isFalse => exact (first name hit).2 other there
      by_cases hit : w.chatName = some name
      · rw [home hleft hit, home hright hit]
      · rw [if_neg fun same => hit (by rwa [if_pos same] at hleft)] at hleft
        rw [if_neg fun same => hit (by rwa [if_pos same] at hright)] at hright
        exact h left right name hleft hright
    · -- the later writes see one document more, but it is their own
      obtain ⟨path, only⟩ := own v (List.mem_cons_of_mem _ hv) name named
      refine ⟨path, fun other there => ?_⟩
      rw [chatName_apply] at there
      split at there
      case isTrue same =>
        rw [(first name there).1] at same
        exact (DocumentPath.mk.inj same).2.symm
      case isFalse => exact only other there

end Names

namespace Cloud

/-! ### Names stay unique -/

/-- Names are unique on the server, and stay so whatever part of one device's queue
the server takes; and no two devices store the same name. -/
structure NamesApart (s : Cloud κ) : Prop where
  shared : UniqueNames s.documents
  queued : ∀ c, Throughout UniqueNames s.documents
    ((s.devices c).pending.map DocumentWrite.toWrite)
  apart : ∀ c c', c ≠ c' → ∀ w ∈ (s.devices c).pending, ∀ w' ∈ (s.devices c').pending,
    ∀ name, w.chatName = some name → w'.chatName ≠ some name

/-- A name that `chatIsExist` does not know is not in use: the device sees no chat of
the name, and no other device is about to store one. -/
def NewName (s : Cloud κ) (a : Action κ) : Prop :=
  match a.event with
  | .addChat name .. => (s.devices a.client).messenger.chatIsExist name = false →
      (∀ m ∈ s.created, chatName (s.view a.client) m.chatID ≠ some name) ∧
        ∀ c, c ≠ a.client → ∀ w ∈ (s.devices c).pending, w.chatName ≠ some name
  | _ => True

instance [Fintype κ] [DecidableEq κ] (s : Cloud κ) (a : Action κ) : Decidable (s.NewName a) := by
  obtain ⟨c, event⟩ := a
  unfold NewName
  rcases event <;> infer_instance

section Step

variable [DecidableEq κ] {s t : Cloud κ} {a : Action κ}

omit [DecidableEq κ] in
/-- A chat that an event stores is new, under its identifier and its name. -/
theorem NewName.issues (guard : s.NewName a) (origins : Provenance s) :
    ∃ chatID, ∀ w ∈ (s.devices a.client).issues a.event, ∀ name, w.chatName = some name →
      w.path = ⟨.chats, chatID⟩ ∧
        (∀ other, chatName (s.view a.client) other = some name → other = chatID) ∧
        ∀ c, c ≠ a.client → ∀ w' ∈ (s.devices c).pending, w'.chatName ≠ some name := by
  rcases s.issues_cases a with none | ⟨m, creates, writes⟩ | ⟨_, info, -, -, writes⟩ |
    ⟨_, _, _, id, -, -, room, writes⟩
  · refine ⟨"", fun w hw => ?_⟩
    rw [none] at hw
    cases hw
  · -- both versions of a new chat have its identifier and its name
    simp only [NewName, creates.event] at guard
    obtain ⟨unseen, nobody⟩ := guard creates.unused
    refine ⟨m.chatID, fun w hw name named => ?_⟩
    have mine : w.path = m.chatPath ∧ name = m.name := by
      rw [writes, Creation.writes] at hw
      simp only [List.mem_cons, List.not_mem_nil, or_false] at hw
      rcases hw with rfl | rfl | rfl
      · cases named
      · exact ⟨rfl, (Option.some.inj named).symm⟩
      · exact ⟨rfl, (Option.some.inj named).symm⟩
    obtain ⟨path, rfl⟩ := mine
    refine ⟨path, fun other seen => ?_, nobody⟩
    obtain ⟨info, shown, -⟩ := Option.map_eq_some_iff.mp seen
    obtain ⟨m', hm', rfl, -⟩ := origins.version_of_view shown
    exact absurd seen (unseen m' hm')
  · -- deletions and messages store no chat
    refine ⟨"", fun w hw name named => ?_⟩
    rw [writes] at hw
    simp only [List.mem_cons, List.not_mem_nil, or_false] at hw
    rcases hw with rfl | rfl <;> cases named
  · refine ⟨"", fun w hw name named => ?_⟩
    rw [writes, List.mem_singleton] at hw
    subst hw
    cases named

omit [DecidableEq κ] in
/-- The server takes a write of one device; another device's queue is applied later. -/
theorem NamesApart.queued_of_ne (h : s.NamesApart) {w : DocumentWrite} {rest : List DocumentWrite}
    {c c' : κ} (queue : (s.devices c).pending = w :: rest) (other : c ≠ c') :
    Throughout UniqueNames (w.toWrite.apply s.documents)
      ((s.devices c').pending.map DocumentWrite.toWrite) := by
  have stored : UniqueNames (w.toWrite.apply s.documents) := by
    have own := h.queued c
    rw [queue] at own
    exact own.tail.shared
  intro applied first left right name hleft hright
  obtain ⟨writes, hwrites, rfl⟩ := List.prefix_map_iff.mp first
  have before := h.queued c' _ first
  -- a chat seen now was seen before, or it is the stored one
  have cases_of {chatID : String} (seen : chatName (overlay (w.toWrite.apply s.documents)
      (writes.map DocumentWrite.toWrite)) chatID = some name) :
      chatName (overlay s.documents (writes.map DocumentWrite.toWrite)) chatID = some name ∨
        w.path = ⟨.chats, chatID⟩ ∧ w.chatName = some name := by
    rw [chatName] at seen
    rcases overlay_apply_cases w.toWrite s.documents (writes.map DocumentWrite.toWrite)
      ⟨.chats, chatID⟩ with same | ⟨path, value⟩
    · rw [same] at seen
      exact Or.inl seen
    · rw [value] at seen
      exact Or.inr ⟨path, (DocumentWrite.chatName_of_path path).trans seen⟩
  -- and the other device stores no chat of the written name
  have written {chatID chatID' : String} (path : w.path = ⟨.chats, chatID⟩)
      (named : w.chatName = some name)
      (seen : chatName (overlay s.documents (writes.map DocumentWrite.toWrite)) chatID' =
        some name) : chatID = chatID' := by
    rcases chatName_overlay_cases seen with there | ⟨w', hw', named'⟩
    · apply stored chatID chatID' name
      · rw [chatName_apply, if_pos path, named]
      · rw [chatName_apply]
        split
        · exact named
        · exact there
    · exact absurd named' (h.apart c c' other w (queue ▸ List.mem_cons_self) w'
        (hwrites.subset hw') name named)
  rcases cases_of hleft with hleft | ⟨path, named⟩
  · rcases cases_of hright with hright | ⟨path, named⟩
    · exact before left right name hleft hright
    · exact (written path named hleft).symm
  · rcases cases_of hright with hright | ⟨path', -⟩
    · exact written path named hright
    · rw [path] at path'
      exact (DocumentPath.mk.inj path').2

/-- A step that creates chats under new names only keeps names unique. -/
theorem NamesApart.step (h : s.NamesApart) (origins : Provenance s) (guard : s.NewName a)
    (hstep : s.step a = some t) : t.NamesApart := by
  rcases step_documents_cases hstep with ⟨kept, same⟩ | ⟨w, rest, applied, queue, written, left⟩
  · -- nothing is applied; the queue of the acting device grows
    obtain ⟨chatID, new⟩ := guard.issues origins
    have grown := Device.step_pending (step_device hstep) kept
    have shown : UniqueNames (s.view a.client) := h.queued a.client _ (List.prefix_refl _)
    have mem_queue {c : κ} {w : DocumentWrite} (hw : w ∈ (t.devices c).pending) :
        w ∈ (s.devices c).pending ∨ c = a.client ∧ w ∈ (s.devices a.client).issues a.event := by
      by_cases acting : c = a.client
      · rw [acting, grown] at hw
        rw [acting]
        exact (List.mem_append.mp hw).imp id fun issued => ⟨rfl, issued⟩
      · rw [step_devices_of_ne hstep acting] at hw
        exact Or.inl hw
    refine ⟨same ▸ h.shared, fun c => ?_, fun c c' other w hw w' hw' name named named' => ?_⟩
    · rw [same]
      by_cases acting : c = a.client
      · rw [acting, grown, List.map_append]
        exact (h.queued a.client).append
          (shown.throughout _ fun w hw name named => ⟨(new w hw name named).1,
            (new w hw name named).2.1⟩)
      · rw [step_devices_of_ne hstep acting]
        exact h.queued c
    · rcases mem_queue hw with old | ⟨rfl, issued⟩
      · rcases mem_queue hw' with old' | ⟨rfl, issued'⟩
        · exact h.apart c c' other w old w' old' name named named'
        · exact (new w' issued' name named').2.2 c other w old named
      · rcases mem_queue hw' with old' | ⟨rfl, -⟩
        · exact (new w issued name named).2.2 c' (Ne.symm other) w' old' named'
        · exact other rfl
  · -- the oldest write of the acting device is applied
    have own := h.queued a.client
    rw [queue] at own
    have mem_queue {c : κ} {v : DocumentWrite} (hv : v ∈ (t.devices c).pending) :
        v ∈ (s.devices c).pending := by
      by_cases acting : c = a.client
      · subst acting
        rw [left] at hv
        rw [queue]
        exact List.mem_cons_of_mem _ hv
      · rwa [step_devices_of_ne hstep acting] at hv
    refine ⟨written ▸ own.tail.shared, fun c => ?_, fun c c' other v hv v' hv' =>
      h.apart c c' other v (mem_queue hv) v' (mem_queue hv')⟩
    rw [written]
    by_cases acting : c = a.client
    · subst acting
      rw [left]
      exact own.tail
    · rw [step_devices_of_ne hstep acting]
      exact h.queued_of_ne queue (Ne.symm acting)

omit [DecidableEq κ] in
theorem namesApart_init : (init : Cloud κ).NamesApart where
  shared _ _ _ named := by cases named
  queued c applied first := by
    rw [List.prefix_nil.mp first]
    exact fun _ _ _ named => by cases named
  apart _ _ _ _ hw := by cases hw

end Step

/-! ### Names are opened -/

/-- `startDiscussRoom` on an up-to-date device opens the room of the one document
that has the name. -/
theorem opens_stored {s : Cloud κ} (origins : Provenance s) (unique : UniqueNames s.documents)
    {c : κ} (follows : s.FollowsChats c) (upToDate : s.UpToDate c) {m : Creation κ}
    (hm : m ∈ s.created) (stored : chatName s.documents m.chatID = some m.name) :
    ((s.devices c).messenger.startDiscussRoom m.name).1.idDiscussion = some m.roomID := by
  let chats := (s.devices c).messenger.chatInformationArray
  have listed_iff (chatID : String) : Listed s.created chats chatID ↔
      (s.documents ⟨.chats, chatID⟩).isSome = true := follows.listed_iff upToDate chatID
  have stored_name {m' : Creation κ} (hm' : m' ∈ s.created)
      (there : (s.documents m'.chatPath).isSome = true) :
      chatName s.documents m'.chatID = some m'.name := by
    obtain ⟨data, hdata⟩ := Option.isSome_iff_exists.mp there
    obtain ⟨info, version, rfl⟩ := origins.version_of_stored hm' hdata
    rw [chatName, ← Creation.chatPath, hdata, Option.bind_some, ChatInfo.ofDictonary_stored,
      Option.map_some, version.name]
  have there : (s.documents ⟨.chats, m.chatID⟩).isSome = true := by
    rw [Option.isSome_iff_ne_none]
    intro missing
    rw [chatName, missing] at stored
    cases stored
  -- the chat is listed, so some entry has the name
  obtain ⟨entry, hentry, link⟩ :=
    entriesOf_pos.mp ((origins.listed_iff hm chats).mp ((listed_iff m.chatID).mpr there))
  have found : (chats.find? fun info => info.name == m.name).isSome :=
    List.find?_isSome.mpr ⟨entry, hentry, by
      rw [beq_iff_eq, (origins.version_of_link hentry hm link).name]⟩
  obtain ⟨first, hfirst⟩ := Option.isSome_iff_exists.mp found
  -- the first such entry belongs to a stored document of the name, which is the only one
  obtain ⟨m', hm', version⟩ := origins.version_of_entry (List.mem_of_find?_eq_some hfirst)
  have listed' : Listed s.created chats m'.chatID := ⟨m', hm', rfl,
    entriesOf_pos.mpr ⟨first, List.mem_of_find?_eq_some hfirst, version.chatLink⟩⟩
  have named : m'.name = m.name := by
    simpa [version.name] using List.find?_some hfirst
  have stored' := stored_name hm' ((listed_iff m'.chatID).mp listed')
  rw [named] at stored'
  have same := origins.eq_of_chatID hm' hm (unique _ _ _ stored' stored)
  rw [FirestoreMessenger.startDiscussRoom_idDiscussion, hfirst, Option.map_some,
    version.chatLink, same, Option.some_or]

/-- In every run in which chats are added under names that are not in use, and the
lists follow their listeners: no two documents have the same name, and all
up-to-date devices open the same room for the name of a document. -/
theorem one_room_for_each_name [DecidableEq κ] {s : Cloud κ} {labels : List (Action κ)}
    (run : exec step init labels = some s)
    (guard : EveryStep step (fun s a => s.NewName a ∧ s.KeepsList a) init labels) :
    UniqueNames s.documents ∧
      ∀ chatID name, chatName s.documents chatID = some name →
        ∃ link, ∀ c, s.UpToDate c →
          ((s.devices c).messenger.startDiscussRoom name).1.idDiscussion = some link := by
  obtain ⟨origins, names, follows⟩ := exec_invariant_of_everyStep
    (I := fun s => Provenance s ∧ s.NamesApart ∧ ∀ c, s.FollowsChats c)
    (fun s a t h guard hstep => ⟨h.1.step hstep, h.2.1.step h.1 guard.1 hstep,
      fun c => (h.2.2 c).step h.1 (fun _ => guard.2) hstep⟩)
    ⟨Provenance.init, namesApart_init, followsChats_init⟩ guard run
  refine ⟨names.shared, fun chatID name stored => ?_⟩
  obtain ⟨info, decoded, rfl⟩ := Option.map_eq_some_iff.mp stored
  obtain ⟨data, hdata, hinfo⟩ := Option.bind_eq_some_iff.mp decoded
  obtain ⟨m, hm, rfl, _, version, rfl, -⟩ := origins.data.documents _ data hdata
  rw [ChatInfo.ofDictonary_stored, Option.some.injEq] at hinfo
  subst hinfo
  rw [version.name] at stored ⊢
  exact ⟨m.roomID, fun c upToDate =>
    opens_stored origins names.shared (follows c) upToDate hm stored⟩

/-- A chat is added, heard of and deleted; then the other device uses its name again. -/
def usedAgain : List (Action Bool) :=
  [⟨true, .setupObserverChats⟩, ⟨false, .setupObserverChats⟩,
   ⟨true, .addChat "дом" ⟨0⟩ ⟨0⟩ 1 "r1" "c1"⟩, ⟨true, .applyWrite⟩, ⟨true, .applyWrite⟩,
   ⟨true, .applyWrite⟩, ⟨true, .runChange⟩, ⟨true, .runChange⟩, ⟨false, .raiseChange "c1"⟩,
   ⟨false, .runChange⟩, ⟨true, .deleteChat "дом"⟩, ⟨true, .applyWrite⟩, ⟨true, .applyWrite⟩,
   ⟨true, .runChange⟩, ⟨false, .raiseChange "c1"⟩, ⟨false, .runChange⟩,
   ⟨false, .addChat "дом" ⟨0⟩ ⟨0⟩ 2 "r2" "c2"⟩, ⟨false, .applyWrite⟩, ⟨false, .applyWrite⟩,
   ⟨false, .applyWrite⟩, ⟨false, .runChange⟩, ⟨false, .runChange⟩, ⟨true, .raiseChange "c2"⟩,
   ⟨true, .runChange⟩]

theorem one_room_for_each_name_usedAgain : ∃ s, exec step init usedAgain = some s ∧
    UniqueNames s.documents ∧ ∃ link, ∀ c,
      ((s.devices c).messenger.startDiscussRoom "дом").1.idDiscussion = some link := by
  obtain ⟨s, run, still, listening, stored⟩ : ∃ s ∈ exec step init usedAgain, s.Still ∧
      (∀ c, (s.devices c).reported.isSome = true) ∧ chatName s.documents "c2" = some "дом" := by
    decide +kernel
  have result := one_room_for_each_name run (by decide +kernel)
  have quiet := (Provenance.of_exec run).quiet_of_still still
  obtain ⟨link, opens⟩ := result.2 "c2" "дом" stored
  exact ⟨s, run, result.1, link, fun c => opens c (quiet.upToDate (listening c))⟩

/-- Two devices add chats of the same name before they hear of each other. -/
theorem not_one_room_for_each_name :
    ¬ ∀ (labels : List (Action Bool)) (s : Cloud Bool), exec step init labels = some s →
      UniqueNames s.documents ∧
        ∀ chatID name, chatName s.documents chatID = some name →
          ∃ link, ∀ c, s.UpToDate c →
            ((s.devices c).messenger.startDiscussRoom name).1.idDiscussion = some link := by
  intro always
  let addedTwice : List (Action Bool) :=
    [⟨true, .setupObserverChats⟩, ⟨false, .setupObserverChats⟩,
     ⟨true, .addChat "дом" ⟨0⟩ ⟨0⟩ 1 "r1" "c1"⟩, ⟨false, .addChat "дом" ⟨0⟩ ⟨0⟩ 2 "r2" "c2"⟩,
     ⟨true, .applyWrite⟩, ⟨true, .applyWrite⟩, ⟨false, .applyWrite⟩, ⟨false, .applyWrite⟩]
  obtain ⟨s, run, first, second⟩ : ∃ s ∈ exec step init addedTwice,
      chatName s.documents "c1" = some "дом" ∧ chatName s.documents "c2" = some "дом" := by
    decide +kernel
  have same := (always addedTwice s run).1 "c1" "c2" "дом" first second
  exact absurd same (by decide)

end Cloud

end OnMap
