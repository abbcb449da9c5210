/-
# The list of chats as a mirror

Four places write to the list: `addChat`, `deleteChat`, the answer to
`loadChatInfoArray` and the chats listener. A list that follows the listener has
entries of the right documents; it has one entry of each if no change adds a
document that is listed already.
-/

import OnMap.Cloud.Following
import Mathlib.Data.Set.Card

namespace OnMap

open Transition

variable {κ : Type}

/-- A new link keeps the links of a list distinct. -/
theorem nodup_chatLink_concat {chats : List ChatInfo} {info : ChatInfo}
    (distinct : (chats.map ChatInfo.chatLink).Nodup) (new : entriesOf chats info.chatLink = 0) :
    ((chats ++ [info]).map ChatInfo.chatLink).Nodup := by
  rw [List.map_append, List.map_singleton, ← List.concat_eq_append, List.nodup_concat]
  refine ⟨fun used => ?_, distinct⟩
  obtain ⟨other, listed, link⟩ := List.mem_map.mp used
  have more := entriesOf_pos.mpr ⟨other, listed, link⟩
  omega

/-- The entries of the list have distinct links, and so have the documents of every
answer that waits. -/
structure Device.ListsOnce (d : Device) : Prop where
  entries : (d.messenger.chatInformationArray.map ChatInfo.chatLink).Nodup
  replies : ∀ documents, some documents ∈ d.chatsReplies →
    ((documents.filterMap ChatInfo.ofDictonary).map ChatInfo.chatLink).Nodup

/-- The documents that a device sees have distinct links, in any order. -/
theorem Provenance.nodup_chatLink {s : Cloud κ} (h : Provenance s) (c : κ) {order : List String}
    (distinct : order.Nodup) :
    (((order.filterMap fun chatID => s.view c ⟨.chats, chatID⟩).filterMap
      ChatInfo.ofDictonary).map ChatInfo.chatLink).Nodup := by
  rw [List.filterMap_filterMap, List.map_filterMap]
  refine distinct.filterMap fun chatID chatID' link hlink hlink' => ?_
  obtain ⟨info, seen, rfl⟩ := Option.map_eq_some_iff.mp hlink
  obtain ⟨info', seen', same⟩ := Option.map_eq_some_iff.mp hlink'
  obtain ⟨m, hm, rfl, version⟩ := h.version_of_view seen
  obtain ⟨m', hm', rfl, version'⟩ := h.version_of_view seen'
  rw [version.chatLink, version'.chatLink] at same
  rw [h.eq_of_roomID hm' hm same]

namespace Cloud

/-- The change that is handled does not add a document that has an entry. -/
def AddsOnce (s : Cloud κ) (a : Action κ) : Prop :=
  match a.event with
  | .runChange => ∀ info ∈ (s.devices a.client).delivered .runChange,
      entriesOf (s.devices a.client).messenger.chatInformationArray info.chatLink = 0
  | _ => True

instance (s : Cloud κ) (a : Action κ) : Decidable (s.AddsOnce a) := by
  obtain ⟨c, event⟩ := a
  unfold AddsOnce
  rcases event <;> infer_instance

section Step

variable [DecidableEq κ] {s t : Cloud κ} {a : Action κ} {c : κ}

/-- The acting device keeps its links distinct. -/
theorem listsOnce_acting (h : (s.devices a.client).ListsOnce) (origins : Provenance s)
    (guard : s.AddsOnce a) (hstep : s.step a = some t) : (t.devices a.client).ListsOnce := by
  have taken := step_device hstep
  constructor
  · have relisted := Device.relists taken
    generalize (t.devices a.client).messenger.chatInformationArray = chats at relisted ⊢
    obtain ⟨client, event⟩ := a
    cases relisted with
    | keeps | refuses | loadsNothing | modifies => exact h.entries
    | @adds name x y now roomID chatID unused =>
      refine nodup_chatLink_concat h.entries (Nat.eq_zero_of_not_pos fun used => ?_)
      -- the identifier of the new room is fresh
      obtain ⟨other, listed, link⟩ := entriesOf_pos.mp used
      obtain ⟨m, hm, version⟩ := origins.version_of_entry listed
      exact ((creates_addChat unused).fresh hstep).1 m hm |>.2 (version.chatLink.symm.trans link)
    | deletes => exact h.entries.sublist ((List.eraseP_sublist ..).map _)
    | fails => exact List.nodup_nil
    | loads waiting => exact h.replies _ (List.mem_of_getElem? waiting)
    | appends queue decoded =>
      refine nodup_chatLink_concat h.entries (guard _ ?_)
      simp only [Device.delivered, queue, decoded, Option.toList_some, List.mem_singleton]
    | removes =>
      exact h.entries.sublist ((FirestoreMessenger.removeNamed_sublist _ _).map _)
  · intro documents waiting
    rcases Device.step_chatsReplies taken waiting with old | failed | ⟨order, present, answer⟩
    · exact h.replies documents old
    · cases failed
    · -- an answer lists the documents in some order, each once
      have distinct : order.Nodup := present.nodup_iff.mpr (origins.chatIDs.filter _)
      rw [Option.some.inj answer]
      exact origins.nodup_chatLink a.client distinct

theorem listsOnce_step (h : (s.devices c).ListsOnce) (origins : Provenance s)
    (guard : a.client = c → s.AddsOnce a) (hstep : s.step a = some t) :
    (t.devices c).ListsOnce := by
  by_cases acting : a.client = c
  · subst acting
    exact listsOnce_acting h origins (guard rfl) hstep
  · rw [step_devices_of_ne hstep (Ne.symm acting)]
    exact h

end Step

/-- The list of device `c` has exactly one entry for each chats document, and no other
entry: `documentOf` tells the document of an entry. -/
def Mirrors (s : Cloud κ) (c : κ) : Prop :=
  let chats := (s.devices c).messenger.chatInformationArray
  ∃ documentOf : ChatInfo → String,
    (∀ info ∈ chats, ∃ m ∈ s.created, m.chatID = documentOf info ∧ m.Version info) ∧
    (chats.map documentOf).Nodup ∧
    ∀ chatID, chatID ∈ chats.map documentOf ↔ (s.documents ⟨.chats, chatID⟩).isSome = true

/-- The messenger counts what the list mirrors. -/
theorem Mirrors.numberOfChats {s : Cloud κ} {c : κ} (h : s.Mirrors c) :
    (s.devices c).messenger.numberOfChats =
      Set.ncard {chatID | (s.documents ⟨.chats, chatID⟩).isSome = true} := by
  obtain ⟨documentOf, -, distinct, stored⟩ := h
  have enumerated : {chatID | (s.documents ⟨.chats, chatID⟩).isSome = true} =
      (((s.devices c).messenger.chatInformationArray.map documentOf).toFinset : Set String) := by
    ext chatID
    rw [List.coe_toFinset]
    exact (stored chatID).symm
  rw [enumerated, Set.ncard_coe_finset, List.toFinset_card_of_nodup distinct, List.length_map]
  rfl

/-- A list that follows its listener, without doubled links, is a mirror once the
device is up to date. -/
theorem mirrors_of_listsOnce {s : Cloud κ} {c : κ} (origins : Provenance s)
    (follows : s.FollowsChats c) (once : (s.devices c).ListsOnce) (upToDate : s.UpToDate c) :
    s.Mirrors c := by
  let chats := (s.devices c).messenger.chatInformationArray
  have origin : ∀ info ∈ chats, ∃ chatID, ∃ m ∈ s.created, m.chatID = chatID ∧ m.Version info := by
    intro info listed
    obtain ⟨m, hm, version⟩ := origins.version_of_entry listed
    exact ⟨m.chatID, m, hm, rfl, version⟩
  choose! documentOf hdocument using origin
  refine ⟨documentOf, hdocument, ?_, fun chatID => ?_⟩
  · -- entries of one document have one link, and links are distinct
    refine List.Nodup.map_on (fun info hinfo other hother same => ?_) once.entries.of_map
    obtain ⟨m, hm, id, version⟩ := hdocument info hinfo
    obtain ⟨m', hm', id', version'⟩ := hdocument other hother
    obtain rfl := origins.eq_of_chatID hm hm' (id.trans (same.trans id'.symm))
    exact List.inj_on_of_nodup_map once.entries hinfo hother
      (version.chatLink.trans version'.chatLink.symm)
  · rw [← follows.listed_iff upToDate]
    constructor
    · intro shown
      obtain ⟨info, hinfo, rfl⟩ := List.mem_map.mp shown
      obtain ⟨m, hm, id, version⟩ := hdocument info hinfo
      exact ⟨m, hm, id, entriesOf_pos.mpr ⟨info, hinfo, version.chatLink⟩⟩
    · rintro ⟨m, hm, rfl, listed⟩
      obtain ⟨info, hinfo, link⟩ := entriesOf_pos.mp listed
      obtain ⟨m', hm', id, version⟩ := hdocument info hinfo
      refine List.mem_map.mpr ⟨info, hinfo, ?_⟩
      rw [← id, origins.eq_of_roomID hm' hm (version.chatLink.symm.trans link)]

/-- In every run in which the device's list follows its listener and no change adds
a document that is listed already: whenever the device is up to date, the list has
exactly one entry for each chats document, and `numberOfChats` is their number. -/
theorem mirrors_chats [DecidableEq κ] {s : Cloud κ} {labels : List (Action κ)} {c : κ}
    (run : exec step init labels = some s)
    (guard : EveryStep step (fun s a => a.client = c → s.KeepsList a ∧ s.AddsOnce a) init labels)
    (upToDate : s.UpToDate c) :
    s.Mirrors c ∧ (s.devices c).messenger.numberOfChats =
      Set.ncard {chatID | (s.documents ⟨.chats, chatID⟩).isSome = true} := by
  obtain ⟨origins, follows, once⟩ := exec_invariant_of_everyStep
    (I := fun s => Provenance s ∧ s.FollowsChats c ∧ (s.devices c).ListsOnce)
    (fun s a t h guard hstep => ⟨h.1.step hstep,
      h.2.1.step h.1 (fun acting => (guard acting).1) hstep,
      listsOnce_step h.2.2 h.1 (fun acting => (guard acting).2) hstep⟩)
    ⟨Provenance.init, followsChats_init c, List.nodup_nil, fun _ waiting => by cases waiting⟩
    guard run
  have mirrors := mirrors_of_listsOnce origins follows once upToDate
  exact ⟨mirrors, mirrors.numberOfChats⟩

/-- A map screen is opened on an empty server; then chats come and go, and the list is
loaded once more. -/
def comeAndGone : List (Action Bool) :=
  [⟨false, .loadChatInfoArray⟩, ⟨false, .setupObserverChats⟩, ⟨false, .answerChats []⟩,
   ⟨false, .runChats 0⟩, ⟨true, .addChat "дом" ⟨0⟩ ⟨0⟩ 1 "r1" "c1"⟩,
   ⟨true, .addChat "двор" ⟨0⟩ ⟨0⟩ 2 "r2" "c2"⟩] ++ List.replicate 6 ⟨true, .applyWrite⟩ ++
  [⟨false, .raiseChange "c1"⟩, ⟨false, .runChange⟩, ⟨false, .raiseChange "c2"⟩,
   ⟨false, .runChange⟩, ⟨true, .deleteChat "дом"⟩, ⟨true, .applyWrite⟩, ⟨true, .applyWrite⟩,
   ⟨false, .raiseChange "c1"⟩, ⟨false, .runChange⟩, ⟨false, .loadChatInfoArray⟩,
   ⟨false, .answerChats ["c2"]⟩, ⟨false, .runChats 0⟩]

theorem mirrors_chats_comeAndGone : ∃ s, exec step init comeAndGone = some s ∧
    s.Mirrors false ∧ (s.devices false).messenger.numberOfChats = 1 := by
  obtain ⟨s, run, still, listening, one⟩ : ∃ s ∈ exec step init comeAndGone, s.Still ∧
      (s.devices false).reported.isSome = true ∧
        (s.devices false).messenger.numberOfChats = 1 := by decide +kernel
  have quiet := (Provenance.of_exec run).quiet_of_still still
  exact ⟨s, run, (mirrors_chats run (by decide +kernel) (quiet.upToDate listening)).1, one⟩

/-- The user's own chat is listed twice: by `addChat` and by the listener. -/
theorem not_mirrors_chats :
    ¬ ∀ (labels : List (Action Bool)) (s : Cloud Bool) (c : Bool),
      exec step init labels = some s → ⟨c, .loadChatInfoArray⟩ ∈ labels →
      (s.devices c).reported.isSome = true → s.Quiet → s.Mirrors c := by
  intro always
  let addedHere : List (Action Bool) :=
    [⟨true, .loadChatInfoArray⟩, ⟨true, .setupObserverChats⟩, ⟨true, .answerChats []⟩,
     ⟨true, .runChats 0⟩, ⟨true, .addChat "дом" ⟨0⟩ ⟨0⟩ 1 "r1" "c1"⟩, ⟨true, .applyWrite⟩,
     ⟨true, .applyWrite⟩, ⟨true, .applyWrite⟩, ⟨true, .runChange⟩, ⟨true, .runChange⟩]
  obtain ⟨s, run, still, listening, two, only⟩ : ∃ s ∈ exec step init addedHere, s.Still ∧
      (s.devices true).reported.isSome = true ∧
        (s.devices true).messenger.chatInformationArray.length = 2 ∧
          ∀ m ∈ s.created, m.chatID = "c1" := by decide +kernel
  have quiet := (Provenance.of_exec run).quiet_of_still still
  obtain ⟨documentOf, entries, distinct, -⟩ :=
    always addedHere s true run List.mem_cons_self listening quiet
  -- both entries are of the one document
  have same : ∀ chatID ∈ (s.devices true).messenger.chatInformationArray.map documentOf,
      chatID = "c1" := by
    intro chatID shown
    obtain ⟨info, listed, rfl⟩ := List.mem_map.mp shown
    obtain ⟨m, hm, id, -⟩ := entries info listed
    rw [← id, only m hm]
  rw [List.eq_replicate_of_mem same, List.length_map, two, List.nodup_replicate] at distinct
  omega

end Cloud

end OnMap
