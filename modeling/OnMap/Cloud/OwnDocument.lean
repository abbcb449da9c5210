/-
# Entries that know their own document

A chat is stored twice, the first time with a placeholder for the identifier of
its document. An entry copies the version that was delivered and is never
corrected. As long as only finished versions are delivered, every entry names its
own document, and `deleteChat` deletes that document and the room.
-/

import OnMap.Cloud.Listing

namespace OnMap

open Overlay Transition

variable {κ : Type}

namespace Cloud

/-- Every entry was built for a created chat, whose link it has, and has the
identifier of that chat's document. -/
def KnowsDocuments (s : Cloud κ) : Prop :=
  ∀ c, ∀ info ∈ (s.devices c).messenger.chatInformationArray,
    ∃ m ∈ s.created, info.chatLink = m.roomID ∧ info.firebaseID = m.chatID

/-- `deleteChat` on the device deletes the chat's document and its room. -/
def DeletesChat [DecidableEq κ] (s : Cloud κ) (c : κ) (m : Creation κ) : Prop :=
  (s.devices c).issues (.deleteChat m.name) = [.delete m.chatPath, .delete m.roomPath] ∧
    ∃ t, s.step ⟨c, .deleteChat m.name⟩ = some t ∧
      t.view c m.chatPath = none ∧ t.view c m.roomPath = none

/-- What a closure delivers is not the version with the placeholder. -/
def DeliversFinished (s : Cloud κ) (a : Action κ) : Prop :=
  ∀ info ∈ (s.devices a.client).delivered a.event,
    info.firebaseID ≠ FirestoreMessenger.placeholderID

instance (s : Cloud κ) (a : Action κ) : Decidable (s.DeliversFinished a) :=
  inferInstanceAs (Decidable (∀ _ ∈ _, _))

/-- All entries are finished versions. -/
def Finished (s : Cloud κ) : Prop :=
  ∀ c, ∀ info ∈ (s.devices c).messenger.chatInformationArray, ∃ m ∈ s.created, info = m.corrected

theorem Finished.knowsDocuments {s : Cloud κ} (h : s.Finished) : s.KnowsDocuments := by
  intro c info listed
  obtain ⟨m, hm, rfl⟩ := h c info listed
  exact ⟨m, hm, rfl, rfl⟩

section Step

variable [DecidableEq κ] {s t : Cloud κ} {a : Action κ}

theorem Finished.step (h : s.Finished) (origins : Provenance s) (finished : s.DeliversFinished a)
    (hstep : s.step a = some t) : t.Finished := by
  have more := step_created_subset hstep
  intro c info listed
  by_cases acting : c = a.client
  · subst acting
    rcases (Device.relists (step_device hstep)).mem listed with old | new | ⟨unused, event⟩
    · exact (h a.client info old).imp fun _ hm => ⟨more hm.1, hm.2⟩
    · obtain ⟨m, hm, version⟩ := origins.delivered a.client new
      exact ⟨m, more hm, version.eq_corrected (finished info new)⟩
    · exact ⟨⟨a.client, info.name, info.xCoordinate, info.yCoordinate, info.timeCreate,
        info.chatLink, info.firebaseID⟩, Creates.mem_created ⟨rfl, event, unused⟩ hstep, rfl⟩
  · rw [step_devices_of_ne hstep acting] at listed
    exact (h c info listed).imp fun _ hm => ⟨more hm.1, hm.2⟩

/-- An entry of the only chat of its name leads `deleteChat` to the chat. -/
theorem Finished.deletesChat (h : s.Finished) (names : (s.created.map Creation.name).Nodup)
    {c : κ} {m : Creation κ} (hm : m ∈ s.created)
    (exists_entry : (s.devices c).messenger.chatIsExist m.name = true) : s.DeletesChat c m := by
  obtain ⟨entry, listed, named⟩ := FirestoreMessenger.chatIsExist_iff.mp exists_entry
  have present : ((s.devices c).messenger.chatInformationArray.find?
      fun info => info.name == m.name).isSome :=
    List.find?_isSome.mpr ⟨entry, listed, by simp [named]⟩
  obtain ⟨info, found⟩ := Option.isSome_iff_exists.mp present
  -- the first entry of the name is of the chat itself, as no other chat has the name
  have first : info = m.corrected := by
    obtain ⟨m', hm', rfl⟩ := h c info (List.mem_of_find?_eq_some found)
    have same : m'.name = m.name := by simpa using List.find?_some found
    rw [List.inj_on_of_nodup_map names hm' hm same]
  have deleted := FirestoreMessenger.deleteChat_eq_some_iff.mpr ⟨info, found, rfl⟩
  have issued : (s.devices c).issues (.deleteChat m.name) =
      [.delete m.chatPath, .delete m.roomPath] := by
    simp [Device.issues, Device.method, deleted, first, Creation.chatPath, Creation.roomPath]
  obtain ⟨t, hstep⟩ : ∃ t, s.step ⟨c, .deleteChat m.name⟩ = some t :=
    ⟨_, step_eq_some_iff.mpr
      ⟨by simp [Fresh, Event.newIDs], _, by rw [Device.step, deleted]; rfl, rfl⟩⟩
  have documents : t.documents = s.documents :=
    (step_documents hstep).trans (documentsAfter_of_ne (by simp))
  have pending : (t.devices c).pending = (s.devices c).pending ++ [.delete m.chatPath,
      .delete m.roomPath] := by
    rw [Device.step_pending (step_device hstep) (by simp), issued]
  have seen : t.view c = (DocumentWrite.delete m.roomPath).toWrite.apply
      ((DocumentWrite.delete m.chatPath).toWrite.apply (s.view c)) := by
    rw [view, Device.view, documents, pending, List.map_append, overlay_append]
    rfl
  refine ⟨issued, t, hstep, ?_, ?_⟩
  · rw [seen, Write.apply_of_ne (m.roomPath_ne_chatPath m)]
    exact (DocumentWrite.delete m.chatPath).toWrite.apply_key _
  · rw [seen]
    exact (DocumentWrite.delete m.roomPath).toWrite.apply_key _

end Step

/-- Chats with distinct names: in every run in which no closure delivers a version
with the placeholder, every entry names its own document, and `deleteChat`
deletes the chat's document and its room. -/
theorem knows_documents [DecidableEq κ] {s : Cloud κ} {labels : List (Action κ)}
    (run : exec step init labels = some s) (names : (s.created.map Creation.name).Nodup)
    (finished : EveryStep step DeliversFinished init labels) :
    s.KnowsDocuments ∧ ∀ c, ∀ m ∈ s.created,
      (s.devices c).messenger.chatIsExist m.name = true → s.DeletesChat c m := by
  have kept := exec_invariant_of_everyStep (I := fun s => Provenance s ∧ s.Finished)
    (fun s a t h guard hstep => ⟨h.1.step hstep, h.2.step h.1 guard hstep⟩)
    ⟨Provenance.init, fun c info listed => by cases listed⟩ finished run
  exact ⟨kept.2.knowsDocuments, fun c m hm => kept.2.deletesChat names hm⟩

/-- One device adds a chat; the other hears of it when all its writes have been
applied, and deletes it. -/
def heardFinished : List (Action Bool) :=
  [⟨true, .addChat "дом" ⟨0⟩ ⟨0⟩ 1 "r1" "c1"⟩, ⟨true, .applyWrite⟩, ⟨true, .applyWrite⟩,
   ⟨true, .applyWrite⟩, ⟨false, .setupObserverChats⟩, ⟨false, .raiseChange "c1"⟩,
   ⟨false, .runChange⟩]

theorem knows_documents_heardFinished : ∃ s, exec step init heardFinished = some s ∧
    s.KnowsDocuments ∧ ∃ m ∈ s.created, s.DeletesChat false m := by
  obtain ⟨s, run, names, m, hm, listed⟩ : ∃ s ∈ exec step init heardFinished,
      (s.created.map Creation.name).Nodup ∧ ∃ m ∈ s.created,
        (s.devices false).messenger.chatIsExist m.name = true := by decide +kernel
  have knows := knows_documents run names (by decide +kernel)
  exact ⟨s, run, knows.1, m, hm, knows.2 false m hm listed⟩

/-- A device that hears of the chat between its two versions keeps the placeholder. -/
theorem not_knows_documents :
    ¬ ∀ (labels : List (Action Bool)) (s : Cloud Bool), exec step init labels = some s →
      (s.created.map Creation.name).Nodup → s.Quiet → s.KnowsDocuments ∧
        ∀ c, ∀ m ∈ s.created, (s.devices c).messenger.chatIsExist m.name = true →
          s.DeletesChat c m := by
  intro always
  let heardEarly : List (Action Bool) :=
    [⟨true, .addChat "дом" ⟨0⟩ ⟨0⟩ 1 "r1" "c1"⟩, ⟨true, .applyWrite⟩, ⟨true, .applyWrite⟩,
     ⟨false, .setupObserverChats⟩, ⟨false, .raiseChange "c1"⟩, ⟨false, .runChange⟩,
     ⟨true, .applyWrite⟩, ⟨false, .raiseChange "c1"⟩, ⟨false, .runChange⟩]
  obtain ⟨s, run, names, still, info, listed, wrong⟩ : ∃ s ∈ exec step init heardEarly,
      (s.created.map Creation.name).Nodup ∧ s.Still ∧
        ∃ info ∈ (s.devices false).messenger.chatInformationArray,
          ∀ m ∈ s.created, info.firebaseID ≠ m.chatID := by decide +kernel
  have quiet := (Provenance.of_exec run).quiet_of_still still
  obtain ⟨m, hm, -, own⟩ := (always heardEarly s run names quiet).1 false info listed
  exact wrong m hm own

end Cloud

end OnMap
