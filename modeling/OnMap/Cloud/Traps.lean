/-
# Where the messenger traps

An event can happen when what it moves is there; then its closure or its method runs. The
closure of the chats listener forces the decoding of every new document, and the index
loop of `deleteChat` runs past the end of the list. What is stored was encoded by this
program, so the first never fails, however the devices interleave; the second fails exactly
for a name that the list does not have.
-/

import OnMap.Cloud.Listing

namespace OnMap

open Transition

namespace Device

/-- What the event moves, calls or answers is there. -/
def Possible (documents : Documents) (chatIDs : List String) (d : Device) : Event → Prop
  | .setupObserverChats => d.reported.isSome = false
  | .applyWrite => d.pending ≠ []
  | .answerRoom index => index < d.gets.length
  | .answerChats order => 0 < d.queries ∧
      order.Perm (chatIDs.filter fun chatID => (d.view documents ⟨.chats, chatID⟩).isSome)
  | .failChats => 0 < d.queries
  | .raiseRoom index => index < d.registrations.length
  | .runRoom index => index < d.roomCallbacks.length
  | .runChats index => index < d.chatsReplies.length
  | .runChange => d.changes ≠ []
  | _ => True

/-- The next change of the chats listener can be decoded if it is an added document. -/
def Decodes (d : Device) : Prop :=
  ∀ chatID data rest, d.changes = .added chatID data :: rest →
    (ChatInfo.ofDictonary data).isSome = true

variable {documents : Documents} {chatIDs : List String} {d : Device} {event : Event}

/-- What is looked up is there or not. -/
private theorem lookup_cases {β : Type} (items : List β) (index : ℕ) :
    ¬ index < items.length ∧ items[index]? = none ∨
      index < items.length ∧ ∃ item, items[index]? = some item := by
  by_cases inside : index < items.length
  · exact Or.inr ⟨inside, _, List.getElem?_eq_getElem inside⟩
  · exact Or.inl ⟨inside, List.getElem?_eq_none_iff.mpr (Nat.le_of_not_lt inside)⟩

theorem deleteChat_isSome_iff {m : FirestoreMessenger} {name : String} :
    (m.deleteChat name).isSome = true ↔ m.chatIsExist name = true := by
  rw [Option.isSome_iff_exists, FirestoreMessenger.chatIsExist_iff_find?]
  constructor
  · rintro ⟨result, deleted⟩
    obtain ⟨info, found, -⟩ := FirestoreMessenger.deleteChat_eq_some_iff.mp deleted
    exact ⟨info, found⟩
  · rintro ⟨info, found⟩
    exact ⟨_, FirestoreMessenger.deleteChat_eq_some_iff.mpr ⟨info, found, rfl⟩⟩

/-- The closure of the chats listener runs through if the change decodes. -/
theorem runChange_isSome_iff (decodes : d.Decodes) :
    (d.step documents chatIDs .runChange).isSome = true ↔ d.changes ≠ [] := by
  cases queue : d.changes with
  | nil => simp [step, queue]
  | cons change rest =>
    refine iff_of_true ?_ (List.cons_ne_nil _ _)
    rw [step, queue, Option.isSome_map]
    cases change with
    | added chatID data =>
      obtain ⟨info, decoded⟩ := Option.isSome_iff_exists.mp (decodes chatID data rest queue)
      rw [FirestoreMessenger.handleChatsChange, decoded]
      rfl
    | modified | removed => rfl

/-- What can happen runs through, `deleteChat` only with a name of the list. -/
theorem step_isSome_iff (decodes : d.Decodes) :
    (d.step documents chatIDs event).isSome = true ↔ d.Possible documents chatIDs event ∧
      ∀ name, event = .deleteChat name → d.messenger.chatIsExist name = true := by
  cases event with
  | deleteChat name =>
    rw [step, Option.isSome_map, deleteChat_isSome_iff]
    simp [Possible]
  | runChange => simpa [Possible] using runChange_isSome_iff decodes
  | applyWrite => cases queue : d.pending <;> simp [step, Possible, queue]
  | answerRoom index =>
    rcases lookup_cases d.gets index with ⟨absent, none⟩ | ⟨inside, item, some⟩ <;>
      simp [step, Possible, *]
  | raiseRoom index =>
    rcases lookup_cases d.registrations index with ⟨absent, none⟩ | ⟨inside, item, some⟩ <;>
      simp [step, Possible, *]
  | runRoom index =>
    rcases lookup_cases d.roomCallbacks index with ⟨absent, none⟩ | ⟨inside, item, some⟩ <;>
      simp [step, Possible, *]
  | runChats index =>
    rcases lookup_cases d.chatsReplies index with ⟨absent, none⟩ | ⟨inside, item, some⟩ <;>
      simp [step, Possible, *]
  | answerChats | failChats | setupObserverChats => simp [step, Possible]
  | _ => simp [step, Possible]

end Device

namespace Cloud

variable {κ : Type} [DecidableEq κ] {s : Cloud κ} {a : Action κ}

/-- The event can happen, and the program stops in it. -/
def Traps (s : Cloud κ) (a : Action κ) : Prop :=
  s.Fresh a.event ∧
    (s.devices a.client).Possible s.documents (s.created.map Creation.chatID) a.event ∧
    s.step a = none

end Cloud

open Cloud

/-- What waits for the chats listener was encoded by some `addChat`. -/
theorem Provenance.decodes {κ : Type} {s : Cloud κ} (h : Provenance s) (c : κ) :
    (s.devices c).Decodes := by
  intro chatID data rest queue
  obtain ⟨-, -, -, info, -, stored, -⟩ :=
    (h.data.devices c).changes (.added chatID data) (queue ▸ List.mem_cons_self)
  obtain rfl : data = info.stored := stored
  exact congrArg Option.isSome (ChatInfo.ofDictonary_stored info)

namespace Cloud

variable {κ : Type} [DecidableEq κ] {s : Cloud κ} {a : Action κ}

theorem traps_iff_of_provenance (origins : Provenance s) :
    s.Traps a ↔ ∃ name, a.event = .deleteChat name ∧
      (s.devices a.client).messenger.chatIsExist name = false := by
  have passes := @Device.step_isSome_iff s.documents (s.created.map Creation.chatID)
    (s.devices a.client) a.event (origins.decodes a.client)
  rw [Traps, step]
  constructor
  · rintro ⟨fresh, possible, stopped⟩
    rw [if_pos fresh, Option.map_eq_none_iff, ← Option.not_isSome_iff_eq_none, passes] at stopped
    by_contra none
    refine stopped ⟨possible, fun name event => ?_⟩
    cases listed : (s.devices a.client).messenger.chatIsExist name with
    | true => rfl
    | false => exact absurd ⟨name, event, listed⟩ none
  · rintro ⟨name, event, unlisted⟩
    rw [event] at passes ⊢
    have fresh : s.Fresh (.deleteChat name) := by
      intro ids new
      cases new
    refine ⟨fresh, trivial, ?_⟩
    rw [if_pos fresh, Option.map_eq_none_iff, ← Option.not_isSome_iff_eq_none, passes]
    rintro ⟨-, listed⟩
    exact Bool.false_ne_true (unlisted.symm.trans (listed name rfl))

/-- In every run of any number of devices, the program stops exactly where `deleteChat` is
called with a name that the device does not list. -/
theorem traps_iff (labels : List (Action κ)) :
    EveryStep step (fun s a => s.Traps a ↔ ∃ name, a.event = .deleteChat name ∧
      (s.devices a.client).messenger.chatIsExist name = false) init labels :=
  EveryStep.of_invariant (I := Provenance) (G := fun _ _ => True)
    (fun _ _ _ h _ hstep => h.step hstep) (fun _ _ h _ => traps_iff_of_provenance h)
    Provenance.init (EveryStep.of_forall_mem fun _ _ => trivial)

end Cloud

end OnMap
