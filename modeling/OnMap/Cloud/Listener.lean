/-
# The chats listener as a feed

The chats listener tells a device of the documents it sees, change by change. What
it has told is the presence of documents; a write of the device itself is told of at
once. Whoever keeps a listing by these changes keeps it under every call on the SDK.
-/

import OnMap.Library.Feed
import OnMap.Cloud.Listing

namespace OnMap

open Overlay Feed

namespace DocumentChange

/-- What a change tells about the presence of a document. -/
def word : DocumentChange → String → Option Bool
  | added documentID _, chatID => if documentID = chatID then some true else none
  | modified _ _, _ => none
  | removed documentID _, chatID => if documentID = chatID then some false else none

variable {change : DocumentChange} {chatID : String} {data : Dictionary}

theorem word_of_ne (apart : change.documentID ≠ chatID) : change.word chatID = none := by
  cases change with
  | modified => rfl
  | added | removed => exact if_neg apart

@[simp] theorem word_added_eq_some {other : String} {b : Bool} :
    (added chatID data).word other = some b ↔ chatID = other ∧ true = b := by
  simp only [word, Option.ite_none_right_eq_some, Option.some.injEq]

@[simp] theorem word_removed_eq_some {other : String} {b : Bool} :
    (removed chatID data).word other = some b ↔ chatID = other ∧ false = b := by
  simp only [word, Option.ite_none_right_eq_some, Option.some.injEq]

end DocumentChange

namespace Device

/-- The chats listener has been told that the document is there. -/
def tells (d : Device) (chatID : String) : Bool :=
  (d.reported.bind fun reported => reported chatID).isSome

section Raise

variable {documents : Documents} {d : Device}

theorem raise_tells_self (listening : d.reported.isSome = true) (chatID : String) :
    (d.raise documents chatID).tells chatID = (d.view documents ⟨.chats, chatID⟩).isSome := by
  obtain ⟨reported, listening⟩ := Option.isSome_iff_exists.mp listening
  rcases @raise_of_reported_some documents d chatID reported listening with
    ⟨missing, gone, quiet⟩ | ⟨change, -, loud⟩
  · rw [quiet, gone, tells, listening, Option.bind_some, missing]
  · rw [loud, tells, Option.bind_some, Function.update_self]

theorem raise_reported_isSome (documents : Documents) (d : Device) (chatID : String) :
    (d.raise documents chatID).reported.isSome = d.reported.isSome := by
  cases listening : d.reported with
  | none => rw [raise_of_reported_none listening, listening]
  | some reported =>
    rcases @raise_of_reported_some documents d chatID reported listening with
      ⟨-, -, quiet⟩ | ⟨change, -, loud⟩
    · rw [quiet, listening]
    · rw [loud]
      rfl

/-- Raising a document tells nothing, or one change that turns what was told before
into what is told now. -/
theorem raise_changes (documents : Documents) (d : Device) (chatID : String) :
    (d.raise documents chatID = d) ∨
      ∃ change, (d.raise documents chatID).changes = d.changes ++ [change] ∧
        ∀ other, (d.raise documents chatID).tells other =
          (change.word other).getD (d.tells other) := by
  cases listening : d.reported with
  | none => exact Or.inl (raise_of_reported_none listening)
  | some reported =>
    rcases @raise_of_reported_some documents d chatID reported listening with
      ⟨-, -, quiet⟩ | ⟨change, hchange, loud⟩
    · exact Or.inl quiet
    · refine Or.inr ⟨change, by rw [loud], fun other => ?_⟩
      obtain ⟨here, -⟩ := changeOf_eq_some hchange
      by_cases same : other = chatID
      · -- the change's word is whether the document is there now
        subst same
        rw [raise_tells_self (by rw [listening]; rfl), tells, listening, Option.bind_some]
        cases before : reported other <;> cases now : d.view documents ⟨.chats, other⟩ <;>
          simp only [before, now, changeOf, reduceCtorEq, Option.some.injEq] at hchange <;>
          subst hchange <;> simp [DocumentChange.word]
      · have silent := DocumentChange.word_of_ne (here.trans_ne (Ne.symm same))
        rw [silent, Option.getD_none, loud, tells, tells, listening, Option.bind_some,
          Option.bind_some, Function.update_of_ne same]

/-- What has been told of other documents stays. -/
theorem raise_tells_of_ne (documents : Documents) (d : Device) {chatID other : String}
    (apart : other ≠ chatID) : (d.raise documents chatID).tells other = d.tells other := by
  cases listening : d.reported with
  | none => rw [raise_of_reported_none listening]
  | some reported =>
    rcases @raise_of_reported_some documents d chatID reported listening with
      ⟨-, -, quiet⟩ | ⟨change, -, loud⟩
    · rw [quiet]
    · rw [loud, tells, tells, listening, Option.bind_some, Option.bind_some,
        Function.update_of_ne apart]

end Raise

section Feeds

variable {documents : Documents} {d : Device} {listed : String → Prop}

/-- A listing follows the feed of the device's chats listener. -/
abbrev Feeds (d : Device) (listed : String → Prop) : Prop :=
  Tracks DocumentChange.word d.tells d.changes listed

theorem Feeds.raise (h : d.Feeds listed) (documents : Documents) (chatID : String) :
    (d.raise documents chatID).Feeds listed := by
  rcases raise_changes documents d chatID with same | ⟨change, added, turns⟩
  · rwa [same]
  · rw [Feeds, added]
    exact h.tell turns

/-- Calls on the SDK feed the listener, unless they set it up. -/
theorem Feeds.perform (h : d.Feeds listed) (documents : Documents) (call : FirestoreCall)
    (quiet : ∀ collection, call ≠ .addCollectionListener collection) :
    (d.perform documents call).Feeds listed := by
  cases call with
  | write w =>
    rw [Device.perform]
    cases w.path.collection with
    | chats => exact Feeds.raise (d := { d with pending := d.pending ++ [w] }) h documents _
    | rooms => exact h
  | addCollectionListener collection => exact absurd rfl (quiet collection)
  | _ => exact h

theorem Feeds.performAll (documents : Documents) {calls : List FirestoreCall}
    (h : d.Feeds listed) (quiet : ∀ collection, .addCollectionListener collection ∉ calls) :
    (calls.foldl (Device.perform documents) d).Feeds listed := by
  -- over the calls, each of which may tell one more change
  induction calls generalizing d with
  | nil => exact h
  | cons call rest ih =>
    refine ih (h.perform documents call fun collection same => ?_) fun collection listening => ?_
    · exact quiet collection (same ▸ List.mem_cons_self)
    · exact quiet collection (List.mem_cons_of_mem _ listening)

theorem Feeds.call (h : d.Feeds listed) (documents : Documents)
    {result : FirestoreMessenger × List FirestoreCall}
    (quiet : ∀ collection, .addCollectionListener collection ∉ result.2) :
    (d.call documents result).Feeds listed :=
  Feeds.performAll (d := { d with messenger := result.1 }) documents h quiet

/-- A local write to a chats document is told at once. -/
theorem perform_write_tells (documents : Documents) (listening : d.reported.isSome = true)
    {w : DocumentWrite} {chatID : String} (path : w.path = ⟨.chats, chatID⟩) :
    (d.perform documents (.write w)).tells chatID = w.data.isSome := by
  let queued : Device := { d with pending := d.pending ++ [w] }
  have seen : queued.view documents w.path = w.data := by
    rw [view, List.map_append, List.map_singleton, overlay_concat]
    exact w.toWrite.apply_key _
  -- the write is the last of the queue, so the view shows it
  have raised : d.perform documents (.write w) = queued.raise documents chatID := by
    rw [perform, path]
  rw [raised, raise_tells_self (d := queued) listening, ← path, seen]

theorem perform_write_reported (documents : Documents) (d : Device) (w : DocumentWrite) :
    (d.perform documents (.write w)).reported.isSome = d.reported.isSome := by
  rw [perform]
  cases w.path.collection with
  | chats => exact raise_reported_isSome documents _ _
  | rooms => rfl

/-- A local write tells nothing of other documents. -/
theorem perform_write_tells_of_ne (documents : Documents) (d : Device) {w : DocumentWrite}
    {other : String} (apart : w.path ≠ ⟨.chats, other⟩) :
    (d.perform documents (.write w)).tells other = d.tells other := by
  obtain ⟨⟨collection, id⟩, path⟩ : ∃ path, w.path = path := ⟨_, rfl⟩
  rw [perform, path]
  cases collection with
  | chats => exact raise_tells_of_ne documents _ fun same => apart (by rw [path, same])
  | rooms => rfl

theorem reported_of_tells {chatID : String} (told : d.tells chatID = true) :
    d.reported.isSome = true := by
  cases listening : d.reported with
  | none =>
    rw [tells, listening] at told
    cases told
  | some reported => rfl

/-- The two deletions of `deleteChat` are told of the one document. -/
theorem deleteChat_tells (documents : Documents) (d : Device) (chatID chatLink other : String) :
    ([FirestoreCall.write (.delete ⟨.chats, chatID⟩), .write (.delete ⟨.rooms, chatLink⟩)].foldl
      (perform documents) d).tells other = (d.tells other && other != chatID) := by
  have room_silent (d : Device) :
      (d.perform documents (.write (.delete ⟨.rooms, chatLink⟩))).tells other = d.tells other :=
    perform_write_tells_of_ne documents d nofun
  rw [List.foldl_cons, List.foldl_cons, List.foldl_nil, room_silent]
  by_cases same : other = chatID
  · -- a device that is not listening has been told of nothing anyway
    subst same
    rw [bne_self_eq_false, Bool.and_false]
    refine Bool.eq_false_iff.mpr fun told => ?_
    have listening := reported_of_tells told
    rw [perform_write_reported] at listening
    rw [perform_write_tells documents listening rfl] at told
    cases told
  · rw [perform_write_tells_of_ne documents d fun path => same (DocumentPath.mk.inj path).2.symm,
      bne_iff_ne.mpr same, Bool.and_true]

/-- Calls on the SDK add changes to those that wait. -/
theorem perform_announces {chatID : String} {b : Bool} (documents : Documents)
    (soon : Announces DocumentChange.word d.changes chatID b) (call : FirestoreCall) :
    Announces DocumentChange.word (d.perform documents call).changes chatID b := by
  cases call with
  | write w =>
    rw [perform]
    cases w.path.collection with
    | rooms => exact soon
    | chats =>
      rcases raise_changes documents { d with pending := d.pending ++ [w] } w.path.documentID with
        same | ⟨change, added, -⟩
      · rwa [same]
      · rw [added]
        exact soon.concat change
  | _ => exact soon

theorem call_announces {chatID : String} {b : Bool} (documents : Documents)
    (soon : Announces DocumentChange.word d.changes chatID b)
    (result : FirestoreMessenger × List FirestoreCall) :
    Announces DocumentChange.word (d.call documents result).changes chatID b := by
  rw [call]
  have start : Announces DocumentChange.word
    ({ d with messenger := result.1 } : Device).changes chatID b := soon
  generalize ({ d with messenger := result.1 } : Device) = d' at start ⊢
  induction result.2 generalizing d' with
  | nil => exact start
  | cons call rest ih => exact ih _ (perform_announces documents start call)

end Feeds

end Device

end OnMap
