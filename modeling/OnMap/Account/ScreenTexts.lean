/-
# The user's own texts on the account screen

Whose texts `Account` holds is a matter of the order of the replies, and photos play no part in
it. So a session is compared with the same session in which nobody has a photo; every step of
the one is a step of the other, and uploads of photos change nothing in it.

What holds of the texts of `Account` holds of the screen, as soon as no edit waits.
-/

import OnMap.Account.AccountViewController

namespace OnMap

open Transition

/-- A reply whose value is looked at through `f`. -/
def ServerReply.map {α β : Type} (f : α → β) : ServerReply α → ServerReply β
  | asked => asked
  | waiting value => waiting (f value)
  | arrived => arrived

namespace AccountSession

/-- The load of a photo that nobody has. -/
def withoutPhoto (load : DataLoad) : DataLoad :=
  { load with photo := load.photo.map fun _ => none }

/-- Nobody has a photo. -/
def withoutPhotos (s : AccountSession) : AccountSession :=
  { s with
    profiles := fun _ => none
    account := { s.account with image := none }
    loads := s.loads.map withoutPhoto }

variable {s t : AccountSession} {e : Event} {i : ℕ} {load : DataLoad}

theorem getElem?_withoutPhotos (here : s.loads[i]? = some load) :
    s.withoutPhotos.loads[i]? = some (withoutPhoto load) := by
  rw [withoutPhotos, List.getElem?_map, here]
  rfl

/-- A step with photos is the same step without photos. -/
theorem step_withoutPhotos (taken : s.step e = some t) :
    s.withoutPhotos.step e = some t.withoutPhotos := by
  cases e with
  | signIn | exit | setUserName | setUserSurname | setUserStatus =>
    obtain rfl := Option.some.inj taken
    rfl
  | loadData =>
    obtain rfl := Option.some.inj taken
    refine congrArg some ?_
    simp only [loadData, withoutPhotos, List.map_append, List.map_cons, List.map_nil]
    rfl
  | readPhoto i failed =>
    obtain ⟨load, here, taken⟩ := Option.bind_eq_some_iff.mp taken
    rw [readPhoto] at taken
    split at taken
    case h_2 => cases taken
    case h_1 asked =>
      obtain rfl := Option.some.inj taken
      rw [step, getElem?_withoutPhotos here, Option.bind_some, readPhoto]
      simp only [withoutPhoto, asked, ServerReply.map, withoutPhotos, ite_self]
      congr 2
      exact (Table.map_modify (by intro; rfl) s.loads i).symm
  | readRecord i cancelled =>
    obtain ⟨load, here, taken⟩ := Option.bind_eq_some_iff.mp taken
    rw [readRecord] at taken
    split at taken
    case h_2 => cases taken
    case h_1 asked =>
      obtain rfl := Option.some.inj taken
      rw [step, getElem?_withoutPhotos here, Option.bind_some, readRecord]
      simp only [withoutPhoto, asked, withoutPhotos]
      congr 2
      exact (Table.map_modify (by intro; rfl) s.loads i).symm
  | runPhoto i =>
    obtain ⟨load, here, taken⟩ := Option.bind_eq_some_iff.mp taken
    rw [runPhoto] at taken
    split at taken
    case h_2 => cases taken
    case h_1 photo waiting =>
      obtain rfl := Option.some.inj taken
      rw [step, getElem?_withoutPhotos here, Option.bind_some, runPhoto]
      simp only [withoutPhoto, waiting, ServerReply.map, withoutPhotos]
      congr 2
      · cases photo <;> rfl
      · exact (Table.map_modify (by intro; rfl) s.loads i).symm
  | runRecord i =>
    obtain ⟨load, here, taken⟩ := Option.bind_eq_some_iff.mp taken
    rw [runRecord] at taken
    split at taken
    case h_2 => cases taken
    case h_1 value waiting =>
      obtain rfl := Option.some.inj taken
      rw [step, getElem?_withoutPhotos here, Option.bind_some, runRecord]
      simp only [withoutPhoto, waiting, withoutPhotos]
      congr 2
      exact (Table.map_modify (by intro; rfl) s.loads i).symm

/-- The replies are in time as far as the texts are concerned. -/
def TextsInTime (s : AccountSession) : Event → Prop
  | .runPhoto _ => True
  | e => s.RepliesInTime e

instance (s : AccountSession) : DecidablePred s.TextsInTime
  | .runPhoto _ => isTrue trivial
  | .runRecord i => inferInstanceAs (Decidable (s.RepliesInTime (.runRecord i)))
  | .readRecord i cancelled =>
    inferInstanceAs (Decidable (s.RepliesInTime (.readRecord i cancelled)))
  | .setUserName .. | .setUserSurname .. | .setUserStatus _ =>
    inferInstanceAs (Decidable (s.Loaded ∧ _))
  | .signIn _ | .exit | .loadData | .readPhoto .. => isTrue trivial

theorem getLast?_withoutPhotos (s : AccountSession) :
    s.withoutPhotos.loads.getLast? = s.loads.getLast?.map withoutPhoto :=
  List.getLast?_map

theorem hasArrived_withoutPhoto (load : DataLoad) :
    (withoutPhoto load).photo.hasArrived = load.photo.hasArrived := by
  rw [withoutPhoto]
  cases load.photo <;> rfl

theorem Loaded.withoutPhotos (loaded : s.Loaded) : s.withoutPhotos.Loaded := by
  obtain ⟨load, last, photo, record⟩ := loaded
  refine ⟨withoutPhoto load, ?_, (hasArrived_withoutPhoto load).trans photo, record⟩
  rw [getLast?_withoutPhotos, Option.mem_def.mp last]
  rfl

/-- Without photos every reply of a photo is in time. -/
theorem TextsInTime.withoutPhotos (inTime : s.TextsInTime e) :
    s.withoutPhotos.RepliesInTime e := by
  have edited (edits : s.Loaded ∧
      ∀ load ∈ s.loads, load.userID = s.account.id → load.record.answer?.isNone = true) :
      s.withoutPhotos.Loaded ∧ ∀ load ∈ s.withoutPhotos.loads,
        load.userID = s.withoutPhotos.account.id → load.record.answer?.isNone = true := by
    refine ⟨edits.1.withoutPhotos, fun load mem own => ?_⟩
    obtain ⟨before, there, rfl⟩ := List.mem_map.mp mem
    exact edits.2 before there own
  cases e with
  | runPhoto i =>
    intro load here photo answer
    obtain ⟨before, -, rfl⟩ := Option.map_eq_some_iff.mp ((List.getElem?_map ..).symm.trans here)
    have missing : photo = none := by
      cases asked : before.photo with
      | asked | arrived =>
        simp [withoutPhoto, asked, ServerReply.map, ServerReply.answer?] at answer
      | waiting =>
        simpa [withoutPhoto, asked, ServerReply.map, ServerReply.answer?] using answer.symm
    subst missing
    exact fun _ => rfl
  | runRecord i =>
    intro load here value answer
    obtain ⟨before, there, rfl⟩ :=
      Option.map_eq_some_iff.mp ((List.getElem?_map ..).symm.trans here)
    rcases inTime before there value answer with own | ⟨latest, last, pending⟩
    · exact Or.inl own
    · refine Or.inr ⟨withoutPhoto latest, ?_, pending⟩
      rw [getLast?_withoutPhotos, Option.mem_def.mp last]
      rfl
  | setUserName | setUserSurname | setUserStatus => exact edited inTime
  | readRecord i cancelled =>
    intro fails last
    have own := inTime fails (last.trans (List.length_map ..))
    exact ⟨own.name, own.surname, own.status⟩
  | signIn | exit | loadData | readPhoto => trivial

theorem Faithful.step_withoutPhotos (h : s.withoutPhotos.Faithful) (inTime : s.TextsInTime e)
    (taken : s.step e = some t) : t.withoutPhotos.Faithful :=
  h.step inTime.withoutPhotos (AccountSession.step_withoutPhotos taken)

/-- Once the record of the latest call has arrived, the texts are the user's own. -/
theorem Faithful.text (h : s.withoutPhotos.Faithful)
    (arrived : ∃ load ∈ s.loads.getLast?, load.record.hasArrived = true) (field : AccountText) :
    s.account.text field = textAt (s.users s.account.id) field.key := by
  obtain ⟨load, last, record⟩ := arrived
  have here : s.loads[s.loads.length - 1]? = some load := List.getLast?_eq_getElem? ▸ last
  have bound : s.loads.length - 1 + 1 = s.withoutPhotos.loads.length := by
    have := (List.getElem?_eq_some_iff.mp here).1
    rw [withoutPhotos, List.length_map]
    omega
  have own := (h _ _ (getElem?_withoutPhotos here)).texts bound
    (ServerReply.hasArrived_iff.mp record)
  cases field with
  | name => exact own.name
  | surname => exact own.surname
  | status => exact own.status

end AccountSession

namespace AccountViewController

/-- The records are in time, and a block of an edit runs after the replies. -/
def InTime (s : AccountViewController) : Event → Prop
  | .session e => s.session.TextsInTime e
  | .runBlock _ => ∀ block ∈ s.blocks.head?, block.edits = true → s.session.Loaded ∧
    ∀ load ∈ s.session.loads, load.userID = s.session.account.id →
      load.record.answer?.isNone = true
  | _ => True

instance (s : AccountViewController) : DecidablePred s.InTime
  | .session e => inferInstanceAs (Decidable (s.session.TextsInTime e))
  | .runBlock _ => inferInstanceAs (Decidable (∀ block ∈ s.blocks.head?, block.edits = true → _))
  | .change .. | .cellForRow .. | .didFinishPicking _ | .putData .. | .runPutData _
  | .updatePhone .. | .updateEmail .. => isTrue trivial

/-- Once the record of the latest call has arrived, a text for which no edit waits is that of the
record of the user of the identifier, and so is the row of the table that has been drawn since
and is not to be drawn again. -/
def ShowsOwnTexts (s : AccountViewController) : Prop :=
  (∃ load ∈ s.session.loads.getLast?, load.record.hasArrived = true) →
    ∀ field, .setUser field ∉ s.blocks →
      s.texts field = textAt (s.session.users s.session.account.id) field.key ∧
        (s.reuse (.text field) = false → s.redraws (.text field) = false →
          (s.shown (.text field)).map RowContent.text =
            some (textAt (s.session.users s.session.account.id) field.key))

/-- The texts of the account are in order, and the screen follows them. -/
structure Follows (s : AccountViewController) : Prop extends s.Agrees where
  faithful : s.session.withoutPhotos.Faithful

variable {s t : AccountViewController} {e : Event}

theorem text_content (texts : AccountText → String) (phone email : String)
    (image : Option UIImage) (field : AccountText) :
    (AccountCell.content texts phone email image (.text field)).map RowContent.text =
      some (texts field) := by
  cases field <;> rfl

theorem Follows.showsOwnTexts (h : Follows s) : s.ShowsOwnTexts := by
  intro arrived field passed
  have own := (h.texts field passed).trans (h.faithful.text arrived field)
  refine ⟨own, fun drawn done => ?_⟩
  rw [h.rows _ drawn done, content, text_content, own]

theorem session_notified (s : AccountViewController) (session : AccountSession)
    (e : AccountSession.Event) : (s.notified session e).session = session := by
  cases e with
  | runPhoto =>
    rw [notified]
    split <;> rfl
  | _ => rfl

/-- What a block does to the account without photos. -/
theorem faithful_runBlock {block : AccountBlock} {now : Date}
    (faithful : s.session.withoutPhotos.Faithful)
    (inTime : block.edits = true → s.session.Loaded ∧
      ∀ load ∈ s.session.loads, load.userID = s.session.account.id →
        load.record.answer?.isNone = true) :
    (s.runBlock now block).session.withoutPhotos.Faithful := by
  cases block with
  | setUser field =>
    cases field with
    | name => exact faithful.step_withoutPhotos (e := .setUserName _ _) (inTime rfl) rfl
    | surname => exact faithful.step_withoutPhotos (e := .setUserSurname _ _) (inTime rfl) rfl
    | status => exact faithful.step_withoutPhotos (e := .setUserStatus _) (inTime rfl) rfl
  | loadData => exact faithful.step_withoutPhotos (e := .loadData) trivial rfl
  | reloadData | uploadPhoto => exact faithful

theorem Follows.step (h : Follows s) (inTime : s.InTime e) (taken : s.step e = some t) :
    Follows t := by
  refine ⟨h.toAgrees.step taken, ?_⟩
  have faithful := h.faithful
  cases e with
  | session e =>
    simp only [AccountViewController.step] at taken
    split at taken
    case isTrue => cases taken
    case isFalse =>
      obtain ⟨session, read, rfl⟩ := Option.map_eq_some_iff.mp taken
      rw [session_notified]
      exact faithful.step_withoutPhotos inTime read
  | runBlock now =>
    cases queue : s.blocks with
    | nil => simp [AccountViewController.step, queue] at taken
    | cons block rest =>
      simp only [AccountViewController.step, queue, Option.some.injEq] at taken
      subst taken
      exact faithful_runBlock faithful fun edits => inTime block (queue ▸ rfl) edits
  | cellForRow row dequeued =>
    rcases cellForRow_cases taken with ⟨-, content, -, rfl⟩ | ⟨-, rfl⟩
    all_goals exact faithful
  | putData i error =>
    obtain ⟨upload, -, taken⟩ := Option.bind_eq_some_iff.mp taken
    simp only [AccountViewController.putData] at taken
    split at taken
    · -- the photos are not looked at
      obtain rfl := Option.some.inj taken
      exact faithful
    · cases taken
  | runPutData i =>
    obtain ⟨upload, -, taken⟩ := Option.bind_eq_some_iff.mp taken
    simp only [AccountViewController.runPutData] at taken
    split at taken
    case h_2 => cases taken
    case h_1 =>
      split at taken
      all_goals
        obtain rfl := Option.some.inj taken
        exact faithful
  | change | didFinishPicking =>
    obtain rfl := Option.some.inj taken
    exact faithful
  | updatePhone | updateEmail =>
    obtain rfl := Option.some.inj taken
    intro i load here
    obtain ⟨photo, record, latest, image, texts⟩ := faithful i load here
    exact ⟨photo, record, latest, image, fun last arrived =>
      let own := texts last arrived
      ⟨own.name, own.surname, own.status⟩⟩

/-- A user signs in, both replies arrive, and the name is edited and drawn. -/
def editedOnce : List Event :=
  (AccountSession.signsIn "u" 0).map .session ++
    [.runBlock 0, .change .name "N", .runBlock 0, .cellForRow (.text .name) {}]

end AccountViewController

end OnMap
