/-
# Edits on the account screen

The block of an edit reads the variable when it runs, so a record that arrives in between
replaces the text that was entered. A photo that is to be uploaded waits in the variable `image`
in the same way, which is also where a row of the table puts the photo that it shows.
-/

import OnMap.Account.AccountViewController

namespace OnMap

open Transition

namespace AccountViewController

/-- What is recorded about a run: the text entered last in each field, and the photos picked. -/
structure Log where
  entered : AccountText → Option String := fun _ => none
  picked : List UIImage := []

def note (_ : AccountViewController) (e : Event) (log : Log) : Log :=
  match e with
  | .change field entered =>
    { log with entered := Function.update log.entered field (some entered) }
  | .didFinishPicking image => { log with picked := log.picked ++ [image] }
  | _ => log

/-- No record arrives while an edit waits, and no photo is drawn while a photo waits. -/
def Undisturbed (s : AccountViewController) : Event → Prop
  | .session (.runRecord _) => ∀ block ∈ s.blocks, block.edits = false
  | .cellForRow row _ => row.hasPhoto = true → .uploadPhoto ∉ s.blocks
  | _ => True

instance (s : AccountViewController) : DecidablePred s.Undisturbed
  | .session (.runRecord _) =>
    inferInstanceAs (Decidable (∀ block ∈ s.blocks, block.edits = false))
  | .cellForRow row _ => inferInstanceAs (Decidable (row.hasPhoto = true → .uploadPhoto ∉ s.blocks))
  | .session (.signIn _) | .session .exit | .session .loadData | .session (.readPhoto ..)
  | .session (.readRecord ..) | .session (.runPhoto _) | .session (.setUserName ..)
  | .session (.setUserSurname ..) | .session (.setUserStatus _) | .change .. | .runBlock _
  | .didFinishPicking _ | .putData .. | .runPutData _ | .updatePhone .. | .updateEmail .. =>
    isTrue trivial

/-- The block of an edit passes on the text that was entered last, to `Account` and to the record
of its user; the block of a photo uploads the photo that was picked last; and the server stores
no other photos. -/
def WritesEntered (sm : AccountViewController × Log) : Event → Prop
  | .runBlock now => ∀ t, sm.1.step (.runBlock now) = some t →
    (∀ field, sm.1.blocks.head? = some (.setUser field) → ∃ entered,
      sm.2.entered field = some entered ∧ t.session.account.text field = entered ∧
        textAt (t.session.users t.session.account.id) field.key = entered) ∧
    (sm.1.blocks.head? = some .uploadPhoto → ∃ image, sm.2.picked.getLast? = some image ∧
      t.uploads = sm.1.uploads ++ [⟨sm.1.uid, image, .asked⟩])
  | .putData i none => ∀ upload ∈ sm.1.uploads[i]?, upload.image ∈ sm.2.picked
  | _ => True

/-- What waits is what was entered and picked last. -/
structure Carries (sm : AccountViewController × Log) : Prop where
  entered (field : AccountText) : .setUser field ∈ sm.1.blocks →
    sm.2.entered field = some (sm.1.texts field)
  picked : .uploadPhoto ∈ sm.1.blocks → sm.2.picked.getLast? = some sm.1.image
  uploads : ∀ upload ∈ sm.1.uploads, upload.image ∈ sm.2.picked

section Writes

variable {s t : AccountViewController} {e : Event} {log : Log}

theorem textAt_setUser (s : AccountSession) (entered : String) (now : Date) (field : AccountText) :
    textAt ((s.setUser entered now field).users (s.setUser entered now field).account.id)
      field.key = entered := by
  cases field <;> simp [AccountSession.setUser, AccountSession.setUserName,
    AccountSession.setUserSurname, AccountSession.setUserStatus, AccountSession.updateUser,
    AccountText.key, textAt_updateChildValues_of_lookup]

/-- A reply leaves the photo of an upload. -/
theorem image_replied {uploads : List PhotoUpload} {i : ℕ} (reply : ServerReply (Option String)) :
    ∀ upload ∈ uploads.modify i ({ · with reply := reply }),
      ∃ before ∈ uploads, before.image = upload.image := by
  intro upload mem
  obtain ⟨j, there⟩ := List.mem_iff_getElem?.mp mem
  rw [List.getElem?_modify] at there
  obtain ⟨before, here, rfl⟩ := Option.map_eq_some_iff.mp there
  refine ⟨before, List.mem_of_getElem? here, ?_⟩
  split <;> rfl

/-- A step that leaves the variables, and puts no edit or photo on the queue. -/
theorem Carries.congr (h : Carries (s, log)) (texts : t.texts = s.texts) (image : t.image = s.image)
    (uploads : ∀ upload ∈ t.uploads, ∃ before ∈ s.uploads, before.image = upload.image)
    (blocks : ∀ block ∈ t.blocks, block ∈ s.blocks ∨ block = .reloadData ∨ block = .loadData) :
    Carries (t, log) where
  entered field waits := by
    have before := (blocks _ waits).resolve_right (by simp)
    exact (h.entered field before).trans (congrArg _ (congrFun texts field).symm)
  picked waits := by
    have before := (blocks _ waits).resolve_right (by simp)
    exact (h.picked before).trans (congrArg _ image.symm)
  uploads upload mem := by
    obtain ⟨before, there, same⟩ := uploads upload mem
    exact same ▸ h.uploads before there

/-- Nothing waits that a change of the variables could replace. -/
theorem Carries.setFields (h : Carries (s, log)) (session : AccountSession)
    (undisturbed : ∀ block ∈ s.blocks, block.edits = false) :
    Carries ({ s with session := session }.setFields, log) where
  entered field waits := by
    rcases List.mem_append.mp waits with before | now
    · cases undisturbed _ before
    · cases List.mem_singleton.mp now
  picked waits := h.picked ((List.mem_append.mp waits).resolve_right (by simp))
  uploads := h.uploads

theorem Carries.notified (h : Carries (s, log)) {e : AccountSession.Event}
    (session : AccountSession) (undisturbed : s.Undisturbed (.session e)) :
    Carries (s.notified session e, log) := by
  have reloaded (u : AccountViewController) (same : u.blocks = s.blocks ++ [.reloadData]) :
      ∀ block ∈ u.blocks, block ∈ s.blocks ∨ block = .reloadData ∨ block = .loadData := by
    intro block mem
    rw [same] at mem
    exact (List.mem_append.mp mem).imp id fun last => Or.inl (List.mem_singleton.mp last)
  have quiet : Carries ({ s with session := session }, log) := ⟨h.entered, h.picked, h.uploads⟩
  cases e with
  | runRecord => exact h.setFields session undisturbed
  | runPhoto load =>
    simp only [AccountViewController.notified]
    split
    · exact h.congr rfl rfl (fun upload mem => ⟨upload, mem, rfl⟩) (reloaded _ rfl)
    · exact quiet
  | signIn | exit | loadData | readPhoto | readRecord | setUserName | setUserSurname
  | setUserStatus => exact quiet

theorem Carries.change (h : Carries (s, log)) (field : AccountText) (entered : String) :
    Carries (s.change field entered, note s (.change field entered) log) where
  entered other waits := by
    change Function.update log.entered field (some entered) other =
      some (Function.update s.texts field entered other)
    by_cases same : other = field
    · subst same
      rw [Function.update_self, Function.update_self]
    · rw [Function.update_of_ne same, Function.update_of_ne same]
      refine h.entered other ?_
      rcases List.mem_append.mp waits with first | last
      · rcases List.mem_append.mp first with before | now
        · exact before
        · exact absurd (AccountBlock.setUser.inj (List.mem_singleton.mp now)) same
      · cases List.mem_singleton.mp last
  picked waits := by
    refine h.picked ?_
    rcases List.mem_append.mp waits with first | last
    · exact (List.mem_append.mp first).resolve_right (by simp)
    · cases List.mem_singleton.mp last
  uploads := h.uploads

theorem Carries.didFinishPicking (h : Carries (s, log)) (image : UIImage) :
    Carries ({ s with image := image }.dispatch .uploadPhoto,
      note s (.didFinishPicking image) log) where
  entered field waits := h.entered field ((List.mem_append.mp waits).resolve_right (by simp))
  picked _ := List.getLast?_concat
  uploads upload mem := List.mem_append_left _ (h.uploads upload mem)

theorem Carries.runBlock (h : Carries (s, log)) {block : AccountBlock} {rest : List AccountBlock}
    (queue : s.blocks = block :: rest) (now : Date) :
    Carries ({ s with blocks := rest }.runBlock now block, log) := by
  have later {other : AccountBlock} (mem : other ∈ rest) : other ∈ s.blocks :=
    queue ▸ List.mem_cons_of_mem _ mem
  cases block with
  | setUser | reloadData | loadData =>
    exact h.congr rfl rfl (fun upload mem => ⟨upload, mem, rfl⟩) fun _ mem => Or.inl (later mem)
  | uploadPhoto =>
    refine ⟨fun field waits => h.entered field (later waits), fun waits => h.picked (later waits),
      fun upload mem => ?_⟩
    rcases List.mem_append.mp mem with before | last
    · exact h.uploads upload before
    · obtain rfl := List.mem_singleton.mp last
      exact List.mem_of_getLast? (h.picked (queue ▸ List.mem_cons_self))

theorem Carries.step (h : Carries (s, log)) (undisturbed : s.Undisturbed e)
    (taken : s.step e = some t) : Carries (t, note s e log) := by
  cases e with
  | session e =>
    simp only [AccountViewController.step] at taken
    split at taken
    case isTrue => cases taken
    case isFalse =>
      obtain ⟨session, -, rfl⟩ := Option.map_eq_some_iff.mp taken
      exact h.notified session undisturbed
  | change field entered =>
    obtain rfl := Option.some.inj taken
    exact h.change field entered
  | runBlock now =>
    cases queue : s.blocks with
    | nil => simp [AccountViewController.step, queue] at taken
    | cons block rest =>
      simp only [AccountViewController.step, queue, Option.some.injEq] at taken
      exact taken ▸ h.runBlock queue now
  | cellForRow row dequeued =>
    rcases cellForRow_cases taken with ⟨-, content, drawn, rfl⟩ | ⟨-, rfl⟩
    · refine ⟨h.entered, fun waits => ?_, h.uploads⟩
      -- a row without the photo leaves the variable
      have plain : content.photo = none := by
        have bare : row.hasPhoto = false := by
          by_contra photo
          exact undisturbed (Bool.not_eq_false _ ▸ photo) waits
        exact photo_content bare drawn
      refine (h.picked waits).trans (congrArg some ?_)
      change s.image = content.photo.getD s.image
      rw [plain, Option.getD_none]
    · exact ⟨h.entered, h.picked, h.uploads⟩
  | didFinishPicking image =>
    obtain rfl := Option.some.inj taken
    exact h.didFinishPicking image
  | putData i error =>
    obtain ⟨upload, -, taken⟩ := Option.bind_eq_some_iff.mp taken
    simp only [AccountViewController.putData] at taken
    split at taken
    · obtain rfl := Option.some.inj taken
      exact h.congr rfl rfl (image_replied _) fun _ mem => Or.inl mem
    · cases taken
  | runPutData i =>
    obtain ⟨upload, -, taken⟩ := Option.bind_eq_some_iff.mp taken
    simp only [AccountViewController.runPutData] at taken
    split at taken
    case h_2 => cases taken
    case h_1 =>
      split at taken
      · obtain rfl := Option.some.inj taken
        refine h.congr rfl rfl (image_replied _) fun block mem => ?_
        exact (List.mem_append.mp mem).imp id fun last => Or.inr (List.mem_singleton.mp last)
      · obtain rfl := Option.some.inj taken
        exact h.congr rfl rfl (image_replied _) fun _ mem => Or.inl mem
  | updatePhone | updateEmail =>
    obtain rfl := Option.some.inj taken
    refine h.congr rfl rfl (fun upload mem => ⟨upload, mem, rfl⟩) fun block mem => ?_
    exact (List.mem_append.mp mem).imp id fun last => Or.inl (List.mem_singleton.mp last)

theorem Carries.writesEntered (h : Carries (s, log)) : WritesEntered (s, log) e := by
  cases e with
  | runBlock now =>
    intro t taken
    cases queue : s.blocks with
    | nil => simp [AccountViewController.step, queue] at taken
    | cons block rest =>
      simp only [AccountViewController.step, queue, Option.some.injEq] at taken
      subst taken
      refine ⟨fun field first => ?_, fun first => ?_⟩
      · obtain rfl := Option.some.inj first
        refine ⟨s.texts field, h.entered field (queue ▸ List.mem_cons_self), ?_, textAt_setUser ..⟩
        exact (text_setUser ..).trans (if_pos rfl)
      · obtain rfl := Option.some.inj first
        exact ⟨s.image, h.picked (queue ▸ List.mem_cons_self), rfl⟩
  | putData i error =>
    cases error with
    | some => trivial
    | none => exact fun upload here => h.uploads upload (List.mem_of_getElem? here)
  | session | change | cellForRow | didFinishPicking | runPutData | updatePhone | updateEmail =>
    trivial

end Writes

/-- In every run of the account screen in which no record arrives while an edit waits, and no row
with the photo is drawn while a photo waits to be uploaded: each edit passes on the text that was
entered last, to `Account` and to the record of its user, the photo picked last is uploaded, and
the server stores only photos that were picked. -/
theorem writes_entered {session : AccountSession} {events : List Event}
    (undisturbed : EveryStep (watch step note) (fun sm e => sm.1.Undisturbed e)
      (viewDidLoad session, {}) events) :
    EveryStep (watch step note) WritesEntered (viewDidLoad session, {}) events := by
  have start : Carries (viewDidLoad session, {}) := ⟨fun _ => nofun, nofun, nofun⟩
  refine EveryStep.of_invariant (I := Carries) (G := fun sm e => sm.1.Undisturbed e)
    (watch_kept_of_guard ?_) ?_ start undisturbed
  · intro s log e t h quiet taken
    exact h.step quiet taken
  · rintro ⟨s, log⟩ e h -
    exact h.writesEntered

/-- A user without a record signs in. -/
def signedIn : AccountSession :=
  { users := fun _ => none, profiles := fun _ => none, currentUser := some ⟨"u", none, none⟩,
    currentuserID := "u" }

/-- The record arrives, and then the name is edited twice. -/
def editedAfterwards : List Event :=
  [.session .loadData, .session (.readRecord 0 false), .session (.runRecord 0), .runBlock 0,
   .cellForRow (.text .name) {}, .change .name "N", .change .name "M"]

theorem writes_entered_editedAfterwards : ∃ sm : AccountViewController × Log,
    exec (watch step note) (viewDidLoad signedIn, {}) editedAfterwards = some sm ∧
      sm.1.blocks.head? = some (.setUser .name) ∧ sm.2.entered .name = some "M" ∧
        WritesEntered sm (.runBlock 0) := by
  have reached : (exec (watch step note) (viewDidLoad signedIn, {}) editedAfterwards).map
      (fun sm => (sm.1.blocks.head?, sm.2.entered .name)) =
      some (some (.setUser .name), some "M") := by decide +kernel
  have quiet : EveryStep (watch step note) (fun sm e => sm.1.Undisturbed e)
      (viewDidLoad signedIn, {}) (editedAfterwards ++ [.runBlock 0]) := by decide +kernel
  obtain ⟨sm, run, values⟩ := Option.map_eq_some_iff.mp reached
  obtain ⟨first, entered⟩ := Prod.mk.inj values
  exact ⟨sm, run, first, entered, (writes_entered quiet).of_append run⟩

/-- The record arrives between the edit and its block. -/
def editedBefore : List Event :=
  [.session .loadData, .session (.readRecord 0 false), .change .name "N", .session (.runRecord 0)]

/-- The edit is lost then: what the record had is written back. -/
theorem not_always_writes_entered : ¬ ∀ events,
    EveryStep (watch step note) WritesEntered (viewDidLoad signedIn, {}) events := by
  intro always
  have reached : (exec (watch step note) (viewDidLoad signedIn, {}) editedBefore).bind
      (fun sm => (sm.1.step (.runBlock 0)).map fun t =>
        ((sm.1.blocks.head?, sm.2.entered .name), t.session.account.name)) =
      some ((some (.setUser .name), some "N"), "") := by decide +kernel
  obtain ⟨sm, run, last⟩ := Option.bind_eq_some_iff.mp reached
  obtain ⟨t, taken, values⟩ := Option.map_eq_some_iff.mp last
  simp only [Prod.mk.injEq] at values
  obtain ⟨⟨first, entered⟩, written⟩ := values
  have writes := (always (editedBefore ++ [.runBlock 0])).of_append run t taken
  obtain ⟨text, same, passed, -⟩ := writes.1 .name first
  obtain rfl := Option.some.inj (entered.symm.trans same)
  exact absurd (passed.symm.trans written) (by decide)

end AccountViewController

end OnMap
