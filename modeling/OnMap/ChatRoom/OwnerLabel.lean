/-
# The label of the owner

The observers of a cell's fields show the value that is about to be assigned, but the one of
`textOwner` shows the value before it. So the label is one owner behind the avatar: a call
shows the right name exactly if the cell had that name already.
-/

import OnMap.ChatRoom.ModelChatRoom

namespace OnMap

open Transition

/-- The views that are connected show the profile. -/
def MessageCell.ShowsProfile (cell : MessageCell) (info : OtherMessageInfo) : Prop :=
  (∀ text ∈ cell.ownerLabel, text = some info.nameOwner) ∧
    ∀ image ∈ cell.theAvatar, image = some info.avatar

namespace ModelChatRoom

variable {κ : Type} [DecidableEq κ]

/-- The profile of the user is in the buffer, and not the placeholder. -/
def Known (m : ModelChatRoom κ) (id : String) (info : OtherMessageInfo) : Prop :=
  m.buffer id = some info ∧ info.nameOwner ≠ "download"

/-- A call for the cell with a user whose profile is known leaves the cell showing it. -/
def ShowsOwner (cell : κ) (m : ModelChatRoom κ) : Event κ → Prop
  | .setAvatarAndOwnerMessage id other => other = cell → ∀ info, m.Known id info →
    ((m.setAvatarAndOwnerMessage id cell).cells cell).ShowsProfile info
  | _ => True

/-- A call for the cell is made with a user whose name it has already. -/
def NamedAlready (cell : κ) (m : ModelChatRoom κ) : Event κ → Prop
  | .setAvatarAndOwnerMessage id other => other = cell → ∀ info, m.Known id info →
    (m.cells cell).textOwner = some info.nameOwner
  | _ => True

section Steps

variable {m t : ModelChatRoom κ} {e : Event κ} {cell other : κ} {id : String}
  {info : OtherMessageInfo}

theorem Known.setAvatarAndOwnerMessage (known : m.Known id info) (cell : κ) :
    m.setAvatarAndOwnerMessage id cell = m.assign cell info := by
  rw [ModelChatRoom.setAvatarAndOwnerMessage, known.1]
  exact if_pos known.2

/-- An assignment connects no label and disconnects none. -/
theorem isSome_ownerLabel_assign (other : κ) (info : OtherMessageInfo) :
    ((m.assign other info).cells cell).ownerLabel.isSome = (m.cells cell).ownerLabel.isSome := by
  by_cases same : cell = other
  · subst same
    rw [assign_cells_self, MessageCell.setTextOwner, MessageCell.setImageAvatar]
    exact Option.isSome_map
  · rw [assign_cells_of_ne info same]

/-- What stays connected in a step. -/
theorem isSome_ownerLabel_step (taken : m.step e = some t) :
    (t.cells cell).ownerLabel.isSome = (m.cells cell).ownerLabel.isSome := by
  cases e with
  | setAvatarAndOwnerMessage id other =>
    obtain rfl := Option.some.inj taken
    rw [ModelChatRoom.setAvatarAndOwnerMessage]
    split
    · split
      · exact isSome_ownerLabel_assign ..
      · rfl
    · rfl
  | complete index profile =>
    rw [step, complete] at taken
    split at taken
    · obtain rfl := Option.some.inj taken
      exact isSome_ownerLabel_assign ..
    · cases taken
  | run index =>
    obtain ⟨block, -, later⟩ := Option.bind_eq_some_iff.mp taken
    obtain ⟨target, -, rfl⟩ := Option.map_eq_some_iff.mp later
    exact isSome_ownerLabel_assign ..

/-- The avatar of the profile is shown, and the name that the cell had before. -/
theorem showsProfile_assign_of_named (named : (m.cells cell).textOwner = some info.nameOwner) :
    ((m.assign cell info).cells cell).ShowsProfile info := by
  rw [assign_cells_self, MessageCell.setTextOwner, MessageCell.setImageAvatar]
  constructor
  · intro text shown
    obtain ⟨-, -, rfl⟩ := Option.map_eq_some_iff.mp shown
    exact named
  · intro image shown
    obtain ⟨-, -, rfl⟩ := Option.map_eq_some_iff.mp shown
    rfl

theorem showsProfile_assign (connected : (m.cells cell).ownerLabel.isSome = true) :
    ((m.assign cell info).cells cell).ShowsProfile info ↔
      (m.cells cell).textOwner = some info.nameOwner := by
  refine ⟨fun shows => ?_, showsProfile_assign_of_named⟩
  obtain ⟨text, label⟩ := Option.isSome_iff_exists.mp connected
  rw [MessageCell.ShowsProfile, assign_cells_self, MessageCell.setTextOwner,
    MessageCell.setImageAvatar, label] at shows
  exact shows.1 _ rfl

/-- The second of two calls with one user shows the profile. -/
theorem showsProfile_again (known : m.Known id info) :
    (((m.setAvatarAndOwnerMessage id cell).setAvatarAndOwnerMessage id cell).cells
      cell).ShowsProfile info := by
  have still : (m.assign cell info).Known id info := known
  rw [known.setAvatarAndOwnerMessage, still.setAvatarAndOwnerMessage]
  apply showsProfile_assign_of_named
  rw [assign_cells_self, MessageCell.setTextOwner]

end Steps

/-- In every run, the calls for a cell with known users all leave it showing the user's
profile if and only if the cell had the user's name before each of them. -/
theorem shows_owner_iff (cell : κ) (m : ModelChatRoom κ) (events : List (Event κ))
    (connected : (m.cells cell).ownerLabel.isSome = true) :
    EveryStep step (ShowsOwner cell) m events ↔ EveryStep step (NamedAlready cell) m events := by
  refine everyStep_congr_of_invariant (I := fun m => (m.cells cell).ownerLabel.isSome = true)
    ?_ ?_ connected events
  · intro m e t connected taken
    exact (isSome_ownerLabel_step taken).trans connected
  · intro m e connected
    cases e with
    | setAvatarAndOwnerMessage id other =>
      refine forall_congr' fun same => forall_congr' fun info => forall_congr' fun known => ?_
      rw [known.setAvatarAndOwnerMessage]
      exact showsProfile_assign connected
    | complete => exact Iff.rfl
    | run => exact Iff.rfl

/-- A room where one user's profile is known and one cell shows it. -/
def annaShown : ModelChatRoom ℕ where
  buffer := Function.update (fun _ => none) "a" (some ⟨⟨"Anna's photo"⟩, "Anna A.:"⟩)
  cells := fun _ => ⟨some "Anna A.:", some ⟨"Anna's photo"⟩, some (some "Anna A.:"), some none⟩

theorem shows_owner_annaAgain :
    EveryStep step (ShowsOwner 0) annaShown [.setAvatarAndOwnerMessage "a" 0] := by
  refine (shows_owner_iff 0 annaShown _ rfl).mpr ⟨fun _ info known => ?_, fun _ _ => trivial⟩
  obtain rfl := Option.some.inj known.1
  rfl

/-- A cell that has had no owner gets its first one: the label shows none. -/
def firstOwner : ModelChatRoom ℕ :=
  { annaShown with cells := fun _ => { ownerLabel := some none, theAvatar := some none } }

theorem not_shows_owner_first : ¬ ∀ (cell : ℕ) (m : ModelChatRoom ℕ) (events : List (Event ℕ)),
    (m.cells cell).ownerLabel.isSome = true → EveryStep step (ShowsOwner cell) m events := by
  intro shows
  have first := shows 0 firstOwner [.setAvatarAndOwnerMessage "a" 0] rfl
  have label := (first.1 rfl ⟨⟨"Anna's photo"⟩, "Anna A.:"⟩ ⟨rfl, by decide⟩).1 none rfl
  cases label

end ModelChatRoom

end OnMap
