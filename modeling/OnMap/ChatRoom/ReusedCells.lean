/-
# Reused message cells

The table binds a cell to one row after another, so a cell may be passed to the model
with another user while it still waits for the profile of the first. The arrays keep
the earlier pair, and the profile that comes late is assigned to the cell all the same.

A cell ends with the avatar of the user it was passed with last if whatever comes late
comes before the cell's own.
-/

import OnMap.ChatRoom.ModelChatRoom

namespace OnMap

open Transition

namespace ModelChatRoom

variable {κ : Type} [DecidableEq κ]

/-- The user that the cell was passed with last. -/
def lastID (passes : List (Pass κ)) (cell : κ) : Option String :=
  (passes.reverse.find? fun pass => pass.cell = cell).map Pass.id

/-- Once every lookup has completed and the main queue is empty, every cell shows the
avatar of the user it was passed with last. -/
def ShowsLast (mp : ModelChatRoom κ × List (Pass κ)) : Prop :=
  (∀ load ∈ mp.1.loads, load.result.isSome = true) → mp.1.main = [] →
    ∀ cell, ∀ id ∈ lastID mp.2 cell, ∃ load ∈ mp.1.loads, load.userID = id ∧
      ∃ profile ∈ load.result, (mp.1.cells cell).imageAvatar = some profile.photo

/-- The cell and the user of a profile that comes late: the completion of a lookup assigns
it to the lookup's own cell, a closure to the cell at the captured index. -/
def assigns (m : ModelChatRoom κ) : Event κ → Option (κ × String)
  | .setAvatarAndOwnerMessage _ _ => none
  | .complete load _ => (m.loads[load]?).map fun load => (load.cell, load.userID)
  | .run block => (m.main[block]?).bind fun block =>
    (m.que2[block.1]?).bind fun cell => (m.que1[block.1]?).map fun id => (cell, id)

/-- The user is still looked up, or the closure that assigns the profile to the cell is
still on the main queue. -/
def Unsettled (m : ModelChatRoom κ) (cell : κ) (id : String) : Prop :=
  (∃ load ∈ m.loads, load.userID = id ∧ load.result = none) ∨
    ∃ block ∈ m.main, m.Waits block.1 id cell

/-- A profile is assigned to a cell that was passed with its user last, or that has its
own profile still to come. -/
def InTime (mp : ModelChatRoom κ × List (Pass κ)) (e : Event κ) : Prop :=
  ∀ late ∈ mp.1.assigns e, ∀ id ∈ lastID mp.2 late.1, id = late.2 ∨ mp.1.Unsettled late.1 id

instance (m : ModelChatRoom κ) (i : ℕ) (id : String) (cell : κ) : Decidable (m.Waits i id cell) :=
  inferInstanceAs (Decidable (_ ∧ _))

instance (m : ModelChatRoom κ) (cell : κ) (id : String) : Decidable (m.Unsettled cell id) :=
  inferInstanceAs (Decidable (_ ∨ _))

instance (mp : ModelChatRoom κ × List (Pass κ)) (e : Event κ) : Decidable (InTime mp e) :=
  inferInstanceAs (Decidable (∀ late ∈ mp.1.assigns e, ∀ id ∈ lastID mp.2 late.1, _ ∨ _))

section Steps

variable {m t : ModelChatRoom κ} {passes : List (Pass κ)} {e : Event κ} {cell other : κ}
  {userID user : String} {profile : Profile} {index : ℕ}

theorem lastID_concat (passes : List (Pass κ)) (pass : Pass κ) (cell : κ) :
    lastID (passes ++ [pass]) cell =
      if pass.cell = cell then some pass.id else lastID passes cell := by
  rw [lastID, List.reverse_append, List.reverse_singleton, List.singleton_append,
    List.find?_cons]
  by_cases same : pass.cell = cell <;> simp [same, lastID]

/-- A new pass is the last one of its own cell and changes nothing for the others. -/
theorem lastID_concat_cases {pass : Pass κ} (last : userID ∈ lastID (passes ++ [pass]) cell) :
    pass.cell = cell ∧ pass.id = userID ∨ pass.cell ≠ cell ∧ userID ∈ lastID passes cell := by
  rw [Option.mem_def, lastID_concat] at last
  split at last
  case isTrue same => exact Or.inl ⟨same, Option.some.inj last⟩
  case isFalse apart => exact Or.inr ⟨apart, last⟩

/-- The last pass of a cell is a pass. -/
theorem exists_pass (last : lastID passes cell = some userID) :
    ∃ pass ∈ passes, pass.cell = cell ∧ pass.id = userID := by
  obtain ⟨pass, found, user⟩ := Option.map_eq_some_iff.mp last
  refine ⟨pass, List.mem_reverse.mp (List.mem_of_find?_eq_some found), ?_, user⟩
  simpa using List.find?_some found

@[simp] theorem assign_imageAvatar (m : ModelChatRoom κ) (cell : κ) (info : OtherMessageInfo) :
    ((m.assign cell info).cells cell).imageAvatar = some info.avatar := by
  simp [assign, MessageCell.setTextOwner, MessageCell.setImageAvatar]

/-- The lookup of the user has completed, and the cell shows what it brought. -/
def Shows (m : ModelChatRoom κ) (cell : κ) (userID : String) : Prop :=
  ∃ load ∈ m.loads, load.userID = userID ∧
    ∃ profile ∈ load.result, (m.cells cell).imageAvatar = some profile.photo

/-- Every cell has the avatar of its last user to come or to show. -/
def InOrder (mp : ModelChatRoom κ × List (Pass κ)) : Prop :=
  ∀ cell, ∀ userID ∈ lastID mp.2 cell, mp.1.Unsettled cell userID ∨ mp.1.Shows cell userID

omit [DecidableEq κ] in
/-- A cell that begins to wait leaves the others unsettled. -/
theorem Unsettled.enqueue (h : m.Unsettled cell userID) (user : String) (other : κ) :
    (m.enqueue user other).Unsettled cell userID := by
  rcases h with asked | ⟨block, queued, waits⟩
  · exact Or.inl asked
  · exact Or.inr ⟨block, queued, waits.enqueue user other⟩

/-- The profile that is assigned settles nothing but its own cell for its own user. -/
theorem Unsettled.runs {i : ℕ} {info : OtherMessageInfo} (h : m.Unsettled other userID)
    (here : m.main[index]? = some (i, info)) (waits : m.Waits i user cell)
    (apart : other = cell → userID ≠ user) :
    ({ m with main := m.main.eraseIdx index }.assign cell info).Unsettled other userID := by
  rcases h with asked | ⟨block, queued, waits'⟩
  · exact Or.inl asked
  · obtain ⟨k, queued⟩ := List.mem_iff_getElem?.mp queued
    refine Or.inr ⟨block, List.mem_eraseIdx_iff_getElem?.mpr ⟨k, ?_, queued⟩, waits'⟩
    rintro rfl
    obtain rfl := Option.some.inj (here.symm.trans queued)
    -- the closure that runs is for another cell or another user
    exact apart (Option.some.inj (waits'.2.symm.trans waits.2))
      (Option.some.inj (waits'.1.symm.trans waits.1))

/-- A cell that is shown its user at once is in order, and the others are not touched. -/
theorem InOrder.shown (h : InOrder (m, passes)) {load : AvatarLoad κ} (here : load ∈ m.loads)
    (known : load.userID = userID) (done : load.result = some profile) {before : ℕ} :
    InOrder (m.assign cell (.ofProfile profile), passes ++ [⟨userID, cell, before⟩]) := by
  intro other last passed
  rcases lastID_concat_cases passed with ⟨rfl, rfl⟩ | ⟨apart, passed⟩
  · exact Or.inr ⟨load, here, known, profile, done, assign_imageAvatar ..⟩
  · refine (h other last passed).imp_right ?_
    rintro ⟨load, here, known, profile', done, avatar⟩
    refine ⟨load, here, known, profile', done, ?_⟩
    rw [assign_cells_of_ne _ (Ne.symm apart)]
    exact avatar

theorem InOrder.waits (h : InOrder (m, passes)) {load : AvatarLoad κ} (here : load ∈ m.loads)
    (known : load.userID = userID) (pending : load.result = none) {before : ℕ} :
    InOrder (m.enqueue userID cell, passes ++ [⟨userID, cell, before⟩]) := by
  intro other last passed
  rcases lastID_concat_cases passed with ⟨-, rfl⟩ | ⟨-, passed⟩
  · exact Or.inl (Or.inl ⟨load, here, known, pending⟩)
  · exact (h other last passed).imp (·.enqueue userID cell) (fun shows => shows)

theorem InOrder.asks (h : InOrder (m, passes)) {before : ℕ}
    (buffer : String → Option OtherMessageInfo) :
    InOrder
      ({ m with
          buffer := buffer
          que1 := m.que1 ++ [userID], que2 := m.que2 ++ [cell]
          loads := m.loads ++ [⟨userID, cell, none⟩] },
        passes ++ [⟨userID, cell, before⟩]) := by
  intro other last passed
  rcases lastID_concat_cases passed with ⟨-, rfl⟩ | ⟨-, passed⟩
  · exact Or.inl (Or.inl ⟨_, List.mem_append_right _ (List.mem_singleton_self _), rfl, rfl⟩)
  · rcases h other last passed with unsettled | ⟨load, here, shown⟩
    · left
      rcases unsettled.enqueue userID cell with ⟨load, here, pending⟩ | queued
      · exact Or.inl ⟨load, List.mem_append_left _ here, pending⟩
      · exact Or.inr queued
    · exact Or.inr ⟨load, List.mem_append_left _ here, shown⟩

theorem InOrder.completes (h : InOrder (m, passes)) (known : Consistent (m, passes))
    (here : m.loads[index]? = some ⟨userID, cell, none⟩)
    (inTime : InTime (m, passes) (.complete index profile)) :
    InOrder
      (({ m with loads := m.loads.modify index ({ · with result := some profile }) }.completion
        userID cell profile), passes) := by
  intro other last passed
  by_cases same : last = userID
  · -- every cell that was passed with the user waits, and gets a closure now
    subst same
    obtain ⟨pass, mem, rfl, rfl⟩ := exists_pass passed
    obtain ⟨load, there, user, served⟩ := known.served pass mem
    obtain rfl :=
      List.inj_on_of_nodup_map known.once there (List.mem_of_getElem? here) user
    obtain ⟨i, waits⟩ := served
    refine Or.inl (Or.inr ⟨(i, .ofProfile profile), List.mem_append_right _ ?_, waits⟩)
    exact List.mem_map_of_mem (Waits.mem_indexes waits)
  · have unsettled (before : m.Unsettled other last) :
        ({ m with loads := m.loads.modify index ({ · with result := some profile }) }.completion
          userID cell profile).Unsettled other last := by
      rcases before with ⟨load, there, rfl, pending⟩ | ⟨block, queued, waits⟩
      · exact Or.inl ⟨load, (known.mem_settled here).mpr (Or.inr ⟨there, same⟩), rfl, pending⟩
      · exact Or.inr ⟨block, List.mem_append_left _ queued, waits⟩
    by_cases own : other = cell
    · -- the lookup's own cell has been passed with another user meanwhile
      subst own
      refine Or.inl (unsettled ((inTime (other, userID) ?_ last passed).resolve_left same))
      simp [assigns, here]
    · rcases h other last passed with before | ⟨load, there, rfl, shown⟩
      · exact Or.inl (unsettled before)
      · refine Or.inr ⟨load, (known.mem_settled here).mpr (Or.inr ⟨there, same⟩), rfl, ?_⟩
        simp only [completion, assign_cells_of_ne _ own]
        exact shown

theorem InOrder.runs (h : InOrder (m, passes)) (known : Consistent (m, passes)) {i : ℕ}
    {info : OtherMessageInfo} (here : m.main[index]? = some (i, info))
    (there : m.que2[i]? = some cell) (inTime : InTime (m, passes) (.run index)) :
    InOrder ({ m with main := m.main.eraseIdx index }.assign cell info, passes) := by
  obtain ⟨load, mem, profile, done, rfl, user⟩ := known.blocks _ (List.mem_of_getElem? here)
  have waits : m.Waits i load.userID cell := ⟨user, there⟩
  intro other last passed
  by_cases own : other = cell
  · subst own
    by_cases same : last = load.userID
    · exact Or.inr ⟨load, mem, same.symm, profile, done, assign_imageAvatar ..⟩
    · have late : (other, load.userID) ∈ m.assigns (.run index) := by
        simp only [assigns, here, Option.bind_some, there, Option.mem_def]
        rw [waits.1]
        rfl
      exact Or.inl (((inTime _ late last passed).resolve_left same).runs here waits fun _ => same)
  · rcases h other last passed with before | ⟨load', there', known', profile', done', avatar⟩
    · exact Or.inl (before.runs here waits fun same => absurd same own)
    · refine Or.inr ⟨load', there', known', profile', done', ?_⟩
      rw [assign_cells_of_ne _ own]
      exact avatar

theorem InOrder.step (h : InOrder (m, passes)) (known : Consistent (m, passes))
    (inTime : InTime (m, passes) e) (taken : m.step e = some t) :
    InOrder (t, notePass m e passes) := by
  cases known.moves taken with
  | shown here user done => exact h.shown here user done
  | waits here user pending => exact h.waits here user pending
  | asks new => exact h.asks _
  | completes here => exact h.completes known here inTime
  | runs here there => exact h.runs known here there inTime

/-- When nothing is left to come, every cell in order shows its last avatar. -/
theorem InOrder.showsLast {mp : ModelChatRoom κ × List (Pass κ)} (h : InOrder mp) :
    ShowsLast mp := by
  intro completed idle cell userID passed
  rcases h cell userID passed with (⟨load, here, -, pending⟩ | ⟨block, queued, -⟩) | shows
  · have done := completed load here
    rw [pending] at done
    cases done
  · rw [idle] at queued
    cases queued
  · exact shows

end Steps

/-- A run in which no profile comes late to a cell that has its own leaves every cell with
the avatar of its last user. -/
theorem shows_last (cells : κ → MessageCell) (events : List (Event κ))
    (inTime : EveryStep (watch step notePass) InTime (opened cells, []) events) :
    EveryState (watch step notePass) ShowsLast (opened cells, []) events := by
  refine EveryState.of_guarded_invariant (I := fun mp => Consistent mp ∧ InOrder mp) ?_
    (fun _ h => h.2.showsLast) ⟨consistent_opened cells, fun _ _ none => nomatch none⟩ inTime
  refine watch_kept_of_guard fun m passes e t h guard taken => ?_
  exact ⟨h.1.step taken, h.2.step h.1 guard taken⟩

/-- The profiles of two users. -/
def anna : Profile := ⟨⟨"Anna's photo"⟩, "Anna", "A."⟩

def boris : Profile := ⟨⟨"Boris's photo"⟩, "Boris", "B."⟩

/-- A cell waits for Anna, is bound to a row of Boris, and gets her profile first. -/
def reboundWhileBothLoad : List (Event ℕ) :=
  [.setAvatarAndOwnerMessage "a" 0, .setAvatarAndOwnerMessage "b" 0, .complete 0 anna, .run 0,
    .complete 1 boris, .run 0]

theorem shows_last_reboundWhileBothLoad :
    EveryState (watch step notePass) ShowsLast (opened fun _ => {}, []) reboundWhileBothLoad :=
  shows_last _ _ (by decide)

/-- Boris is known already; the cell shows him at once, and then Anna's late profile. -/
def reboundToKnown : List (Event ℕ) :=
  [.setAvatarAndOwnerMessage "b" 1, .complete 0 boris, .run 0,
    .setAvatarAndOwnerMessage "a" 0, .setAvatarAndOwnerMessage "b" 0, .complete 1 anna, .run 0]

theorem not_shows_last :
    ¬ EveryState (watch step notePass) ShowsLast (opened fun _ => {}, []) reboundToKnown := by
  intro shows
  rw [← List.append_nil reboundToKnown] at shows
  have last := shows.of_append (t := _) rfl
  obtain ⟨load, here, user, profile, done, avatar⟩ := last (by decide) rfl 0 "b" rfl
  have two : load ∈ [(⟨"b", 1, some boris⟩ : AvatarLoad ℕ), ⟨"a", 0, some anna⟩] := here
  simp only [List.mem_cons, List.not_mem_nil, or_false] at two
  rcases two with rfl | rfl
  · obtain rfl := Option.some.inj done
    have shown : some anna.photo = some boris.photo := avatar
    exact absurd shown (by decide)
  · exact absurd user (by decide)

end ModelChatRoom

end OnMap
