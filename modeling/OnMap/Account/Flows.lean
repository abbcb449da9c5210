/-
# Which screen ends which flow

The two static variables are all that the shared screens know about the flow
they belong to. The rows leave in them which row was chosen last and whether an
email change was ever begun; the second is never taken back. A check of the old
phone therefore leads to the screen for a new number only as long as no email
change was begun before, and leads to the deletion of the account otherwise.
-/

import OnMap.Account.Menu
import OnMap.Library.Transition

namespace OnMap

namespace AccountMenu

open Transition

/-- Record the rows chosen; the last one started the running flow. -/
def noteRow (_ : AccountMenu) (e : Event) (chosen : List AccountRow) : List AccountRow :=
  match e with
  | .choose row => chosen ++ [row]
  | _ => chosen

/-- The event is a successful `checkingReturn` on a screen for the old phone. -/
def ChecksOldPhone (s : AccountMenu) : Event → Prop
  | .answer index true =>
    (s.requests[index]? = some .reauth ∨ s.requests[index]? = some .updatePhone) ∧
      ∃ which, s.onStack s.showChecked = some (.changePhoneViewController which)
  | _ => False

/-- One step leads where the chosen row says: the check of the old phone to the
screen of its flow, and to delete mode only from the row that asks for it. -/
structure LeadsAsChosen (sm : AccountMenu × List AccountRow) (e : Event) (t : AccountMenu) :
    Prop where
  number : ChecksOldPhone sm.1 e → sm.2.getLast? = some .changeNumber →
    t.topScreen = some (.newPhoneViewController false)
  email : ChecksOldPhone sm.1 e → sm.2.getLast? = some .changeEmail →
    t.topScreen = some (.updateEmailDeleteAccountViewController false)
  emailMode : ∀ which ownPhone, e = .nextTo ownPhone → sm.2.getLast? = some .changeEmail →
    sm.1.topScreen = some (.updateEmailDeleteAccountViewController which) →
      t.requests = sm.1.requests ++ [.updateEmail]
  deleteMode : ∀ vc ∈ t.navigation, vc.screen = .updateEmailDeleteAccountViewController true →
    (noteRow sm.1 e sm.2).getLast? = some .deleteAccount
  deletes : t.requests = sm.1.requests ++ [.deleteAccount] → sm.2.getLast? = some .deleteAccount

/-- Every step that can be taken leads where the chosen row says. -/
def AsChosen (sm : AccountMenu × List AccountRow) (e : Event) : Prop :=
  ∀ t, sm.1.step e = some t → LeadsAsChosen sm e t

/-- The old phone is checked for a new number after an email change was begun. -/
def ChecksAfterEmail (sm : AccountMenu × List AccountRow) (e : Event) : Prop :=
  ChecksOldPhone sm.1 e ∧ sm.2.getLast? = some .changeNumber ∧ .changeEmail ∈ sm.2

section Steps

variable {s t : AccountMenu} {e : Event}

theorem onStack_eq_some {delegate : Option ℕ} {screen : AccountScreen}
    (h : s.onStack delegate = some screen) : ∃ vc ∈ s.navigation, vc.screen = screen := by
  obtain ⟨id, -, found⟩ := Option.bind_eq_some_iff.mp h
  obtain ⟨vc, hvc, same⟩ := Option.map_eq_some_iff.mp found
  exact ⟨vc, List.mem_of_find?_eq_some hvc, same⟩

/-- The screen after a successful check of the old phone. -/
def checkedScreen (s : AccountMenu) : AccountScreen :=
  if s.const.updatePhoneEmail then .updateEmailDeleteAccountViewController s.const.updateDelete
  else .newPhoneViewController false

/-- On a screen for the old phone `checkingReturn` pushes the screen that the
variables select. -/
theorem checkingReturn_of_shown {which : Bool}
    (shown : s.onStack s.showChecked = some (.changePhoneViewController which)) :
    s.checkingReturn.const = s.const ∧ s.checkingReturn.requests = s.requests ∧
      s.checkingReturn.navigation = ⟨s.nextID, s.checkedScreen⟩ :: s.navigation := by
  rw [checkingReturn, shown, checkedScreen]
  cases s.const.updatePhoneEmail <;> exact ⟨rfl, rfl, rfl⟩

/-- A successful answer leaves the stack, clears it, or is the check of the old
phone. -/
theorem succeed_cases (s : AccountMenu) (request : AuthRequest) :
    (s.succeed request).const = s.const ∧ (s.succeed request).requests = s.requests ∧
      ((s.succeed request).navigation ⊆ s.navigation ∨
        (request = .reauth ∨ request = .updatePhone) ∧
          ∃ which, s.onStack s.showChecked = some (.changePhoneViewController which)) := by
  have checked : s.checkingReturn.const = s.const ∧ s.checkingReturn.requests = s.requests ∧
      (s.checkingReturn.navigation ⊆ s.navigation ∨
        ∃ which, s.onStack s.showChecked = some (.changePhoneViewController which)) := by
    cases shown : s.onStack s.showChecked with
    | none => simp [checkingReturn, shown]
    | some screen =>
      cases screen with
      | changePhoneViewController which =>
        obtain ⟨const, requests, -⟩ := checkingReturn_of_shown shown
        exact ⟨const, requests, Or.inr ⟨which, rfl⟩⟩
      | newPhoneViewController which =>
        simp [checkingReturn, shown, popToRootViewController]
      | updateEmailDeleteAccountViewController which => simp [checkingReturn, shown]
  -- only `reauth` and `updatePhone` answer to `showChecked`
  cases request with
  | sendCode => exact ⟨rfl, rfl, Or.inl (List.Subset.refl _)⟩
  | reauth => exact ⟨checked.1, checked.2.1, checked.2.2.imp_right fun shown => ⟨Or.inl rfl, shown⟩⟩
  | updatePhone =>
    exact ⟨checked.1, checked.2.1, checked.2.2.imp_right fun shown => ⟨Or.inr rfl, shown⟩⟩
  | updateEmail =>
    rw [succeed, showNext]
    split <;> simp [popToRootViewController]
  | deleteAccount =>
    rw [succeed, dismissConfirmation]
    split <;> simp [popToRootViewController]

/-- A check of the old phone pushes the screen that the variables select, and
changes no variable. -/
theorem step_of_checksOldPhone (h : s.step e = some t) (checks : ChecksOldPhone s e) :
    t.const = s.const ∧ t.navigation = ⟨s.nextID, s.checkedScreen⟩ :: s.navigation := by
  cases e with
  | answer index success =>
    cases success with
    | false => exact checks.elim
    | true =>
      obtain ⟨asked, which, shown⟩ := checks
      obtain ⟨const, -, pushed⟩ := @checkingReturn_of_shown
        { s with requests := s.requests.eraseIdx index } which shown
      rcases asked with asked | asked <;>
      · simp only [step, asked, if_true, Option.some.injEq] at h
        exact h ▸ ⟨const, pushed⟩
  | choose | nextTo | back => exact checks.elim

/-- The stack after a step: a row's own screen, the old stack with a new `which`
on top, fewer screens, or the screen that follows the check of the old phone. -/
theorem step_cases (h : s.step e = some t) :
    (∃ row, e = .choose row ∧ s.navigation = [] ∧ t = s.choose row) ∨
      ((∀ row, e ≠ .choose row) ∧ t.const = s.const ∧
        ((∃ top rest ownPhone, e = .nextTo ownPhone ∧ s.navigation = top :: rest ∧
            t.navigation = ⟨top.id, (top.screen.nextTo ownPhone).1⟩ :: rest ∧
            t.requests = s.requests ++ (top.screen.nextTo ownPhone).2.toList) ∨
          (∀ ownPhone, e ≠ .nextTo ownPhone) ∧ t.requests.length ≤ s.requests.length ∧
            (t.navigation ⊆ s.navigation ∨ ChecksOldPhone s e))) := by
  cases e with
  | choose row =>
    simp only [step, Option.ite_none_right_eq_some, Option.some.injEq] at h
    exact Or.inl ⟨row, rfl, h.1, h.2.symm⟩
  | nextTo ownPhone =>
    cases stack : s.navigation with
    | nil => simp [step, stack] at h
    | cons top rest =>
      simp only [step, stack, Option.some.injEq] at h
      subst h
      exact Or.inr ⟨by simp, rfl, Or.inl ⟨top, rest, ownPhone, rfl, rfl, rfl, rfl⟩⟩
  | answer index success =>
    cases asked : s.requests[index]? with
    | none => simp [step, asked] at h
    | some request =>
      simp only [step, asked, Option.some.injEq] at h
      have fewer : (s.requests.eraseIdx index).length ≤ s.requests.length :=
        (List.eraseIdx_sublist ..).length_le
      subst h
      cases success with
      | false =>
        exact Or.inr ⟨by simp, rfl, Or.inr ⟨by simp, fewer, Or.inl (List.Subset.refl _)⟩⟩
      | true =>
        obtain ⟨const, requests, stack⟩ :=
          succeed_cases { s with requests := s.requests.eraseIdx index } request
        refine Or.inr ⟨by simp, const, Or.inr ⟨by simp, requests ▸ fewer, stack.imp_right ?_⟩⟩
        rintro ⟨rfl | rfl, shown⟩
        · exact ⟨Or.inl asked, shown⟩
        · exact ⟨Or.inr asked, shown⟩
  | back =>
    cases stack : s.navigation with
    | nil => simp [step, stack] at h
    | cons top rest =>
      simp only [step, stack, Option.some.injEq] at h
      subst h
      exact Or.inr ⟨by simp, rfl, Or.inr ⟨by simp, Nat.le_refl _,
        Or.inl (List.subset_cons_self ..)⟩⟩

end Steps

/-! ### What the variables remember -/

/-- The variables remember the last row and whether an email change was ever
begun. Screens are pushed by a row, and the screen for the old phone not by the
row that deletes the account. -/
structure Remembers (sm : AccountMenu × List AccountRow) : Prop where
  updatePhoneEmail : sm.1.const.updatePhoneEmail = true ↔ .changeEmail ∈ sm.2
  updateDelete : sm.2 ≠ [] → (sm.1.const.updateDelete = true ↔ sm.2.getLast? ≠ some .changeEmail)
  chosen : sm.1.navigation ≠ [] → sm.2 ≠ []
  oldPhone : ∀ vc ∈ sm.1.navigation, ∀ which, vc.screen = .changePhoneViewController which →
    sm.2.getLast? ≠ some .deleteAccount

/-- In a flow where every shared screen is what the row says, it is in delete
mode exactly if the row deletes the account. -/
def DeleteModeAsked (sm : AccountMenu × List AccountRow) : Prop :=
  ∀ vc ∈ sm.1.navigation, ∀ which, vc.screen = .updateEmailDeleteAccountViewController which →
    (which = true ↔ sm.2.getLast? = some .deleteAccount)

theorem remembers_init : Remembers ({}, []) where
  updatePhoneEmail := by simp
  updateDelete h := absurd rfl h
  chosen h := absurd rfl h
  oldPhone := by simp

section Invariants

variable {s t : AccountMenu} {e : Event} {chosen : List AccountRow}

theorem noteRow_of_ne (other : ∀ row, e ≠ .choose row) : noteRow s e chosen = chosen := by
  cases e with
  | choose row => exact absurd rfl (other row)
  | _ => rfl

theorem AccountScreen.of_nextTo_changePhone {screen : AccountScreen} {ownPhone which : Bool}
    (h : (screen.nextTo ownPhone).1 = .changePhoneViewController which) :
    ∃ before, screen = .changePhoneViewController before := by
  cases screen with
  | changePhoneViewController before => exact ⟨before, rfl⟩
  | newPhoneViewController before => cases before <;> cases h
  | updateEmailDeleteAccountViewController before => cases h

theorem AccountScreen.of_nextTo_updateEmailDelete {screen : AccountScreen} {ownPhone which : Bool}
    (h : (screen.nextTo ownPhone).1 = .updateEmailDeleteAccountViewController which) :
    screen = .updateEmailDeleteAccountViewController which := by
  cases screen with
  | changePhoneViewController before => cases before <;> cases h
  | newPhoneViewController before => cases before <;> cases h
  | updateEmailDeleteAccountViewController before => exact h

/-- The flow of a check is running. -/
theorem navigation_ne_nil_of_checks (checks : ChecksOldPhone s e) :
    ∃ vc ∈ s.navigation, ∃ which, vc.screen = .changePhoneViewController which := by
  cases e with
  | answer index success =>
    cases success with
    | false => exact checks.elim
    | true =>
      obtain ⟨-, which, shown⟩ := checks
      obtain ⟨vc, hvc, screen⟩ := onStack_eq_some shown
      exact ⟨vc, hvc, which, screen⟩
  | choose | nextTo | back => exact checks.elim

/-- Every screen on the stack is one from before, up to its `which` if a button
was pressed, or the screen that follows the check of the old phone. -/
theorem mem_navigation_cases (hstep : s.step e = some t) (other : ∀ row, e ≠ .choose row)
    {vc : ViewController} (hvc : vc ∈ t.navigation) :
    (∃ before ∈ s.navigation, vc.screen = before.screen ∨
        ∃ ownPhone, vc.screen = (before.screen.nextTo ownPhone).1) ∨
      ChecksOldPhone s e ∧ vc.screen = s.checkedScreen := by
  rcases step_cases hstep with ⟨row, rfl, -⟩ | ⟨-, -, pressed | ⟨-, -, fewer | checks⟩⟩
  · exact absurd rfl (other row)
  · obtain ⟨top, rest, ownPhone, -, stack, after, -⟩ := pressed
    rw [after] at hvc
    rcases List.mem_cons.mp hvc with rfl | below
    · exact Or.inl ⟨top, stack ▸ List.mem_cons_self, Or.inr ⟨ownPhone, rfl⟩⟩
    · exact Or.inl ⟨vc, stack ▸ List.mem_cons_of_mem _ below, Or.inl rfl⟩
  · exact Or.inl ⟨vc, fewer hvc, Or.inl rfl⟩
  · rw [(step_of_checksOldPhone hstep checks).2] at hvc
    rcases List.mem_cons.mp hvc with rfl | below
    · exact Or.inr ⟨checks, rfl⟩
    · exact Or.inl ⟨vc, below, Or.inl rfl⟩

/-- A row sets the variables to what it is about. -/
theorem Remembers.choose (h : Remembers (s, chosen)) (start : s.navigation = [])
    (row : AccountRow) : Remembers (s.choose row, chosen ++ [row]) := by
  cases row with
  | deleteAccount =>
    constructor <;> simp [AccountMenu.choose, AccountMenu.deleteAccount, pushUpdateEmailDelete,
      h.updatePhoneEmail, start]
  | changeNumber =>
    constructor <;> simp [AccountMenu.choose, changeNumber, pushPhone, h.updatePhoneEmail, start]
  | changeEmail =>
    constructor <;> simp [AccountMenu.choose, changeEmail, pushPhone, start]

/-- The variables remember through every step. -/
theorem Remembers.step (h : Remembers (s, chosen)) (hstep : s.step e = some t) :
    Remembers (t, noteRow s e chosen) := by
  rcases step_cases hstep with ⟨row, rfl, start, rfl⟩ | ⟨other, const, -⟩
  · exact h.choose start row
  · rw [noteRow_of_ne other]
    refine ⟨const ▸ h.updatePhoneEmail, const ▸ h.updateDelete, ?_, ?_⟩
    · intro running
      obtain ⟨vc, hvc⟩ := List.exists_mem_of_ne_nil _ running
      refine h.chosen fun none => ?_
      rcases mem_navigation_cases hstep other hvc with ⟨before, hbefore, -⟩ | ⟨checks, -⟩
      · exact absurd (none ▸ hbefore) List.not_mem_nil
      · obtain ⟨before, hbefore, -⟩ := navigation_ne_nil_of_checks checks
        exact absurd (none ▸ hbefore) List.not_mem_nil
    · intro vc hvc which screen
      rcases mem_navigation_cases hstep other hvc with
        ⟨before, hbefore, same | ⟨ownPhone, pressed⟩⟩ | ⟨-, checked⟩
      · exact h.oldPhone before hbefore which (same ▸ screen)
      · obtain ⟨code, hcode⟩ := AccountScreen.of_nextTo_changePhone (pressed ▸ screen)
        exact h.oldPhone before hbefore code hcode
      · -- the screen after a check is never one for the old phone
        rw [checked, checkedScreen] at screen
        split at screen <;> cases screen

/-- What follows the check of the old phone, read off the row that started the
flow. -/
theorem Remembers.checkedScreen (h : Remembers (s, chosen)) (checks : ChecksOldPhone s e) :
    (chosen.getLast? = some .changeNumber ∧ s.checkedScreen =
        if .changeEmail ∈ chosen then .updateEmailDeleteAccountViewController true
        else .newPhoneViewController false) ∨
      chosen.getLast? = some .changeEmail ∧
        s.checkedScreen = .updateEmailDeleteAccountViewController false := by
  -- a screen for the old phone is shown, so a row was chosen, and not the deletion
  obtain ⟨vc, hvc, which, screen⟩ := navigation_ne_nil_of_checks checks
  have some_row : chosen ≠ [] := h.chosen (List.ne_nil_of_mem hvc)
  have not_delete := h.oldPhone vc hvc which screen
  have last := List.getLast?_eq_some_getLast some_row
  have delete := h.updateDelete some_row
  rw [last] at not_delete delete ⊢
  rw [AccountMenu.checkedScreen]
  cases row : chosen.getLast some_row with
  | deleteAccount => exact absurd (row ▸ rfl) not_delete
  | changeNumber =>
    -- `updateDelete` is on, so the shared last screen would delete
    refine Or.inl ⟨rfl, ?_⟩
    have deletes : s.const.updateDelete = true := delete.mpr (by simp [row])
    simp only [deletes, h.updatePhoneEmail]
  | changeEmail =>
    refine Or.inr ⟨rfl, ?_⟩
    have ever : .changeEmail ∈ chosen := row ▸ List.getLast_mem some_row
    have email : s.const.updatePhoneEmail = true := h.updatePhoneEmail.mpr ever
    have keeps : s.const.updateDelete = false :=
      Bool.eq_false_iff.mpr fun on => delete.mp on (row ▸ rfl)
    simp only [email, keeps, if_true]

/-- Delete mode is asked for through every step but a check of the old phone for
a new number after an email change was begun. -/
theorem DeleteModeAsked.step (h : DeleteModeAsked (s, chosen)) (remembers : Remembers (s, chosen))
    (guard : ¬ ChecksAfterEmail (s, chosen) e) (hstep : s.step e = some t) :
    DeleteModeAsked (t, noteRow s e chosen) := by
  by_cases asked : ∃ row, e = .choose row
  · obtain ⟨row, rfl⟩ := asked
    rcases step_cases hstep with ⟨_, -, start, same⟩ | ⟨other, -⟩
    · obtain rfl : t = s.choose row :=
        Option.some.inj (by simpa [AccountMenu.step, start] using hstep.symm)
      cases row <;> simp [DeleteModeAsked, noteRow, choose, deleteAccount, changeNumber,
        changeEmail, pushPhone, pushUpdateEmailDelete, start]
    · exact absurd rfl (other row)
  · have other (row : AccountRow) : e ≠ .choose row := fun same => asked ⟨row, same⟩
    rw [noteRow_of_ne other]
    intro vc hvc which screen
    -- without a new row the last screen keeps its mode, and new ones are pushed by a check
    rcases mem_navigation_cases hstep other hvc with
      ⟨before, hbefore, same | ⟨ownPhone, pressed⟩⟩ | ⟨checks, checked⟩
    · exact h before hbefore which (same ▸ screen)
    · exact h before hbefore which (AccountScreen.of_nextTo_updateEmailDelete (pressed ▸ screen))
    · rw [checked] at screen
      rcases remembers.checkedScreen checks with ⟨number, next⟩ | ⟨email, next⟩
      · have first : .changeEmail ∉ chosen := fun ever => guard ⟨checks, number, ever⟩
        rw [next, if_neg first] at screen
        cases screen
      · rw [next] at screen
        obtain rfl : false = which := by simpa using screen
        simp [email]

/-- While both invariants hold, a step that is no check after an email change
leads where the chosen row says. -/
theorem leadsAsChosen (remembers : Remembers (s, chosen)) (modes : DeleteModeAsked (s, chosen))
    (guard : ¬ ChecksAfterEmail (s, chosen) e) (hstep : s.step e = some t) :
    LeadsAsChosen (s, chosen) e t where
  number checks number := by
    rcases remembers.checkedScreen checks with ⟨-, next⟩ | ⟨email, -⟩
    · have first : .changeEmail ∉ chosen := fun ever => guard ⟨checks, number, ever⟩
      rw [topScreen, (step_of_checksOldPhone hstep checks).2, next, if_neg first]
      rfl
    · cases email.symm.trans number
  email checks email := by
    rcases remembers.checkedScreen checks with ⟨number, -⟩ | ⟨-, next⟩
    · cases number.symm.trans email
    · rw [topScreen, (step_of_checksOldPhone hstep checks).2, next]
      rfl
  emailMode which ownPhone pressed email shown := by
    subst pressed
    cases stack : s.navigation with
    | nil => simp [step, stack] at hstep
    | cons top rest =>
      have screen : top.screen = .updateEmailDeleteAccountViewController which := by
        simpa [topScreen, stack] using shown
      have mode := modes top (stack ▸ List.mem_cons_self) which screen
      rw [email] at mode
      obtain rfl : which = false := by simpa using mode
      simp only [step, stack, Option.some.injEq] at hstep
      subst hstep
      simp [screen, AccountScreen.nextTo]
  deleteMode vc hvc screen := (modes.step remembers guard hstep vc hvc true screen).mp rfl
  deletes asked := by
    rcases step_cases hstep with ⟨row, rfl, -, rfl⟩ | ⟨-, -, pressed | ⟨-, fewer, -⟩⟩
    · cases row <;> simp [choose, deleteAccount, changeNumber, changeEmail, pushPhone,
        pushUpdateEmailDelete] at asked
    · obtain ⟨top, rest, ownPhone, -, stack, -, requests⟩ := pressed
      have request : (top.screen.nextTo ownPhone).2 = some .deleteAccount := by
        simpa [requests] using asked
      have screen : top.screen = .updateEmailDeleteAccountViewController true := by
        cases screen : top.screen with
        | updateEmailDeleteAccountViewController which =>
          cases which <;> simp_all [AccountScreen.nextTo]
        | changePhoneViewController which | newPhoneViewController which =>
          cases which <;> simp_all [AccountScreen.nextTo]
      exact (modes top (stack ▸ List.mem_cons_self) true screen).mp rfl
    · rw [asked, List.length_append, List.length_singleton] at fewer
      exact absurd fewer (Nat.not_succ_le_self _)

end Invariants

/-- A check of the old phone can always be answered. -/
theorem exists_step_of_checks {s : AccountMenu} {e : Event} (checks : ChecksOldPhone s e) :
    ∃ t, s.step e = some t := by
  cases e with
  | answer index success =>
    cases success with
    | false => exact checks.elim
    | true =>
      obtain ⟨asked | asked, -⟩ := checks <;> exact ⟨_, by simp only [step, asked]; rfl⟩
  | choose | nextTo | back => exact checks.elim

/-- From a fresh launch, every step of a run leads where the chosen row says,
exactly if the old phone is never checked for a new number after an email change
was begun. -/
theorem flows_as_chosen_iff (labels : List Event) :
    EveryStep (watch step noteRow) AsChosen ({}, []) labels ↔
      EveryStep (watch step noteRow) (fun sm e => ¬ ChecksAfterEmail sm e) ({}, []) labels := by
  constructor
  · refine EveryStep.of_invariant (I := Remembers) (watch_kept_of_guard ?_) ?_ remembers_init
    · intro s chosen e t remembers _ hstep
      exact remembers.step hstep
    · rintro ⟨s, chosen⟩ e remembers asChosen ⟨checks, number, ever⟩
      obtain ⟨t, hstep⟩ := exists_step_of_checks checks
      have wanted := (asChosen t hstep).number checks number
      rw [topScreen, (step_of_checksOldPhone hstep checks).2] at wanted
      -- the check leads to the last screen, not to the one for a new number
      rcases remembers.checkedScreen checks with ⟨-, next⟩ | ⟨email, -⟩
      · rw [if_pos ever] at next
        simp [next] at wanted
      · cases email.symm.trans number
  · refine EveryStep.of_invariant (I := fun sm => Remembers sm ∧ DeleteModeAsked sm)
      (watch_kept_of_guard ?_) ?_ ⟨remembers_init, by simp [DeleteModeAsked]⟩
    · rintro s chosen e t ⟨remembers, modes⟩ guard hstep
      exact ⟨remembers.step hstep, modes.step remembers guard hstep⟩
    · rintro ⟨s, chosen⟩ e ⟨remembers, modes⟩ guard t hstep
      exact leadsAsChosen remembers modes guard hstep

/-- An email change is begun and abandoned; then a new number is asked for and
the old phone confirmed. -/
def numberAfterEmail : List Event :=
  [.choose .changeEmail, .back, .choose .changeNumber, .nextTo true, .answer 0 true, .nextTo true]

/-- The check then leads to the deletion of the account. -/
theorem not_always_as_chosen :
    ¬ ∀ labels, EveryStep (watch step noteRow) AsChosen ({}, []) labels := by
  intro always
  have reached : exec (watch step noteRow) ({}, []) numberAfterEmail =
      some ({ const := ⟨true, true⟩
              navigation := [⟨1, .changePhoneViewController true⟩]
              showChecked := some 1
              showAlertDelegate := some 1
              requests := [.reauth]
              nextID := 2 }, [.changeEmail, .changeNumber]) := by decide
  have last := (always (numberAfterEmail ++ [.answer 0 true])).of_append reached
  have wanted := (last _ rfl).number ⟨Or.inl rfl, true, rfl⟩ rfl
  exact absurd wanted (by decide)

end AccountMenu

end OnMap
