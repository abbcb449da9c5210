/-
# The windows of the login screen

The windows are moved by animations that add up, so the screen looks as it should only if they
come in pairs. They do as long as the user touches a control only when the blocks of the touch
before have run and no registration is on its way, and Firebase names no user by an empty id.
Then one window is in use at a time, the main tab bar is shown to a user who is signed in, and
whoever exits comes back to the main window.
-/

import OnMap.Login.LoginControls

namespace OnMap

open Transition

namespace LoginViewController

/-! ### One window at a time -/

/-- The animations, too, are those of what the screen shows. -/
structure Shows (s : LoginViewController) (w : LoginWindow) : Prop extends Wired s w where
  raised : s.raised = w.raised
  phone : w.inUse = .phone → s.wayOfSignIn = true
  email : w.inUse = .email → s.wayOfSignIn = false

/-- All that the windows depend on. -/
def arrangement (s : LoginViewController) :
    (LoginControl → List LoginAction) × (LoginSubview → Bool) × (CustomView → ℤ) × Bool :=
  (s.targets, s.subviews, s.raised, s.wayOfSignIn)

/-- The windows stay as they are. -/
def SameWindows (s t : LoginViewController) : Prop := t.arrangement = s.arrangement

section Windows

variable {s t : LoginViewController} {w : LoginWindow}

theorem Shows.congr (h : Shows s w) (same : SameWindows s t) : Shows t w := by
  simp only [SameWindows, arrangement, Prod.mk.injEq] at same
  obtain ⟨targets, subviews, raised, way⟩ := same
  constructor
  · exact h.toWired.congr targets subviews
  · exact raised.trans h.raised
  · exact fun inUse => way.trans (h.phone inUse)
  · exact fun inUse => way.trans (h.email inUse)

/-- What the other windows ask for does not move a window. -/
theorem Shows.rewired (h : Shows s w) {code reset : Bool}
    (wired : Wired t { w with codeAsked := code, resetAsked := reset })
    (raised : t.raised = s.raised) (way : t.wayOfSignIn = s.wayOfSignIn) :
    Shows t { w with codeAsked := code, resetAsked := reset } where
  toWired := wired
  raised := raised.trans h.raised
  phone inUse := way.trans (h.phone inUse)
  email inUse := way.trans (h.email inUse)

theorem Shows.openPhoneView (h : Shows s w) (main : w.inUse = .main) :
    Shows s.openPhoneView { w with inUse := .phone, codeAsked := false } where
  toWired := h.toWired.openPhoneView
  raised := by
    have raised : s.raised = w.raised := h.raised
    funext view
    simp only [LoginViewController.openPhoneView, LoginViewController.closeMainCustomView,
      LoginViewController.disappearSecondPhone, setupFirstPhoneView, addTarget, removeTarget,
      removeFromSuperview, LoginViewController.animateDown, animateUp, raised]
    cases view <;> simp [LoginWindow.raised, main]
  phone _ := rfl
  email inUse := CustomView.noConfusion inUse

theorem Shows.openEmailView (h : Shows s w) (main : w.inUse = .main) :
    Shows s.openEmailView { w with inUse := .email, resetAsked := false } where
  toWired := h.toWired.openEmailView
  raised := by
    have raised : s.raised = w.raised := h.raised
    funext view
    simp only [LoginViewController.openEmailView, LoginViewController.closeMainCustomView,
      LoginViewController.disappearReset, setupEmailLoginView, addTarget, removeTarget,
      addSubview, removeFromSuperview, LoginViewController.animateDown, animateUp, raised]
    cases view <;> simp [LoginWindow.raised, main]
  phone inUse := CustomView.noConfusion inUse
  email _ := rfl

theorem doActionsToCloseLogin_phone (way : s.wayOfSignIn = true) :
    s.doActionsToCloseLogin = s.animateDown .phone := by
  simp [doActionsToCloseLogin, way]

theorem doActionsToCloseLogin_email (way : s.wayOfSignIn = false) :
    s.doActionsToCloseLogin = s.animateDown .email := by
  simp [doActionsToCloseLogin, way]

/-- The window that is lowered is the one in use. -/
theorem Shows.openMainCustomView (h : Shows s w) (other : w.inUse ≠ .main) :
    Shows s.openMainCustomView { w with inUse := .main } where
  toWired := h.toWired.openMainCustomView
  raised := by
    let offered := ((s.removeTarget .openMainCustomViewButton .openMainCustomView).animateUp
      .main).offerWays
    have raised : offered.raised = Function.update w.raised .main (w.raised .main + 1) := by
      rw [← h.raised]
      rfl
    funext view
    cases inUse : w.inUse with
    | main => exact absurd inUse other
    | phone =>
      have way : offered.wayOfSignIn = true := h.phone inUse
      rw [LoginViewController.openMainCustomView, doActionsToCloseLogin_phone way]
      simp only [LoginViewController.animateDown, raised]
      cases view <;> simp [LoginWindow.raised, inUse]
    | email =>
      have way : offered.wayOfSignIn = false := h.email inUse
      rw [LoginViewController.openMainCustomView, doActionsToCloseLogin_email way]
      simp only [LoginViewController.animateDown, raised]
      cases view <;> simp [LoginWindow.raised, inUse]
  phone inUse := CustomView.noConfusion inUse
  email inUse := CustomView.noConfusion inUse

theorem Shows.resetMainCustomView (h : Shows s w) (main : w.inUse = .main) :
    Shows s.resetMainCustomView w where
  toWired := by
    have wired := h.toWired.resetMainCustomView
    rw [← main] at wired
    exact wired
  raised := h.raised
  phone inUse := h.phone inUse
  email inUse := h.email inUse

theorem Shows.phone_of_raised (h : Shows s w) (raised : 0 < s.raised .phone) :
    w.inUse = .phone := by
  by_contra other
  rw [h.raised] at raised
  simp [LoginWindow.raised, other] at raised

theorem Shows.email_of_raised (h : Shows s w) (raised : 0 < s.raised .email) :
    w.inUse = .email := by
  by_contra other
  rw [h.raised] at raised
  simp [LoginWindow.raised, other] at raised

end Windows

/-- The screen has not appeared, or a registration is on its way or takes its place. -/
def Away (s : LoginViewController) : Prop :=
  s.appeared = false ∨ s.registrations ≠ 0 ∨ s.presented = some .registration

/-- What is presented, and how deep the main window has sunk. -/
structure Stage (s : LoginViewController) : Prop where
  registers : s.registrations ≠ 0 →
    s.registrations = 1 ∧ s.presented = none ∧ s.didAppearLogin = true
  -- the main window is out of sight once: before it appears, and around a registration
  height : s.sunk + s.sinking = if s.didAppearLogin = true ∧ s.registrations = 0 then 0 else 1
  fresh : s.appeared = false →
    s.presented = none ∧ s.registrations = 0 ∧ s.sinking = 0 ∧ s.didAppearLogin = false
  rest : s.appeared = true → s.presented ≠ some .registration → s.didAppearLogin = true
  below : s.presented ≠ some .loginScreen
  admits : s.presented = some .mainTabBar → s.currentuserID ≠ ""

/-- All that the stage depends on. -/
def staging (s : LoginViewController) :
    Option LoginPresented × ℕ × ℤ × ℕ × Bool × Bool × String :=
  (s.presented, s.registrations, s.sunk, s.sinking, s.appeared, s.didAppearLogin, s.currentuserID)

/-- The stage stays as it is. -/
def SameStage (s t : LoginViewController) : Prop := t.staging = s.staging

/-- One window is in use, and what is due is due for it. -/
structure Ordered (s : LoginViewController) (w : LoginWindow) : Prop
    extends Shows s w, Stage s where
  one : s.blocks.length + s.calls.length ≤ 1
  -- the request for a code is put on the queue before the controls are disabled
  waits : s.calls ≠ [] ∨ (∃ email password, .login email password ∈ s.blocks) → s.enabled = false
  due : s.calls ≠ [] ∨ (∃ block ∈ s.blocks, block ≠ .resetMainCustomView) → w.inUse ≠ .main
  reset : .resetMainCustomView ∈ s.blocks → w.inUse = .main
  away : s.Away → w.inUse = .main ∧ s.blocks = []
  returns : s.presented = some .mainTabBar → .loginSucceeded ∉ s.blocks → w.inUse = .main

section Ordering

variable {s t : LoginViewController} {w : LoginWindow} {e : Event}

theorem SameStage.presented (same : SameStage s t) : t.presented = s.presented :=
  congrArg Prod.fst same

theorem Stage.congr (h : Stage s) (same : SameStage s t) : Stage t := by
  simp only [SameStage, staging, Prod.mk.injEq] at same
  obtain ⟨presented, registrations, sunk, sinking, appeared, didAppearLogin, currentuserID⟩ := same
  constructor
  all_goals simp only [presented, registrations, sunk, sinking, appeared, didAppearLogin,
    currentuserID]
  · exact h.registers
  · exact h.height
  · exact h.fresh
  · exact h.rest
  · exact h.below
  · exact h.admits

theorem SameStage.away (same : SameStage s t) (away : t.Away) : s.Away := by
  simp only [SameStage, staging, Prod.mk.injEq] at same
  rwa [Away, same.2.2.2.2.1, same.2.1, same.1] at away

theorem Stage.appeared (h : Stage s) (covered : s.presented ≠ none) : s.appeared = true := by
  by_contra fresh
  exact covered (h.fresh (Bool.eq_false_iff.mpr fresh)).1

theorem Stage.no_registrations (h : Stage s) (covered : s.presented ≠ none) :
    s.registrations = 0 := by
  by_contra registers
  exact covered (h.registers registers).2.1

/-- Nothing is due. -/
theorem Ordered.of_quiet (shows : Shows s w) (stage : Stage s) (blocks : s.blocks = [])
    (calls : s.calls = []) (away : s.Away → w.inUse = .main)
    (returns : s.presented = some .mainTabBar → w.inUse = .main) : Ordered s w where
  toShows := shows
  toStage := stage
  one := by simp [blocks, calls]
  waits := by simp [blocks, calls]
  due := by simp [blocks, calls]
  reset := by simp [blocks]
  away now := ⟨away now, blocks⟩
  returns now _ := returns now

/-- Something is due for a window that is not the main one. -/
theorem Ordered.of_due (shows : Shows s w) (stage : Stage s) (other : w.inUse ≠ .main)
    (near : ¬ s.Away) (one : s.blocks.length + s.calls.length ≤ 1)
    (waits : s.calls ≠ [] ∨ (∃ email password, .login email password ∈ s.blocks) →
      s.enabled = false)
    (reset : .resetMainCustomView ∉ s.blocks)
    (returns : s.presented = some .mainTabBar → .loginSucceeded ∈ s.blocks) : Ordered s w where
  toShows := shows
  toStage := stage
  one := one
  waits := waits
  due _ := other
  reset mem := absurd mem reset
  away now := absurd now near
  returns now gone := absurd (returns now) gone

/-- What the user touches. -/
structure Idle (s : LoginViewController) : Prop where
  presented : s.presented = none
  blocks : s.blocks = []
  calls : s.calls = []
  registrations : s.registrations = 0
  appeared : s.appeared = true

theorem Idle.near (idle : Idle s) : ¬ s.Away := by
  rintro (fresh | registers | presented)
  · exact absurd (idle.appeared.symm.trans fresh) Bool.noConfusion
  · exact registers idle.registrations
  · rw [idle.presented] at presented
    cases presented

/-- A touch that only changes the windows. -/
theorem Idle.ordered (idle : Idle s) (stage : Stage s) (same : SameStage s t)
    (blocks : t.blocks = s.blocks) (calls : t.calls = s.calls) (shows : Shows t w) :
    Ordered t w := by
  apply Ordered.of_quiet shows (stage.congr same) (blocks.trans idle.blocks)
    (calls.trans idle.calls)
  · intro away
    exact absurd (same.away away) idle.near
  · intro presented
    rw [same.presented, idle.presented] at presented
    cases presented

theorem Ordered.idle (h : Ordered s w) (presented : s.presented = none) (enabled : s.enabled = true)
    (blocks : s.blocks = []) (registrations : s.registrations = 0)
    (inSight : s.sunk ≤ 0 ∨ w.inUse ≠ .main) : Idle s where
  presented := presented
  blocks := blocks
  -- the controls are disabled while an answer is due
  calls := by
    by_contra due
    exact absurd (enabled.symm.trans (h.waits (Or.inl due))) Bool.noConfusion
  registrations := registrations
  appeared := by
    by_contra fresh
    have fresh := Bool.eq_false_iff.mpr fresh
    obtain ⟨-, -, sinking, hidden⟩ := h.fresh fresh
    rcases inSight with inSight | other
    · -- before it appears the main window is out of sight
      have height := h.height
      rw [hidden, sinking, if_neg fun now => Bool.noConfusion now.1] at height
      omega
    · exact other (h.away (Or.inl fresh)).1

theorem sameStage_openMainCustomView (s : LoginViewController) :
    SameStage s s.openMainCustomView ∧ s.openMainCustomView.blocks = s.blocks ∧
      s.openMainCustomView.calls = s.calls := by
  simp only [LoginViewController.openMainCustomView, doActionsToCloseLogin]
  split <;> exact ⟨rfl, rfl, rfl⟩

theorem Ordered.showRegistration (h : Ordered s w) (idle : Idle s) (main : w.inUse = .main) :
    Ordered s.showRegistration w := by
  have rested := h.rest idle.appeared (by simp [idle.presented])
  have height := h.height
  rw [if_pos ⟨rested, idle.registrations⟩] at height
  have stage : Stage s.showRegistration := by
    constructor
    · intro
      exact ⟨congrArg (· + 1) idle.registrations, idle.presented, rested⟩
    · simp only [LoginViewController.showRegistration, idle.registrations]
      simp
      omega
    · intro fresh
      exact absurd (idle.appeared.symm.trans fresh) Bool.noConfusion
    · exact h.rest
    · exact h.below
    · exact h.admits
  exact .of_quiet (h.toShows.congr rfl) stage idle.blocks idle.calls (fun _ => main)
    fun _ => main

/-- A touch that has a code sent or checked. -/
theorem Ordered.dispatch (h : Ordered s w) (idle : Idle s) (other : w.inUse ≠ .main)
    {block : LoginBlock} (different : block ≠ .resetMainCustomView)
    (code : ∀ email password, block ≠ .login email password) :
    Ordered (s.dispatch block) w := by
  have only : (s.dispatch block).blocks = [block] := by
    rw [LoginViewController.dispatch, idle.blocks]
    rfl
  refine .of_due (h.toShows.congr rfl) (h.toStage.congr rfl) other idle.near ?_ ?_ ?_ ?_
  · rw [only]
    exact Nat.le_of_eq (congrArg (1 + List.length ·) idle.calls)
  · rintro (due | ⟨email, password, mem⟩)
    · exact absurd idle.calls due
    · rw [only] at mem
      exact absurd (List.mem_singleton.mp mem).symm (code email password)
  · rw [only]
    simpa using different.symm
  · intro presented
    rw [LoginViewController.dispatch, idle.presented] at presented
    cases presented

theorem Ordered.logIn (h : Ordered s w) (idle : Idle s) (other : w.inUse ≠ .main) :
    Ordered s.logIn w := by
  rw [LoginViewController.logIn]
  split
  · have only :
        ((s.isEnabledEverything false).dispatch (.login s.emailText s.passwordText)).blocks =
          [.login s.emailText s.passwordText] := by
      rw [LoginViewController.dispatch, isEnabledEverything, idle.blocks]
      rfl
    refine .of_due (h.toShows.congr rfl) (h.toStage.congr rfl) other idle.near ?_ ?_ ?_ ?_
    · rw [only]
      exact Nat.le_of_eq (congrArg (1 + List.length ·) idle.calls)
    · exact fun _ => rfl
    · rw [only]
      simp
    · intro presented
      rw [LoginViewController.dispatch, isEnabledEverything, idle.presented] at presented
      cases presented
  · exact idle.ordered h.toStage rfl rfl rfl (h.toShows.congr rfl)

theorem Ordered.touch (h : Ordered s w) {control : LoginControl} (blocks : s.blocks = [])
    (registrations : s.registrations = 0) (taken : s.touch control = some t) :
    ∃ v, Ordered t v := by
  obtain ⟨⟨presented, enabled, inSight⟩, touched⟩ := Option.ite_none_right_eq_some.mp taken
  obtain rfl := Option.some.inj touched
  have idle := h.idle presented enabled blocks registrations
  have stage := h.toStage
  rw [h.targets]
  -- a control of the main window that has no target now
  have nothing (sunk : s.sunk ≤ 0) : Ordered s w :=
    (idle (Or.inl sunk)).ordered stage rfl rfl rfl h.toShows
  cases control with
  | openPhoneLoginView =>
    have sunk := of_decide_eq_true inSight
    by_cases main : w.inUse = .main
    · simp only [LoginWindow.targets, if_pos main, List.foldl_cons, List.foldl_nil]
      exact ⟨_, (idle (Or.inl sunk)).ordered stage rfl rfl rfl (h.toShows.openPhoneView main)⟩
    · simp only [LoginWindow.targets, if_neg main, List.foldl_nil]
      exact ⟨w, nothing sunk⟩
  | openEmailLoginView =>
    have sunk := of_decide_eq_true inSight
    by_cases main : w.inUse = .main
    · simp only [LoginWindow.targets, if_pos main, List.foldl_cons, List.foldl_nil]
      exact ⟨_, (idle (Or.inl sunk)).ordered stage rfl rfl rfl (h.toShows.openEmailView main)⟩
    · simp only [LoginWindow.targets, if_neg main, List.foldl_nil]
      exact ⟨w, nothing sunk⟩
  | openRegistrationButton =>
    have sunk := of_decide_eq_true inSight
    by_cases main : w.inUse = .main
    · simp only [LoginWindow.targets, if_pos main, List.foldl_cons, List.foldl_nil]
      exact ⟨w, h.showRegistration (idle (Or.inl sunk)) main⟩
    · simp only [LoginWindow.targets, if_neg main, List.foldl_nil]
      exact ⟨w, nothing sunk⟩
  | openMainCustomViewButton =>
    have sunk := of_decide_eq_true inSight
    by_cases main : w.inUse = .main
    · simp only [LoginWindow.targets, if_pos main, List.foldl_nil]
      exact ⟨w, nothing sunk⟩
    · simp only [LoginWindow.targets, if_neg main, List.foldl_cons, List.foldl_nil]
      obtain ⟨same, due, asked⟩ := sameStage_openMainCustomView s
      exact ⟨_, (idle (Or.inl sunk)).ordered stage same due asked
        (h.toShows.openMainCustomView main)⟩
  | phoneCustomViewTextField => cases inSight
  | nextPhoneCustomViewButton =>
    have phone := h.phone_of_raised (of_decide_eq_true inSight)
    have other : w.inUse ≠ .main := by simp [phone]
    refine ⟨w, ?_⟩
    simp only [LoginWindow.targets, List.foldl_cons, List.foldl_nil]
    split <;>
      exact h.dispatch (idle (Or.inr other)) other (by decide) fun _ _ => LoginBlock.noConfusion
  | backPhoneCustomViewButton =>
    have phone := h.phone_of_raised (of_decide_eq_true (Bool.and_eq_true_iff.mp inSight).1)
    have idle := idle (Or.inr (by simp [phone]))
    simp only [LoginWindow.targets]
    split
    · exact ⟨_, idle.ordered stage rfl rfl rfl
        (h.toShows.rewired h.toWired.disappearSecondPhone rfl rfl)⟩
    · exact ⟨w, idle.ordered stage rfl rfl rfl h.toShows⟩
  | nextEmailButton =>
    have email := h.email_of_raised (of_decide_eq_true inSight)
    have other : w.inUse ≠ .main := by simp [email]
    have idle := idle (Or.inr other)
    simp only [LoginWindow.targets]
    split
    · exact ⟨w, idle.ordered stage rfl rfl rfl h.toShows⟩
    · exact ⟨w, h.logIn idle other⟩
  | backEmailButton =>
    have email := h.email_of_raised (of_decide_eq_true (Bool.and_eq_true_iff.mp inSight).1)
    have idle := idle (Or.inr (by simp [email]))
    exact ⟨_, idle.ordered stage rfl rfl rfl (h.toShows.rewired h.toWired.disappearReset rfl rfl)⟩
  | resetButton =>
    have email := h.email_of_raised (of_decide_eq_true (Bool.and_eq_true_iff.mp inSight).1)
    have idle := idle (Or.inr (by simp [email]))
    exact ⟨_, idle.ordered stage rfl rfl rfl
      (h.toShows.rewired h.toWired.disappearFirstEmail rfl rfl)⟩

/-! ### Blocks and answers -/

theorem Ordered.near (h : Ordered s w) (other : w.inUse ≠ .main) : ¬ s.Away :=
  fun now => other (h.away now).1

/-- While something is due for another window, no tab bar is shown. -/
theorem Ordered.hidden (h : Ordered s w) (other : w.inUse ≠ .main)
    (due : .loginSucceeded ∉ s.blocks) : s.presented = none := by
  cases presented : s.presented with
  | none => rfl
  | some screen =>
    cases screen with
    | mainTabBar => exact absurd (h.returns presented due) other
    | registration => exact absurd (Or.inr (Or.inr presented)) (h.near other)
    | loginScreen => exact absurd presented h.below

/-- A window that is not the main one is in use, and nothing is due for it. -/
structure Answering (s : LoginViewController) (w : LoginWindow) : Prop
    extends Shows s w, Stage s where
  other : w.inUse ≠ .main
  near : ¬ s.Away
  presented : s.presented = none
  blocks : s.blocks = []
  calls : s.calls = []

theorem Answering.ordered (h : Answering s w) : Ordered s w := by
  apply Ordered.of_quiet h.toShows h.toStage h.blocks h.calls
  · exact fun now => absurd now h.near
  · intro presented
    rw [h.presented] at presented
    cases presented

/-- Something that is not on the stage changes. -/
theorem Answering.congr (h : Answering s w) {v : LoginWindow} (shows : Shows t v)
    (inUse : v.inUse = w.inUse) (same : SameStage s t) (blocks : t.blocks = s.blocks)
    (calls : t.calls = s.calls) : Answering t v where
  toShows := shows
  toStage := h.toStage.congr same
  other := inUse ▸ h.other
  near now := h.near (same.away now)
  presented := same.presented.trans h.presented
  blocks := blocks.trans h.blocks
  calls := calls.trans h.calls

/-- Texts, alerts and controls change. -/
theorem Answering.beside (h : Answering s w) (windows : SameWindows s t) (same : SameStage s t)
    (blocks : t.blocks = s.blocks) (calls : t.calls = s.calls) : Answering t w :=
  h.congr (h.toShows.congr windows) rfl same blocks calls

theorem Answering.call (h : Answering s w) (loginCall : LoginCall) (disabled : s.enabled = false) :
    Ordered (s.call loginCall) w := by
  refine .of_due (h.toShows.congr rfl)
    (h.toStage.congr rfl) h.other h.near ?_ (fun _ => disabled) ?_ ?_
  · simp [LoginViewController.call, h.blocks, h.calls]
  · simp [LoginViewController.call, h.blocks]
  · intro presented
    exact absurd (h.presented.symm.trans presented) (Option.some_ne_none _).symm

theorem Answering.loginSucceeded (h : Answering s w) (known : s.currentuserID ≠ "") :
    Ordered s.loginSucceeded w := by
  have appeared : s.appeared = true := by
    by_contra fresh
    exact h.near (Or.inl (Bool.eq_false_iff.mpr fresh))
  have stage : Stage s.loginSucceeded := by
    have shown : s.loginSucceeded.presented = some .mainTabBar := by
      simp [LoginViewController.loginSucceeded, LoginViewController.dispatch, present, h.presented]
    constructor
    · intro registers
      exact absurd (Or.inr (Or.inl registers)) h.near
    · exact h.height
    · intro fresh
      exact absurd (appeared.symm.trans fresh) Bool.noConfusion
    · intro _ _
      exact h.rest appeared (by simp [h.presented])
    · simp [shown]
    · exact fun _ => known
  have only : s.loginSucceeded.blocks = [.loginSucceeded] := by
    simp [LoginViewController.loginSucceeded, LoginViewController.dispatch, present, h.blocks]
  have asked : s.loginSucceeded.calls = [] := h.calls
  refine .of_due (h.toShows.congr rfl) stage h.other ?_ ?_ ?_ ?_ ?_
  · rintro (fresh | registers | presented)
    · exact h.near (Or.inl fresh)
    · exact h.near (Or.inr (Or.inl registers))
    · simp [LoginViewController.loginSucceeded, LoginViewController.dispatch, present,
        h.presented] at presented
  · simp [only, asked]
  · simp [only, asked]
  · simp [only]
  · simp [only]

theorem Ordered.runBlock (h : Ordered s w) {block : LoginBlock} {rest : List LoginBlock}
    (queue : s.blocks = block :: rest) :
    ∃ v, Ordered ({ s with blocks := rest }.runBlock block) v := by
  have one := h.one
  rw [queue, List.length_cons] at one
  obtain rfl : rest = [] := List.length_eq_zero_iff.mp (by omega)
  have asked : s.calls = [] := List.length_eq_zero_iff.mp (by omega)
  have answering (different : block ≠ .resetMainCustomView) (due : block ≠ .loginSucceeded) :
      Answering { s with blocks := [] } w := by
    have other := h.due (Or.inr ⟨block, queue ▸ List.mem_cons_self, different⟩)
    refine ⟨h.toShows.congr rfl, h.toStage.congr rfl, other, h.near other, ?_, rfl, asked⟩
    exact h.hidden other (by simp [queue, due.symm])
  cases block with
  | sendCodeNet =>
    have answering := answering (by decide) (by decide)
    refine ⟨w, ?_⟩
    simp only [LoginViewController.runBlock, sendCodeNet]
    split
    · refine Answering.call (s := { s with blocks := [] }.isEnabledEverything false) ?_ _ rfl
      exact answering.beside rfl rfl rfl rfl
    · apply Answering.ordered
      exact answering.beside rfl rfl rfl rfl
  | checkCode =>
    have answering := answering (by decide) (by decide)
    refine ⟨w, ?_⟩
    refine Answering.call
      (s := { { s with blocks := [] }.isEnabledEverything false with showChecked := true }) ?_ _ rfl
    exact answering.beside rfl rfl rfl rfl
  | login email password =>
    have answering := answering (by simp) (by simp)
    refine ⟨w, answering.call _ ?_⟩
    exact h.waits (Or.inr ⟨email, password, queue ▸ List.mem_cons_self⟩)
  | loginSucceeded =>
    have other := h.due (Or.inr ⟨_, queue ▸ List.mem_cons_self, by decide⟩)
    have cleared : Shows { s with blocks := [] } w := h.toShows.congr rfl
    have stage : Stage { s with blocks := [] } := h.toStage.congr rfl
    -- the window that has logged in is closed
    have opened (u : LoginViewController) (v : LoginWindow) (shows : Shows u v)
        (inUse : v.inUse = w.inUse) (same : SameStage { s with blocks := [] } u)
        (blocks : u.blocks = []) (calls : u.calls = s.calls) :
        Ordered u.openMainCustomView { v with inUse := .main } := by
      obtain ⟨kept, due, left⟩ := sameStage_openMainCustomView u
      exact .of_quiet (shows.openMainCustomView (inUse ▸ other)) ((stage.congr same).congr kept)
        (due.trans blocks) (left.trans (calls.trans asked)) (fun _ => rfl) fun _ => rfl
    simp only [LoginViewController.runBlock]
    split
    · exact ⟨_, opened _ w (cleared.congr rfl) rfl rfl rfl rfl⟩
    · exact ⟨_, opened _ _ (cleared.rewired cleared.toWired.disappearSecondPhone rfl rfl) rfl
        rfl rfl rfl⟩
  | resetMainCustomView =>
    have main := h.reset (queue ▸ List.mem_cons_self)
    have cleared : Shows { s with blocks := [] } w := h.toShows.congr rfl
    exact ⟨w, .of_quiet (cleared.resetMainCustomView main) (h.toStage.congr rfl) rfl asked
      (fun _ => main) fun _ => main⟩

/-- An answer comes for a window in use. -/
theorem Ordered.answering (h : Ordered s w) {index : ℕ} {loginCall : LoginCall}
    (here : s.calls[index]? = some loginCall) : Answering (s.answered index) w := by
  have bound := (List.getElem?_eq_some_iff.mp here).1
  have one := h.one
  have fewer : (s.answered index).calls.length = s.calls.length - 1 :=
    List.length_eraseIdx_of_lt bound
  have blocks : s.blocks = [] := List.length_eq_zero_iff.mp (by omega)
  have due : s.calls ≠ [] := List.ne_nil_of_length_pos (by omega)
  have other := h.due (Or.inl due)
  exact ⟨h.toShows.congr rfl, h.toStage.congr rfl,
    other, h.near other, h.hidden other (by simp [blocks]), blocks,
    List.length_eq_zero_iff.mp (by omega)⟩

theorem Answering.alerted (h : Answering s w) (title message : String) :
    Ordered ((s.showAlert title message).isEnabledEverything true) w := by
  apply Answering.ordered
  exact h.beside rfl rfl rfl rfl

theorem Answering.sendCodeReturn (h : Answering s w) (b : Bool) :
    ∃ v, Ordered (s.sendCodeReturn b) v := by
  rw [LoginViewController.sendCodeReturn]
  split
  · have enabled : Shows (s.isEnabledEverything true) w := h.toShows.congr rfl
    exact ⟨_, (h.congr (enabled.rewired enabled.toWired.disappearFirstPhone rfl rfl) rfl
      rfl rfl rfl).ordered⟩
  · exact ⟨w, h.alerted _ _⟩

/-- The controls are enabled while the main tab bar is shown. -/
theorem Answering.loginCompleted (h : Answering s w) (known : s.currentuserID ≠ "") :
    Ordered s.loginCompleted w := by
  have enabled : Answering (s.isEnabledEverything true) w :=
    h.beside rfl rfl rfl rfl
  exact enabled.loginSucceeded known

theorem Answering.checkingReturn (h : Answering s w) (b : Bool) :
    Ordered (s.checkingReturn b) w := by
  simp only [LoginViewController.checkingReturn]
  split
  case isTrue known =>
    split
    · exact h.loginCompleted known
    · exact h.alerted _ _
  case isFalse => exact h.alerted _ _

theorem Answering.delegate (h : Answering s w) {called : LoginViewController}
    (ordered : ∃ v, Ordered called v) : ∃ v, Ordered (s.delegate called) v := by
  rw [LoginViewController.delegate]
  split
  · exact ordered
  · exact ⟨w, h.ordered⟩

theorem Answering.fail (h : Answering s w) (error : String) (loginCall : LoginCall) :
    ∃ v, Ordered (s.fail error loginCall) v := by
  cases loginCall with
  -- if another screen is the delegate, the answer changes nothing here
  | verifyPhoneNumber => exact h.delegate (h.sendCodeReturn false)
  | signIn => exact h.delegate ⟨w, h.checkingReturn false⟩
  | login => exact ⟨w, h.alerted _ _⟩

/-- Nobody is admitted yet when the user who signs in is noted. -/
theorem Answering.noted (h : Answering s w) (userID : String) :
    Answering { s with currentuserID := userID } w := by
  refine ⟨h.toShows.congr rfl, ?_, h.other, h.near, h.presented, h.blocks, h.calls⟩
  refine ⟨h.registers, h.height, h.fresh, h.rest, h.below, fun presented => ?_⟩
  exact absurd (h.presented.symm.trans presented) (Option.some_ne_none _).symm

theorem Answering.succeed (h : Answering s w) {account : AuthUser} (known : account.uid ≠ "")
    (loginCall : LoginCall) : ∃ v, Ordered (s.succeed account loginCall) v := by
  cases loginCall with
  | verifyPhoneNumber => exact h.delegate (h.sendCodeReturn true)
  | signIn =>
    simp only [LoginViewController.succeed]
    split
    · exact (h.noted account.uid).delegate ⟨w, (h.noted account.uid).checkingReturn true⟩
    · exact h.delegate ⟨w, h.checkingReturn true⟩
  | login => exact ⟨w, (h.noted account.uid).loginCompleted known⟩

/-! ### What is presented -/

theorem Ordered.animateDown (h : Ordered s w) (sinking : s.sinking ≠ 0) :
    Ordered { s with sinking := s.sinking - 1, sunk := s.sunk + 1 } w := by
  have stage : Stage { s with sinking := s.sinking - 1, sunk := s.sunk + 1 } := by
    refine ⟨h.registers, ?_, fun fresh => ?_, h.rest, h.below, h.admits⟩
    · refine Eq.trans ?_ h.height
      simp only
      omega
    · exact absurd (h.fresh fresh).2.2.1 sinking
  exact ⟨h.toShows.congr rfl, stage, h.one, h.waits, h.due, h.reset, h.away, h.returns⟩

/-- What was typed, and nothing else, is different. -/
theorem Ordered.typed (h : Ordered s w) (windows : SameWindows s t) (same : SameStage s t)
    (blocks : t.blocks = s.blocks) (calls : t.calls = s.calls) (enabled : t.enabled = s.enabled) :
    Ordered t w where
  toShows := h.toShows.congr windows
  toStage := h.toStage.congr same
  one := by rw [blocks, calls]; exact h.one
  waits := by rw [blocks, calls, enabled]; exact h.waits
  due := by rw [blocks, calls]; exact h.due
  reset := by rw [blocks]; exact h.reset
  away now := by rw [blocks]; exact h.away (same.away now)
  returns := by rw [blocks, same.presented]; exact h.returns

theorem Ordered.calls_of_main (h : Ordered s w) (main : w.inUse = .main) : s.calls = [] := by
  by_contra due
  exact h.due (Or.inl due) main

/-- The registration takes the place of a screen that nothing is due for. -/
theorem Ordered.presentRegistration (h : Ordered s w) (registers : s.registrations ≠ 0) :
    Ordered { { s with
      registrations := s.registrations - 1, didAppearLogin := false }.present .registration with
        showChecked := false } w := by
  obtain ⟨one, presented, rested⟩ := h.registers registers
  obtain ⟨main, blocks⟩ := h.away (Or.inr (Or.inl registers))
  have appeared : s.appeared = true := by
    by_contra fresh
    exact registers (h.fresh (Bool.eq_false_iff.mpr fresh)).2.1
  have height := h.height
  rw [if_neg fun now => registers now.2] at height
  refine .of_quiet (h.toShows.congr rfl) ?_ blocks (h.calls_of_main main)
    (fun _ => main) fun _ => main
  constructor
  · intro left
    exact absurd (congrArg (· - 1) one) left
  · simpa [present] using height
  · intro fresh
    exact absurd (appeared.symm.trans fresh) Bool.noConfusion
  · intro _ other
    simp [present, presented] at other
  · simp [present, presented]
  · simp [present, presented]

/-- The main window is in sight, and nothing is due. -/
structure Arrived (s : LoginViewController) (w : LoginWindow) : Prop extends Shows s w where
  main : w.inUse = .main
  appeared : s.appeared = true
  didAppearLogin : s.didAppearLogin = true
  presented : s.presented = none
  registrations : s.registrations = 0
  height : s.sunk + s.sinking = 0
  blocks : s.blocks = []
  calls : s.calls = []

theorem Arrived.ordered (h : Arrived s w) : Ordered s w := by
  refine .of_quiet h.toShows ?_ h.blocks h.calls (fun _ => h.main) fun _ => h.main
  constructor
  · exact fun registers => absurd h.registrations registers
  · rw [if_pos ⟨h.didAppearLogin, h.registrations⟩]
    exact h.height
  · exact fun fresh => absurd (h.appeared.symm.trans fresh) Bool.noConfusion
  · exact fun _ _ => h.didAppearLogin
  · simp [h.presented]
  · simp [h.presented]

/-- The tab bar covers the main window, which has its ways offered again. -/
theorem Arrived.loginSucceededAfterRegistration (h : Arrived s w) (known : s.currentuserID ≠ "") :
    Ordered s.loginSucceededAfterRegistration w := by
  have shown : s.loginSucceededAfterRegistration.presented = some .mainTabBar := by
    simp [LoginViewController.loginSucceededAfterRegistration, LoginViewController.dispatch,
      present, h.presented]
  have only : s.loginSucceededAfterRegistration.blocks = [.resetMainCustomView] := by
    simp [LoginViewController.loginSucceededAfterRegistration, LoginViewController.dispatch,
      present, h.blocks]
  have asked : s.loginSucceededAfterRegistration.calls = [] := h.calls
  have before := h.ordered
  have near : ¬ s.loginSucceededAfterRegistration.Away := by
    rintro (fresh | registers | presented)
    · exact absurd (h.appeared.symm.trans fresh) Bool.noConfusion
    · exact registers h.registrations
    · simp [shown] at presented
  exact {
    toShows := h.toShows.congr rfl
    registers := fun registers => absurd h.registrations registers
    height := before.height
    fresh := fun fresh => absurd (h.appeared.symm.trans fresh) Bool.noConfusion
    rest := fun _ _ => h.didAppearLogin
    below := by simp [shown]
    admits := fun _ => known
    one := by simp [only, asked]
    waits := by simp [only, asked]
    due := by simp [only, asked]
    reset := fun _ => h.main
    away := fun now => absurd now near
    returns := fun _ _ => h.main }

/-- The screen appears while nothing is due. -/
theorem ordered_viewDidAppear (shows : Shows s w) (main : w.inUse = .main)
    (appeared : s.appeared = true) (presented : s.presented = none)
    (registrations : s.registrations = 0)
    (height : s.sunk + s.sinking = if s.didAppearLogin = true then 0 else 1)
    (blocks : s.blocks = []) (calls : s.calls = []) : Ordered s.viewDidAppear w := by
  have admits {u : LoginViewController} (arrived : Arrived u w) :
      Ordered (if u.currentuserID ≠ "" then u.loginSucceededAfterRegistration else u) w := by
    split
    case isTrue known => exact arrived.loginSucceededAfterRegistration known
    case isFalse => exact arrived.ordered
  simp only [LoginViewController.viewDidAppear]
  split
  case isTrue rested =>
    rw [if_pos rested] at height
    exact admits ⟨shows, main, appeared, rested, presented, registrations, height, blocks, calls⟩
  case isFalse hidden =>
    rw [if_neg hidden] at height
    refine admits ⟨shows.congr rfl, main, appeared, rfl, presented, registrations, ?_,
      blocks, calls⟩
    simp only
    omega

theorem Ordered.endRegistration (h : Ordered s w) (presented : s.presented = some .registration)
    (userID : String) :
    Ordered { s with presented := none, currentuserID := userID }.viewDidAppear w := by
  obtain ⟨main, blocks⟩ := h.away (Or.inr (Or.inr presented))
  have covered : s.presented ≠ none := by simp [presented]
  have appeared := h.toStage.appeared covered
  have registrations := h.toStage.no_registrations covered
  have height := h.height
  rw [registrations] at height
  exact ordered_viewDidAppear (h.toShows.congr rfl) main appeared rfl registrations
    (by simpa using height) blocks (h.calls_of_main main)

theorem Ordered.viewDidAppear (h : Ordered s w) (fresh : s.appeared = false) :
    Ordered { s with appeared := true }.viewDidAppear w := by
  obtain ⟨presented, registrations, -, -⟩ := h.fresh fresh
  obtain ⟨main, blocks⟩ := h.away (Or.inl fresh)
  have height := h.height
  rw [registrations] at height
  exact ordered_viewDidAppear (h.toShows.congr rfl) main rfl presented registrations
    (by simpa using height) blocks (h.calls_of_main main)

/-- Whoever exits finds the screen as it was left, a block that closes a window included. -/
theorem Ordered.exit (h : Ordered s w) (presented : s.presented = some .mainTabBar) :
    Ordered s.exit w := by
  have covered : s.presented ≠ none := by simp [presented]
  have appeared := h.toStage.appeared covered
  have registrations := h.toStage.no_registrations covered
  have rested := h.rest appeared (by simp [presented])
  have leaves : s.exit = { s with currentuserID := "", presented := none } := by
    simp [LoginViewController.exit, LoginViewController.viewDidAppear, rested]
  rw [leaves]
  exact {
    toShows := h.toShows.congr rfl
    registers := fun registers => absurd registrations registers
    height := h.height
    fresh := fun fresh => absurd (appeared.symm.trans fresh) Bool.noConfusion
    rest := fun _ _ => rested
    below := by simp
    admits := by simp
    one := h.one
    waits := h.waits
    due := h.due
    reset := h.reset
    away := by
      rintro (fresh | registers | registration)
      · exact absurd (appeared.symm.trans fresh) Bool.noConfusion
      · exact absurd registrations registers
      · cases registration
    returns := by simp }

/-! ### Runs -/

/-- A control is touched when the blocks of the touch before have run and no registration is on
its way, and Firebase knows a user by an id. -/
def InTurn (s : LoginViewController) : Event → Prop
  | .touch _ => s.blocks = [] ∧ s.registrations = 0
  | .succeed _ account => account.uid ≠ ""
  | _ => True

instance InTurn.decidable (s : LoginViewController) (e : Event) : Decidable (InTurn s e) := by
  cases e <;> unfold InTurn <;> infer_instance

theorem Ordered.step (h : Ordered s w) (inTurn : InTurn s e) (taken : s.step e = some t) :
    ∃ v, Ordered t v := by
  cases e with
  | typePhone | typeEmail =>
    obtain ⟨-, typed⟩ := Option.ite_none_right_eq_some.mp taken
    obtain rfl := Option.some.inj typed
    exact ⟨w, h.typed rfl rfl rfl rfl rfl⟩
  | touch control => exact h.touch inTurn.1 inTurn.2 taken
  | runBlock =>
    cases queue : s.blocks with
    | nil => simp [LoginViewController.step, queue] at taken
    | cons block rest =>
      simp only [LoginViewController.step, queue, Option.some.injEq] at taken
      exact taken ▸ h.runBlock queue
  | fail index error =>
    obtain ⟨loginCall, here, rfl⟩ := Option.map_eq_some_iff.mp taken
    exact (h.answering here).fail error loginCall
  | succeed index account =>
    obtain ⟨loginCall, here, rfl⟩ := Option.map_eq_some_iff.mp taken
    exact (h.answering here).succeed inTurn loginCall
  | animateDown =>
    obtain ⟨sinking, sinks⟩ := Option.ite_none_left_eq_some.mp taken
    obtain rfl := Option.some.inj sinks
    exact ⟨w, h.animateDown sinking⟩
  | presentRegistration =>
    obtain ⟨registers, presents⟩ := Option.ite_none_left_eq_some.mp taken
    have free := (h.registers registers).2.1
    simp only [if_pos free] at presents
    obtain rfl := Option.some.inj presents
    exact ⟨w, h.presentRegistration registers⟩
  | endRegistration userID =>
    obtain ⟨presented, ends⟩ := Option.ite_none_right_eq_some.mp taken
    obtain rfl := Option.some.inj ends
    exact ⟨w, h.endRegistration presented userID⟩
  | exit =>
    obtain ⟨presented, exits⟩ := Option.ite_none_right_eq_some.mp taken
    obtain rfl := Option.some.inj exits
    exact ⟨w, h.exit presented⟩
  | viewDidAppear =>
    obtain ⟨fresh, appears⟩ := Option.ite_none_left_eq_some.mp taken
    obtain rfl := Option.some.inj appears
    exact ⟨w, h.viewDidAppear (Bool.eq_false_iff.mpr fresh)⟩

theorem ordered_viewDidLoad : Ordered viewDidLoad {} := by
  refine .of_quiet ⟨wired_viewDidLoad, ?_, ?_, ?_⟩ ?_ rfl rfl (fun _ => rfl) fun _ => rfl
  · funext view
    cases view <;> rfl
  · exact CustomView.noConfusion
  · exact CustomView.noConfusion
  · refine ⟨absurd rfl, rfl, fun _ => ⟨rfl, rfl, rfl, rfl⟩, ?_, ?_, ?_⟩
    · exact Bool.noConfusion
    · exact (Option.some_ne_none _).symm
    · exact fun presented => absurd presented (Option.some_ne_none _).symm

/-- What the user sees of a screen in order. Once the screen has appeared, the main window is in
sight whenever no registration covers it or is on its way; a tab bar is shown to a user who is
signed in, and it covers the main window once the window that was used to log in is closed. -/
structure InOrder (s : LoginViewController) (w : LoginWindow) : Prop extends Wired s w where
  raised : s.raised = w.raised
  inSight : s.appeared = true → s.presented ≠ some .registration → s.registrations = 0 →
    s.sunk + s.sinking = 0
  below : s.presented ≠ some .loginScreen
  admits : s.presented = some .mainTabBar → s.currentuserID ≠ ""
  returns : s.presented = some .mainTabBar → .loginSucceeded ∉ s.blocks → w.inUse = .main

theorem Ordered.inOrder (h : Ordered s w) : InOrder s w where
  toWired := h.toWired
  raised := h.raised
  inSight appeared other registrations := by
    have height := h.height
    rwa [if_pos ⟨h.rest appeared other, registrations⟩] at height
  below := h.below
  admits := h.admits
  returns := h.returns

end Ordering

/-- In every run in which the user waits for blocks and registrations, and Firebase knows users by
ids, one window is in use at a time, and the animations of all others cancel out: the main window
comes back after each login, registration and exit. -/
theorem one_window (events : List Event) (inTurn : EveryStep step InTurn viewDidLoad events) :
    EveryState step (fun s => ∃ w, InOrder s w) viewDidLoad events := by
  refine EveryState.of_guarded_invariant (I := fun s => ∃ w, Ordered s w) ?_ ?_
    ⟨_, ordered_viewDidLoad⟩ inTurn
  · rintro s e t ⟨w, h⟩ inTurn taken
    exact h.step inTurn taken
  · rintro s ⟨w, h⟩
    exact ⟨w, h.inOrder⟩

/-- A user logs in with an e-mail, exits and registers. -/
def visit : List Event :=
  [.viewDidAppear, .touch .openEmailLoginView, .typeEmail "ann@mail.ru" "123456",
    .touch .nextEmailButton, .runBlock, .succeed 0 { uid := "ann", email := some "ann@mail.ru" },
    .runBlock, .exit, .touch .openRegistrationButton, .animateDown, .presentRegistration,
    .endRegistration "bob", .runBlock]

theorem one_window_visit :
    EveryStep step InTurn viewDidLoad visit ∧
      EveryState step (fun s => ∃ w, InOrder s w) viewDidLoad visit ∧
      (exec step viewDidLoad visit).map (·.presented) = some (some .mainTabBar) :=
  ⟨by decide, one_window visit (by decide), by decide⟩

/-- The registration is asked for twice before it is presented. -/
def askedTwice : List Event :=
  [.viewDidAppear, .touch .openRegistrationButton, .touch .openRegistrationButton, .animateDown,
    .animateDown, .presentRegistration, .presentRegistration, .endRegistration ""]

/-- Without turns the main window is lowered twice and raised once. -/
theorem not_one_window :
    ¬ ∀ events, EveryState step (fun s => ∃ w, InOrder s w) viewDidLoad events := by
  intro always
  have ends : (exec step viewDidLoad askedTwice).isSome := by decide
  obtain ⟨t, run⟩ := Option.isSome_iff_exists.mp ends
  have seen {α : Type} (field : LoginViewController → α) :
      some (field t) = (exec step viewDidLoad askedTwice).map field := by
    rw [run]
    rfl
  obtain ⟨w, h⟩ := (always (askedTwice ++ [])).of_append run
  have height := h.inSight (Option.some.inj (seen (·.appeared)))
    (by rw [Option.some.inj (seen (·.presented))]; decide)
    (Option.some.inj (seen (·.registrations)))
  have sunk : t.sunk + t.sinking = 1 := Option.some.inj (seen fun t => t.sunk + t.sinking)
  omega

end LoginViewController

end OnMap
