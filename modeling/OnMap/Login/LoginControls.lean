/-
# The controls of the login screen

What the login screen shows is told by three things: which window is in use, whether the phone
window asks for the code, and whether the e-mail window asks for the address of a forgotten
password. The targets and the subviews of the screen follow this, whatever is touched when, and
whatever answers and registrations come in between.
-/

import OnMap.Login.LoginViewController

namespace OnMap

open Transition

/-- What the screen shows. -/
structure LoginWindow where
  inUse : CustomView := .main
  codeAsked : Bool := false
  resetAsked : Bool := false
  deriving DecidableEq, Repr

namespace LoginWindow

def targets (w : LoginWindow) : LoginControl → List LoginAction
  | .openPhoneLoginView => if w.inUse = .main then [.openPhoneView] else []
  | .openEmailLoginView => if w.inUse = .main then [.openEmailView] else []
  | .openRegistrationButton => if w.inUse = .main then [.openRegistration] else []
  | .openMainCustomViewButton => if w.inUse = .main then [] else [.openMainCustomView]
  | .phoneCustomViewTextField => [if w.codeAsked then .editingChanged else .editingChangedPhone]
  | .nextPhoneCustomViewButton =>
    [if w.codeAsked then .decideToOpenApp else .decideToOpenSecondPhone]
  | .backPhoneCustomViewButton => if w.codeAsked then [.disappearSecondPhone] else []
  | .nextEmailButton => if w.resetAsked then [] else [.logIn]
  | .backEmailButton => [.disappearReset]
  | .resetButton => [.disappearFirstEmail]

def subviews (w : LoginWindow) : LoginSubview → Bool
  | .tip2OnPhoneCustomView | .backPhoneCustomViewButton => w.codeAsked
  | .passwordTextField | .resetButton => !w.resetAsked
  | .backEmailButton => w.resetAsked

/-- The main window is lowered while another one is raised. -/
def raised (w : LoginWindow) : CustomView → ℤ
  | .main => if w.inUse = .main then 0 else -1
  | .phone => if w.inUse = .phone then 1 else 0
  | .email => if w.inUse = .email then 1 else 0

/-- What an action changes. -/
def perform (w : LoginWindow) : LoginAction → LoginWindow
  | .openPhoneView => { w with inUse := .phone, codeAsked := false }
  | .openEmailView => { w with inUse := .email, resetAsked := false }
  | .openMainCustomView => { w with inUse := .main }
  | .disappearSecondPhone => { w with codeAsked := false }
  | .disappearFirstEmail => { w with resetAsked := true }
  | .disappearReset => { w with resetAsked := false }
  | .openRegistration | .editingChangedPhone | .editingChanged | .decideToOpenSecondPhone
  | .decideToOpenApp | .logIn => w

end LoginWindow

namespace LoginViewController

/-- The targets and the subviews are those of what the screen shows. -/
structure Wired (s : LoginViewController) (w : LoginWindow) : Prop where
  targets : s.targets = w.targets
  subviews : s.subviews = w.subviews

section Wiring

variable {s t : LoginViewController} {w : LoginWindow} {e : Event}

/-- The fields that tell what the screen shows; the other ones do not matter. -/
theorem Wired.congr (h : Wired s w) (targets : t.targets = s.targets)
    (subviews : t.subviews = s.subviews) : Wired t w :=
  ⟨targets.trans h.targets, subviews.trans h.subviews⟩

theorem Wired.disappearFirstPhone (h : Wired s w) :
    Wired s.disappearFirstPhone { w with codeAsked := true } := by
  obtain ⟨inUse, code, reset⟩ := w
  constructor
  · funext control
    simp only [LoginViewController.disappearFirstPhone, setupSecondPhoneView, addTarget,
      removeTarget, addSubview, h.targets]
    cases code <;> cases control <;> rfl
  · funext view
    simp only [LoginViewController.disappearFirstPhone, setupSecondPhoneView, addTarget,
      removeTarget, addSubview, h.subviews]
    cases view <;> rfl

theorem Wired.disappearSecondPhone (h : Wired s w) :
    Wired s.disappearSecondPhone { w with codeAsked := false } := by
  obtain ⟨inUse, code, reset⟩ := w
  constructor
  · funext control
    simp only [LoginViewController.disappearSecondPhone, setupFirstPhoneView, addTarget,
      removeTarget, removeFromSuperview, h.targets]
    cases code <;> cases control <;> rfl
  · funext view
    simp only [LoginViewController.disappearSecondPhone, setupFirstPhoneView, addTarget,
      removeTarget, removeFromSuperview, h.subviews]
    cases view <;> rfl

theorem Wired.disappearFirstEmail (h : Wired s w) :
    Wired s.disappearFirstEmail { w with resetAsked := true } := by
  obtain ⟨inUse, code, reset⟩ := w
  constructor
  · funext control
    simp only [LoginViewController.disappearFirstEmail, addSubview, removeTarget,
      removeFromSuperview, h.targets]
    cases reset <;> cases control <;> rfl
  · funext view
    simp only [LoginViewController.disappearFirstEmail, addSubview, removeTarget,
      removeFromSuperview, h.subviews]
    cases view <;> rfl

theorem Wired.disappearReset (h : Wired s w) :
    Wired s.disappearReset { w with resetAsked := false } := by
  obtain ⟨inUse, code, reset⟩ := w
  constructor
  · funext control
    simp only [LoginViewController.disappearReset, setupEmailLoginView, addSubview, addTarget,
      removeFromSuperview, h.targets]
    cases reset <;> cases control <;> rfl
  · funext view
    simp only [LoginViewController.disappearReset, setupEmailLoginView, addSubview, addTarget,
      removeFromSuperview, h.subviews]
    cases view <;> rfl

/-- The main window is left for another one. -/
theorem Wired.closeMainCustomView (h : Wired s w) {other : CustomView} (apart : other ≠ .main) :
    Wired s.closeMainCustomView { w with inUse := other } := by
  obtain ⟨inUse, code, reset⟩ := w
  refine ⟨?_, h.subviews⟩
  funext control
  simp only [LoginViewController.closeMainCustomView, LoginViewController.animateDown, addTarget,
    removeTarget, h.targets]
  cases other with
  | main => exact absurd rfl apart
  | phone | email => cases inUse <;> cases control <;> rfl

/-- The main window offers its ways again. -/
theorem Wired.resetMainCustomView (h : Wired s w) :
    Wired s.resetMainCustomView { w with inUse := .main } := by
  obtain ⟨inUse, code, reset⟩ := w
  refine ⟨?_, h.subviews⟩
  funext control
  simp only [LoginViewController.resetMainCustomView, offerWays, addTarget, removeTarget, h.targets]
  cases inUse <;> cases control <;> rfl

theorem Wired.openMainCustomView (h : Wired s w) :
    Wired s.openMainCustomView { w with inUse := .main } := by
  -- but for the animations it is `resetMainCustomView`
  refine h.resetMainCustomView.congr ?_ ?_
  all_goals
    simp only [LoginViewController.openMainCustomView, doActionsToCloseLogin]
    split <;> rfl

theorem Wired.openPhoneView (h : Wired s w) :
    Wired s.openPhoneView { w with inUse := .phone, codeAsked := false } := by
  have asks := Wired.disappearSecondPhone (s := { s with wayOfSignIn := true })
    ⟨h.targets, h.subviews⟩
  have raised := Wired.congr (t := { s with wayOfSignIn := true }.disappearSecondPhone.animateUp
    .phone) asks rfl rfl
  exact raised.closeMainCustomView (by decide)

theorem Wired.openEmailView (h : Wired s w) :
    Wired s.openEmailView { w with inUse := .email, resetAsked := false } := by
  have asks := Wired.disappearReset (s := { s with wayOfSignIn := false })
    ⟨h.targets, h.subviews⟩
  have raised := Wired.congr (t := { s with wayOfSignIn := false }.disappearReset.animateUp
    .email) asks rfl rfl
  exact raised.closeMainCustomView (by decide)

theorem Wired.logIn (h : Wired s w) : Wired s.logIn w := by
  rw [LoginViewController.logIn]
  split <;> exact h.congr rfl rfl

/-- An action does to the controls what it does to the window. -/
theorem Wired.perform (h : Wired s w) (action : LoginAction) :
    Wired (s.perform action) (w.perform action) := by
  cases action with
  | openPhoneView => exact h.openPhoneView
  | openEmailView => exact h.openEmailView
  | openMainCustomView => exact h.openMainCustomView
  | disappearSecondPhone => exact h.disappearSecondPhone
  | disappearFirstEmail => exact h.disappearFirstEmail
  | disappearReset => exact h.disappearReset
  | logIn => exact h.logIn
  | openRegistration | editingChangedPhone | editingChanged | decideToOpenSecondPhone
  | decideToOpenApp => exact h.congr rfl rfl

theorem Wired.foldl_perform (h : Wired s w) (actions : List LoginAction) :
    Wired (actions.foldl LoginViewController.perform s) (actions.foldl LoginWindow.perform w) := by
  induction actions generalizing s w with
  | nil => exact h
  | cons action rest ih => exact ih (h.perform action)

theorem Wired.runBlock (h : Wired s w) (block : LoginBlock) :
    ∃ v, Wired (s.runBlock block) v := by
  cases block with
  | sendCodeNet =>
    simp only [LoginViewController.runBlock, sendCodeNet]
    split <;> exact ⟨w, h.congr rfl rfl⟩
  | checkCode | login => exact ⟨w, h.congr rfl rfl⟩
  | loginSucceeded =>
    simp only [LoginViewController.runBlock]
    split
    · exact ⟨_, (h.congr (t := s.setupEmailLoginView) rfl rfl).openMainCustomView⟩
    · exact ⟨_, h.disappearSecondPhone.openMainCustomView⟩
  | resetMainCustomView => exact ⟨_, h.resetMainCustomView⟩

theorem Wired.viewDidAppear (h : Wired s w) : Wired s.viewDidAppear w := by
  simp only [LoginViewController.viewDidAppear, loginSucceededAfterRegistration, present, dispatch]
  split
  all_goals
    split <;> exact h.congr rfl rfl

theorem Wired.delegate (h : Wired s w) {called : LoginViewController}
    (wired : ∃ v, Wired called v) : ∃ v, Wired (s.delegate called) v := by
  rw [LoginViewController.delegate]
  split
  · exact wired
  · exact ⟨w, h⟩

theorem Wired.sendCodeReturn (h : Wired s w) (b : Bool) : ∃ v, Wired (s.sendCodeReturn b) v := by
  rw [LoginViewController.sendCodeReturn]
  split
  · exact ⟨_, (h.congr (t := s.isEnabledEverything true) rfl rfl).disappearFirstPhone⟩
  · exact ⟨w, h.congr rfl rfl⟩

theorem Wired.checkingReturn (h : Wired s w) (b : Bool) : Wired (s.checkingReturn b) w := by
  simp only [LoginViewController.checkingReturn]
  split
  · split <;> exact h.congr rfl rfl
  · exact h.congr rfl rfl

theorem Wired.fail (h : Wired s w) (error : String) (loginCall : LoginCall) :
    ∃ v, Wired (s.fail error loginCall) v := by
  cases loginCall with
  | verifyPhoneNumber => exact h.delegate (h.sendCodeReturn false)
  | signIn => exact h.delegate ⟨w, h.checkingReturn false⟩
  | login => exact ⟨w, h.congr rfl rfl⟩

theorem Wired.succeed (h : Wired s w) (account : AuthUser) (loginCall : LoginCall) :
    ∃ v, Wired (s.succeed account loginCall) v := by
  cases loginCall with
  | verifyPhoneNumber => exact h.delegate (h.sendCodeReturn true)
  | signIn =>
    simp only [LoginViewController.succeed]
    split
    · have signed : Wired { s with currentuserID := account.uid } w := h.congr rfl rfl
      exact signed.delegate ⟨w, signed.checkingReturn true⟩
    · exact h.delegate ⟨w, h.checkingReturn true⟩
  | login => exact ⟨w, h.congr rfl rfl⟩

theorem Wired.step (h : Wired s w) (taken : s.step e = some t) : ∃ v, Wired t v := by
  cases e with
  | typePhone | typeEmail =>
    obtain ⟨-, typed⟩ := Option.ite_none_right_eq_some.mp taken
    obtain rfl := Option.some.inj typed
    exact ⟨w, h.congr rfl rfl⟩
  | touch control =>
    obtain ⟨-, touched⟩ := Option.ite_none_right_eq_some.mp taken
    obtain rfl := Option.some.inj touched
    exact ⟨_, h.foldl_perform _⟩
  | runBlock =>
    cases queue : s.blocks with
    | nil => simp [LoginViewController.step, queue] at taken
    | cons block rest =>
      simp only [LoginViewController.step, queue, Option.some.injEq] at taken
      exact taken ▸ (h.congr (t := { s with blocks := rest }) rfl rfl).runBlock block
  | fail index error =>
    obtain ⟨loginCall, -, rfl⟩ := Option.map_eq_some_iff.mp taken
    exact (h.congr (t := s.answered index) rfl rfl).fail error loginCall
  | succeed index account =>
    obtain ⟨loginCall, -, rfl⟩ := Option.map_eq_some_iff.mp taken
    exact (h.congr (t := s.answered index) rfl rfl).succeed account loginCall
  | animateDown =>
    obtain ⟨-, sinks⟩ := Option.ite_none_left_eq_some.mp taken
    obtain rfl := Option.some.inj sinks
    exact ⟨w, h.congr rfl rfl⟩
  | presentRegistration =>
    obtain ⟨-, presents⟩ := Option.ite_none_left_eq_some.mp taken
    dsimp only at presents
    split at presents
    all_goals
      obtain rfl := Option.some.inj presents
      exact ⟨w, h.congr rfl rfl⟩
  | endRegistration userID =>
    obtain ⟨-, ends⟩ := Option.ite_none_right_eq_some.mp taken
    obtain rfl := Option.some.inj ends
    exact ⟨w, Wired.viewDidAppear (h.congr rfl rfl)⟩
  | exit =>
    obtain ⟨-, exits⟩ := Option.ite_none_right_eq_some.mp taken
    obtain rfl := Option.some.inj exits
    rw [LoginViewController.exit]
    split
    · exact ⟨w, Wired.viewDidAppear (h.congr rfl rfl)⟩
    · exact ⟨w, h.congr rfl rfl⟩
  | viewDidAppear =>
    obtain ⟨-, appears⟩ := Option.ite_none_left_eq_some.mp taken
    obtain rfl := Option.some.inj appears
    exact ⟨w, Wired.viewDidAppear (h.congr rfl rfl)⟩

theorem wired_viewDidLoad : Wired viewDidLoad {} := by
  constructor
  · funext control
    cases control <;> rfl
  · funext view
    cases view <;> rfl

end Wiring

/-- In every run of the login screen, with touches, blocks, answers and registrations in any
order, the targets and the subviews are those of a window in use with what the other two ask for.
So each control performs one action at most. -/
theorem controls_wired (events : List Event) :
    EveryState step (fun s => ∃ w, Wired s w) viewDidLoad events := by
  refine EveryState.of_invariant (I := fun s => ∃ w, Wired s w) ?_ (fun _ h => h)
    ⟨_, wired_viewDidLoad⟩ events
  rintro s e t ⟨w, h⟩ taken
  exact h.step taken

end LoginViewController

end OnMap
