/-
# The login screen

The login screen keeps three windows over one another: the main one, which offers the ways to
log in, and one for each way. A window is raised and lowered by animations that shift its centre,
so where it stands is the sum of the animations so far. What a button does is a matter of the
targets that are added and removed while the windows change.

A registration is presented after the main window has been lowered out of sight, and the window
is raised again when the screen reappears.
-/

import OnMap.Login.Registration

namespace OnMap

open Transition

/-- The controls whose targets change, or that change targets. -/
inductive LoginControl
  | openPhoneLoginView
  | openEmailLoginView
  | openRegistrationButton
  | openMainCustomViewButton
  | phoneCustomViewTextField
  | nextPhoneCustomViewButton
  | backPhoneCustomViewButton
  | nextEmailButton
  | backEmailButton
  | resetButton
  deriving DecidableEq, Repr

/-- The actions of the controls. -/
inductive LoginAction
  | openPhoneView
  | openEmailView
  | openRegistration
  | openMainCustomView
  | editingChangedPhone
  | editingChanged
  | decideToOpenSecondPhone
  | decideToOpenApp
  | disappearSecondPhone
  | disappearFirstEmail
  | disappearReset
  | logIn
  deriving DecidableEq, Repr

/-- The windows, `customViews[0]`, `customViews[1]` and `customViews[2]`. -/
inductive CustomView | main | phone | email
  deriving DecidableEq, Repr

/-- The views that are taken out of a window and put back. -/
inductive LoginSubview
  | tip2OnPhoneCustomView
  | backPhoneCustomViewButton
  | passwordTextField
  | backEmailButton
  | resetButton
  deriving DecidableEq, Repr

/-- A block that the screen has put on the main queue. -/
inductive LoginBlock
  | sendCodeNet
  | checkCode
  | login (email password : String)
  | loginSucceeded
  | resetMainCustomView
  deriving DecidableEq, Repr

/-- A call of Firebase that has not been answered. -/
inductive LoginCall
  | verifyPhoneNumber (phoneNumber : String)
  | signIn (codeForCheck : String)
  | login (email password : String)
  deriving DecidableEq, Repr

/-- What the screen presents. -/
inductive LoginPresented | mainTabBar | registration | loginScreen
  deriving DecidableEq, Repr

/-- The login screen. `raised` counts how often each window was raised above where it stands
when another one is used, `sunk` how often the main window was lowered out of sight, `sinking` the
animations for this that have not begun. `showChecked` tells whether the service has this screen
as its delegate, `registrations` counts those that are about to be presented. -/
structure LoginViewController where
  targets : LoginControl → List LoginAction
  subviews : LoginSubview → Bool
  raised : CustomView → ℤ := fun _ => 0
  sunk : ℤ := 1
  sinking : ℕ := 0
  registrations : ℕ := 0
  presented : Option LoginPresented := none
  appeared : Bool := false
  didAppearLogin : Bool := false
  enabled : Bool := true
  wayOfSignIn : Bool := false
  phoneText : String := ""
  emailText : String := ""
  passwordText : String := ""
  alerts : List (String × String) := []
  blocks : List LoginBlock := []
  calls : List LoginCall := []
  showChecked : Bool := true
  currentuserID : String := ""

namespace LoginViewController

/-- What can happen: the user types or touches a control; the next block runs; Firebase answers a
call; the main window begins to sink, and the registration is presented; it ends, with a user
signed in or not; the user exits from the main tab bar; the screen appears for the first time. -/
inductive Event
  | typePhone (text : String)
  | typeEmail (email password : String)
  | touch (control : LoginControl)
  | runBlock
  | fail (index : ℕ) (error : String)
  | succeed (index : ℕ) (account : AuthUser)
  | animateDown
  | presentRegistration
  | endRegistration (userID : String)
  | exit
  | viewDidAppear

/-! ### Targets, subviews and animations -/

/-- A target is added once. -/
def addTarget (s : LoginViewController) (control : LoginControl) (action : LoginAction) :
    LoginViewController :=
  { s with targets := Function.update s.targets control ((s.targets control).insert action) }

def removeTarget (s : LoginViewController) (control : LoginControl) (action : LoginAction) :
    LoginViewController :=
  { s with targets := Function.update s.targets control ((s.targets control).erase action) }

def addSubview (s : LoginViewController) (view : LoginSubview) : LoginViewController :=
  { s with subviews := Function.update s.subviews view true }

def removeFromSuperview (s : LoginViewController) (view : LoginSubview) : LoginViewController :=
  { s with subviews := Function.update s.subviews view false }

def animateUp (s : LoginViewController) (view : CustomView) : LoginViewController :=
  { s with raised := Function.update s.raised view (s.raised view + 1) }

def animateDown (s : LoginViewController) (view : CustomView) : LoginViewController :=
  { s with raised := Function.update s.raised view (s.raised view - 1) }

def isEnabledEverything (s : LoginViewController) (b : Bool) : LoginViewController :=
  { s with enabled := b }

def showAlert (s : LoginViewController) (title message : String) : LoginViewController :=
  { s with alerts := s.alerts ++ [(title, message)] }

def dispatch (s : LoginViewController) (block : LoginBlock) : LoginViewController :=
  { s with blocks := s.blocks ++ [block] }

def call (s : LoginViewController) (loginCall : LoginCall) : LoginViewController :=
  { s with calls := s.calls ++ [loginCall] }

/-! ### The phone window -/

/-- Setting a text field up clears it. -/
def setupFirstPhoneView (s : LoginViewController) : LoginViewController :=
  { s with phoneText := "" }

def setupSecondPhoneView (s : LoginViewController) : LoginViewController :=
  { s with phoneText := "" }

/-- The window asks for the code. -/
def disappearFirstPhone (s : LoginViewController) : LoginViewController :=
  ((((((s.setupSecondPhoneView.addSubview .tip2OnPhoneCustomView).removeTarget
    .phoneCustomViewTextField .editingChangedPhone).addTarget
    .phoneCustomViewTextField .editingChanged).addTarget
    .backPhoneCustomViewButton .disappearSecondPhone).addSubview
    .backPhoneCustomViewButton).removeTarget
    .nextPhoneCustomViewButton .decideToOpenSecondPhone).addTarget
    .nextPhoneCustomViewButton .decideToOpenApp

/-- The window asks for the phone number. -/
def disappearSecondPhone (s : LoginViewController) : LoginViewController :=
  ((((((s.setupFirstPhoneView.removeFromSuperview .tip2OnPhoneCustomView).removeTarget
    .phoneCustomViewTextField .editingChanged).addTarget
    .phoneCustomViewTextField .editingChangedPhone).removeTarget
    .backPhoneCustomViewButton .disappearSecondPhone).removeFromSuperview
    .backPhoneCustomViewButton).removeTarget
    .nextPhoneCustomViewButton .decideToOpenApp).addTarget
    .nextPhoneCustomViewButton .decideToOpenSecondPhone

/-! ### The e-mail window -/

def setupEmailLoginView (s : LoginViewController) : LoginViewController :=
  { s with emailText := "", passwordText := "" }

/-- The window asks for the address of the account whose password is forgotten. -/
def disappearFirstEmail (s : LoginViewController) : LoginViewController :=
  (((s.removeFromSuperview .passwordTextField).addSubview .backEmailButton).removeFromSuperview
    .resetButton).removeTarget .nextEmailButton .logIn

def disappearReset (s : LoginViewController) : LoginViewController :=
  (((s.setupEmailLoginView.addSubview .passwordTextField).removeFromSuperview
    .backEmailButton).addSubview .resetButton).addTarget .nextEmailButton .logIn

/-! ### The main window -/

def doActionsToCloseLogin (s : LoginViewController) : LoginViewController :=
  if s.wayOfSignIn = false then s.animateDown .email else s.animateDown .phone

def closeMainCustomView (s : LoginViewController) : LoginViewController :=
  ((((s.animateDown .main).addTarget .openMainCustomViewButton .openMainCustomView).removeTarget
    .openPhoneLoginView .openPhoneView).removeTarget
    .openEmailLoginView .openEmailView).removeTarget .openRegistrationButton .openRegistration

/-- The common part of `openMainCustomView` and `resetMainCustomView`. -/
def offerWays (s : LoginViewController) : LoginViewController :=
  ((s.addTarget .openPhoneLoginView .openPhoneView).addTarget
    .openEmailLoginView .openEmailView).addTarget .openRegistrationButton .openRegistration

def openMainCustomView (s : LoginViewController) : LoginViewController :=
  (((s.removeTarget .openMainCustomViewButton .openMainCustomView).animateUp
    .main).offerWays).doActionsToCloseLogin

def resetMainCustomView (s : LoginViewController) : LoginViewController :=
  (s.removeTarget .openMainCustomViewButton .openMainCustomView).offerWays

def openEmailView (s : LoginViewController) : LoginViewController :=
  ({ s with wayOfSignIn := false }.disappearReset.animateUp .email).closeMainCustomView

def openPhoneView (s : LoginViewController) : LoginViewController :=
  ({ s with wayOfSignIn := true }.disappearSecondPhone.animateUp .phone).closeMainCustomView

/-- `openRegistration`: the animations lead to a presentation. -/
def showRegistration (s : LoginViewController) : LoginViewController :=
  { s with sinking := s.sinking + 1, registrations := s.registrations + 1 }

/-! ### Logging in -/

def sendCodeNet (s : LoginViewController) (phone : String) : LoginViewController :=
  if phone ≠ "" then (s.isEnabledEverything false).call (.verifyPhoneNumber phone)
  else s.showAlert "Ошибка" "Введите номер телефона"

def checkCode (s : LoginViewController) : LoginViewController :=
  { (s.isEnabledEverything false).call (.signIn s.phoneText) with showChecked := true }

def logIn (s : LoginViewController) : LoginViewController :=
  if s.emailText ≠ "" ∧ s.passwordText ≠ "" then
    (s.isEnabledEverything false).dispatch (.login s.emailText s.passwordText)
  else s.showAlert "Ошибка" "Заполните все поля"

/-- What is presented already stays. -/
def present (s : LoginViewController) (screen : LoginPresented) : LoginViewController :=
  { s with presented := s.presented.or (some screen) }

def loginSucceeded (s : LoginViewController) : LoginViewController :=
  (s.present .mainTabBar).dispatch .loginSucceeded

def loginSucceededAfterRegistration (s : LoginViewController) : LoginViewController :=
  (s.present .mainTabBar).dispatch .resetMainCustomView

def viewDidAppear (s : LoginViewController) : LoginViewController :=
  let s := if s.didAppearLogin then s else { s with didAppearLogin := true, sunk := s.sunk - 1 }
  if s.currentuserID ≠ "" then s.loginSucceededAfterRegistration else s

def perform (s : LoginViewController) : LoginAction → LoginViewController
  | .openPhoneView => s.openPhoneView
  | .openEmailView => s.openEmailView
  | .openRegistration => s.showRegistration
  | .openMainCustomView => s.openMainCustomView
  -- the text of an event is the one that the actions leave
  | .editingChangedPhone | .editingChanged => s
  | .decideToOpenSecondPhone => s.dispatch .sendCodeNet
  | .decideToOpenApp => s.dispatch .checkCode
  | .disappearSecondPhone => s.disappearSecondPhone
  | .disappearFirstEmail => s.disappearFirstEmail
  | .disappearReset => s.disappearReset
  | .logIn => s.logIn

/-- A block reads the screen when it runs. -/
def runBlock (s : LoginViewController) : LoginBlock → LoginViewController
  | .sendCodeNet => s.sendCodeNet (getRealPhone s.phoneText)
  | .checkCode => s.checkCode
  | .login email password => s.call (.login email password)
  | .loginSucceeded =>
    (if !s.wayOfSignIn then s.setupEmailLoginView else s.disappearSecondPhone).openMainCustomView
  | .resetMainCustomView => s.resetMainCustomView

/-! ### Answers of Firebase -/

def sendCodeReturn (s : LoginViewController) (b : Bool) : LoginViewController :=
  if b then (s.isEnabledEverything true).disappearFirstPhone
  else (s.showAlert "Неверный номер телефона" "Попробуйте ввести ещё раз").isEnabledEverything true

def checkingReturn (s : LoginViewController) (b : Bool) : LoginViewController :=
  let s :=
    if s.currentuserID ≠ "" then
      if b then s.loginSucceeded else s.showAlert "Неверный код" "Попробуйте ввести ещё раз"
    else s.showAlert "Ошибка"
      "Такого пользователя не существует. Зарегистрируйтесь или завершите регистрацию"
  s.isEnabledEverything true

def loginCompleted (s : LoginViewController) : LoginViewController :=
  s.loginSucceeded.isEnabledEverything true

/-- The service calls its delegate; another delegate leaves this screen alone. -/
def delegate (s : LoginViewController) (called : LoginViewController) : LoginViewController :=
  if s.showChecked then called else s

def fail (s : LoginViewController) (error : String) : LoginCall → LoginViewController
  | .verifyPhoneNumber _ => s.delegate (s.sendCodeReturn false)
  | .signIn _ => s.delegate (s.checkingReturn false)
  | .login .. => (s.showAlert "Ошибка входа" error).isEnabledEverything true

def succeed (s : LoginViewController) (account : AuthUser) : LoginCall → LoginViewController
  | .verifyPhoneNumber _ => s.delegate (s.sendCodeReturn true)
  | .signIn _ =>
    -- only a user with an e-mail has registered
    let s := if account.email.isSome then { s with currentuserID := account.uid } else s
    s.delegate (s.checkingReturn true)
  | .login .. => { s with currentuserID := account.uid }.loginCompleted

def answered (s : LoginViewController) (index : ℕ) : LoginViewController :=
  { s with calls := s.calls.eraseIdx index }

/-! ### Steps -/

/-- Whether the user can get at a control: its window is in sight, and it is in the window. -/
def inSight (s : LoginViewController) : LoginControl → Bool
  | .openPhoneLoginView | .openEmailLoginView | .openRegistrationButton
  | .openMainCustomViewButton => s.sunk ≤ 0
  | .nextPhoneCustomViewButton => 0 < s.raised .phone
  | .backPhoneCustomViewButton => 0 < s.raised .phone && s.subviews .backPhoneCustomViewButton
  | .nextEmailButton => 0 < s.raised .email
  | .backEmailButton => 0 < s.raised .email && s.subviews .backEmailButton
  | .resetButton => 0 < s.raised .email && s.subviews .resetButton
  -- touching it begins an edit
  | .phoneCustomViewTextField => false

/-- A touch performs the actions of the control. -/
def touch (s : LoginViewController) (control : LoginControl) : Option LoginViewController :=
  if s.presented = none ∧ s.enabled = true ∧ s.inSight control = true then
    some ((s.targets control).foldl perform s)
  else none

/-- `exit` of the account screen, which dismisses the tab bar if the login screen is below it. -/
def exit (s : LoginViewController) : LoginViewController :=
  if s.didAppearLogin then { s with currentuserID := "", presented := none }.viewDidAppear
  else { s with currentuserID := "", presented := some .loginScreen }

def step (s : LoginViewController) : Event → Option LoginViewController
  | .typePhone text => if s.enabled then some { s with phoneText := text } else none
  | .typeEmail email password =>
    if s.enabled then some { s with emailText := email, passwordText := password } else none
  | .touch control => s.touch control
  | .runBlock =>
    match s.blocks with
    | [] => none
    | block :: rest => some ({ s with blocks := rest }.runBlock block)
  | .fail index error => (s.calls[index]?).map ((s.answered index).fail error)
  | .succeed index account => (s.calls[index]?).map ((s.answered index).succeed account)
  | .animateDown =>
    if s.sinking = 0 then none
    else some { s with sinking := s.sinking - 1, sunk := s.sunk + 1 }
  | .presentRegistration =>
    if s.registrations = 0 then none
    else
      let s := { s with registrations := s.registrations - 1, didAppearLogin := false }
      -- the registration that loads becomes the delegate
      if s.presented = none then
        some { s.present .registration with showChecked := false }
      else some s
  | .endRegistration userID =>
    if s.presented = some .registration then
      some { s with presented := none, currentuserID := userID }.viewDidAppear
    else none
  | .exit => if s.presented = some .mainTabBar then some s.exit else none
  | .viewDidAppear =>
    if s.appeared then none else some { s with appeared := true }.viewDidAppear

/-- `viewDidLoad`: the windows are filled, and all below the screen but for the main one, which
the screen raises when it appears. -/
def viewDidLoad : LoginViewController where
  targets
    | .openPhoneLoginView => [.openPhoneView]
    | .openEmailLoginView => [.openEmailView]
    | .openRegistrationButton => [.openRegistration]
    | .openMainCustomViewButton => []
    | .phoneCustomViewTextField => [.editingChangedPhone]
    | .nextPhoneCustomViewButton => [.decideToOpenSecondPhone]
    | .backPhoneCustomViewButton => []
    | .nextEmailButton => [.logIn]
    | .backEmailButton => [.disappearReset]
    | .resetButton => [.disappearFirstEmail]
  subviews
    | .tip2OnPhoneCustomView | .backPhoneCustomViewButton | .backEmailButton => false
    | .passwordTextField | .resetButton => true

end LoginViewController

end OnMap
