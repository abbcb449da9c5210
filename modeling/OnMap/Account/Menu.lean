/-
# The account menu and its screens

The account menu starts three flows: a new phone number, a new email and the
deletion of the account. The screens of a flow are pushed on a navigation stack;
two of the flows share the screen that confirms the old phone, two share the
screen that ends in a new email or in the deletion. What a shared screen is for
is kept in two static variables.

Requests to the authentication service are answered at any later moment, each
answer going to the delegate that was set last. A delegate that has left the
stack has no navigation controller and navigates nowhere.
-/

import Mathlib.Data.List.Basic

namespace OnMap

/-- The static variables of `Const` that the account screens share. -/
structure Const where
  updateDelete : Bool := false
  updatePhoneEmail : Bool := false
  deriving DecidableEq, Repr

/-- The rows of the account menu that start a flow. -/
inductive AccountRow | deleteAccount | changeNumber | changeEmail
  deriving DecidableEq, Repr

/-- The classes of pushed view controllers, each with its field `which`: for the
two phone screens that a code has been asked for, for the last screen that it
deletes the account. -/
inductive AccountScreen
  | changePhoneViewController (which : Bool)
  | newPhoneViewController (which : Bool)
  | updateEmailDeleteAccountViewController (which : Bool)
  deriving DecidableEq, Repr

/-- A view controller; `id` tells apart two of the same class. -/
structure ViewController where
  id : ℕ
  screen : AccountScreen
  deriving DecidableEq, Repr

/-- A request to the authentication service that has not been answered. -/
inductive AuthRequest | sendCode | reauth | updatePhone | updateEmail | deleteAccount
  deriving DecidableEq, Repr

/-- The account menu, the screens pushed over it (topmost first), the delegates
set last and the requests under way. -/
structure AccountMenu where
  const : Const := {}
  navigation : List ViewController := []
  showChecked : Option ℕ := none
  showAlertDelegate : Option ℕ := none
  accountDelegateForConfirmation : Option ℕ := none
  requests : List AuthRequest := []
  nextID : ℕ := 0
  deriving DecidableEq, Repr

namespace AccountScreen

/-- `nextTo` of each class: the new `which` and the request it makes. On the
screen for the old phone a wrong number is refused with an alert. -/
def nextTo (ownPhone : Bool) : AccountScreen → AccountScreen × Option AuthRequest
  | changePhoneViewController false =>
    -- `which` is set before the number is compared with the account's own
    (changePhoneViewController true, if ownPhone then some .sendCode else none)
  | changePhoneViewController true => (changePhoneViewController true, some .reauth)
  | newPhoneViewController false => (newPhoneViewController true, some .sendCode)
  | newPhoneViewController true => (newPhoneViewController true, some .updatePhone)
  | updateEmailDeleteAccountViewController which =>
    (updateEmailDeleteAccountViewController which,
      some (if which then .deleteAccount else .updateEmail))

end AccountScreen

namespace AccountMenu

/-- The screen of a delegate that is still on the stack. -/
def onStack (s : AccountMenu) (delegate : Option ℕ) : Option AccountScreen :=
  delegate.bind fun id => (s.navigation.find? fun vc => vc.id == id).map ViewController.screen

/-- `pushViewController`, then `viewDidLoad` of a screen for phone numbers. -/
def pushPhone (s : AccountMenu) (screen : AccountScreen) : AccountMenu :=
  { s with
    navigation := ⟨s.nextID, screen⟩ :: s.navigation
    showChecked := some s.nextID
    showAlertDelegate := some s.nextID
    nextID := s.nextID + 1 }

/-- `pushViewController`, then `viewDidLoad` of the screen for a new email or the
deletion, which reads `Const.updateDelete`. -/
def pushUpdateEmailDelete (s : AccountMenu) : AccountMenu :=
  { s with
    navigation :=
      ⟨s.nextID, .updateEmailDeleteAccountViewController s.const.updateDelete⟩ :: s.navigation
    accountDelegateForConfirmation := some s.nextID
    showAlertDelegate := some s.nextID
    nextID := s.nextID + 1 }

def popToRootViewController (s : AccountMenu) : AccountMenu := { s with navigation := [] }

def deleteAccount (s : AccountMenu) : AccountMenu :=
  { s with const := { s.const with updateDelete := true } }.pushUpdateEmailDelete

def changeNumber (s : AccountMenu) : AccountMenu :=
  -- `updatePhoneEmail` is left as the last flow set it
  { s with const := { s.const with updateDelete := true } }.pushPhone
    (.changePhoneViewController false)

def changeEmail (s : AccountMenu) : AccountMenu :=
  { s with const := { s.const with updateDelete := false, updatePhoneEmail := true } }.pushPhone
    (.changePhoneViewController false)

def choose (s : AccountMenu) : AccountRow → AccountMenu
  | .deleteAccount => s.deleteAccount
  | .changeNumber => s.changeNumber
  | .changeEmail => s.changeEmail

/-- `checkingReturn(b: true)` of the delegate `showChecked`. -/
def checkingReturn (s : AccountMenu) : AccountMenu :=
  match s.onStack s.showChecked with
  | some (.changePhoneViewController _) =>
    -- both flows come here; the static variable tells them apart
    if s.const.updatePhoneEmail then s.pushUpdateEmailDelete
    else s.pushPhone (.newPhoneViewController false)
  | some (.newPhoneViewController _) => s.popToRootViewController
  | _ => s

/-- `showNext` of the delegate `showAlertDelegate`; on the phone screens it is
empty. -/
def showNext (s : AccountMenu) : AccountMenu :=
  match s.onStack s.showAlertDelegate with
  | some (.updateEmailDeleteAccountViewController _) => s.popToRootViewController
  | _ => s

def dismissConfirmation (s : AccountMenu) : AccountMenu :=
  match s.onStack s.accountDelegateForConfirmation with
  | some (.updateEmailDeleteAccountViewController _) => s.popToRootViewController
  | _ => s

/-- What a successful answer does; a failure only shows an alert. -/
def succeed (s : AccountMenu) : AuthRequest → AccountMenu
  | .sendCode => s
  | .reauth | .updatePhone => s.checkingReturn
  | .updateEmail => s.showNext
  | .deleteAccount => s.dismissConfirmation

/-- What can happen: a row of the menu is chosen, the button of the topmost
screen is pressed, a request is answered, or the user goes back. -/
inductive Event
  | choose (row : AccountRow)
  | nextTo (ownPhone : Bool)
  | answer (index : ℕ) (success : Bool)
  | back
  deriving DecidableEq, Repr

def step (s : AccountMenu) : Event → Option AccountMenu
  | .choose row => if s.navigation = [] then some (s.choose row) else none
  | .nextTo ownPhone =>
    match s.navigation with
    | [] => none
    | top :: rest =>
      let next := top.screen.nextTo ownPhone
      some { s with
        navigation := { top with screen := next.1 } :: rest
        requests := s.requests ++ next.2.toList }
  | .answer index success =>
    -- any request may be the next one to be answered
    match s.requests[index]? with
    | none => none
    | some request =>
      let s := { s with requests := s.requests.eraseIdx index }
      some (if success then s.succeed request else s)
  | .back =>
    match s.navigation with
    | [] => none
    | _ :: rest => some { s with navigation := rest }

/-- The screen the user sees, if a flow is running. -/
def topScreen (s : AccountMenu) : Option AccountScreen :=
  s.navigation.head?.map ViewController.screen

end AccountMenu

end OnMap
