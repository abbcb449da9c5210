/-
# The screens that ask for codes

Four screens share the service that sends codes by SMS and checks them. The service
hands every reply to its one delegate `showChecked`, which each screen sets to itself
when it loads, and two of them again when they have a code checked. A screen that is
shown again after another one was dismissed does not load again.

The delegate is a strong reference: a dismissed screen still gets replies.
-/

import OnMap.Account.OwnData

namespace OnMap

open Transition

/-- The classes of the screens. -/
inductive PhoneScreenClass
  | loginViewController
  | phoneAuthViewContoller
  | changePhoneViewController
  | newPhoneViewController
  deriving DecidableEq, Repr

/-- The requests that the service answers through `showChecked`. -/
inductive PhoneRequest | sendCode | check | reauth | updatePhone
  deriving DecidableEq, Repr

namespace PhoneScreenClass

/-- The requests that a screen of the class makes. -/
def asks : PhoneScreenClass → PhoneRequest → Bool
  | loginViewController, .sendCode | loginViewController, .check => true
  | phoneAuthViewContoller, .sendCode | phoneAuthViewContoller, .check => true
  | changePhoneViewController, .sendCode | changePhoneViewController, .reauth => true
  | newPhoneViewController, .sendCode | newPhoneViewController, .updatePhone => true
  | _, _ => false

/-- Whether a screen of the class has `isEnabledEverything`. -/
def disables : PhoneScreenClass → Bool
  | loginViewController | phoneAuthViewContoller => true
  | changePhoneViewController | newPhoneViewController => false

/-- Whether `viewDidLoad` sets `showAlertDelegate`, too. -/
def setsAlertDelegate : PhoneScreenClass → Bool
  | loginViewController => false
  | phoneAuthViewContoller | changePhoneViewController | newPhoneViewController => true

end PhoneScreenClass

/-- A screen that has been loaded: whether it is on the stack of screens, and whether
its controls are enabled. -/
structure PhoneScreen where
  screenClass : PhoneScreenClass
  presented : Bool := true
  enabled : Bool := true
  deriving DecidableEq, Repr

namespace PhoneScreen

def isEnabledEverything (screen : PhoneScreen) (b : Bool) : PhoneScreen :=
  if screen.screenClass.disables then { screen with enabled := b } else screen

/-- `sendCodeReturn`: sent or not, the controls are enabled again. -/
def sendCodeReturn (screen : PhoneScreen) : PhoneScreen := screen.isEnabledEverything true

/-- `checkingReturn`. The screen that a `ChangePhoneViewController` pushes loads later. -/
def checkingReturn (currentuserID : String) (b : Bool) (screen : PhoneScreen) : PhoneScreen :=
  match screen.screenClass with
  | .loginViewController => screen.isEnabledEverything true
  | .phoneAuthViewContoller =>
    if currentuserID = "" then screen.isEnabledEverything true
    -- `endRegistration` dismisses the screen as it is
    else { screen with presented := false }
  | .changePhoneViewController => screen
  -- `popToRootViewController`; the screens below leave by events of their own
  | .newPhoneViewController => if b then { screen with presented := false } else screen

/-- `showAlert` of the delegate `showAlertDelegate`. -/
def showAlert (screen : PhoneScreen) : PhoneScreen :=
  match screen.screenClass with
  | .phoneAuthViewContoller => screen.isEnabledEverything true
  | _ => screen

end PhoneScreen

/-- A request that has not been answered, and the number of the screen that made it. -/
structure PendingRequest where
  asker : ℕ
  request : PhoneRequest
  deriving DecidableEq, Repr

/-- The screens in the order they were loaded, and the service. -/
structure PhoneScreens where
  screens : List PhoneScreen := []
  showChecked : Option ℕ := none
  showAlertDelegate : Option ℕ := none
  currentuserID : String := ""
  requests : List PendingRequest := []
  deriving DecidableEq, Repr

namespace PhoneScreens

/-- What can happen: a screen is presented and loads, is dismissed, makes a request;
another part of the program signs a user in or out; a request fails or succeeds, with
`currentUser` as Firebase has it by then. -/
inductive Event
  | viewDidLoad (screenClass : PhoneScreenClass)
  | dismiss (screen : ℕ)
  | ask (screen : ℕ) (request : PhoneRequest)
  | setCurrentuserID (userID : String)
  | fail (index : ℕ)
  | succeed (index : ℕ) (currentUser : Option AuthUser)

def viewDidLoad (s : PhoneScreens) (screenClass : PhoneScreenClass) : PhoneScreens :=
  { s with
    screens := s.screens ++ [⟨screenClass, true, true⟩]
    showChecked := some s.screens.length
    showAlertDelegate :=
      if screenClass.setsAlertDelegate then some s.screens.length else s.showAlertDelegate }

/-- A delegate is called. -/
def modify (s : PhoneScreens) (delegate : Option ℕ) (f : PhoneScreen → PhoneScreen) :
    PhoneScreens :=
  match delegate with
  | none => s
  | some i => { s with screens := s.screens.modify i f }

/-- `sendCodeNet` and `checkCode` disable the controls, `nextTo` does not; `checkCode`
sets the delegate once more. -/
def ask (s : PhoneScreens) (i : ℕ) (request : PhoneRequest) : PhoneScreens :=
  { s.modify (some i) (·.isEnabledEverything false) with
    showChecked := if request = .check then some i else s.showChecked
    requests := s.requests ++ [⟨i, request⟩] }

/-- The completion of a request that failed. -/
def fail (s : PhoneScreens) : PhoneRequest → PhoneScreens
  | .sendCode => s.modify s.showChecked PhoneScreen.sendCodeReturn
  | .check => s.modify s.showChecked (PhoneScreen.checkingReturn s.currentuserID false)
  | .reauth | .updatePhone => s.modify s.showAlertDelegate PhoneScreen.showAlert

/-- `check` has signed in; a user with an e-mail is a user of the program. -/
def signIn (s : PhoneScreens) (currentUser : Option AuthUser) : PhoneScreens :=
  if (currentUser.bind AuthUser.email).isSome then
    { s with currentuserID := (currentUser.map AuthUser.uid).getD "" }
  else s

/-- The completion of a request that succeeded. -/
def succeed (s : PhoneScreens) (currentUser : Option AuthUser) : PhoneRequest → PhoneScreens
  | .sendCode => s.modify s.showChecked PhoneScreen.sendCodeReturn
  | .check =>
    let s := s.signIn currentUser
    s.modify s.showChecked (PhoneScreen.checkingReturn s.currentuserID true)
  | .reauth | .updatePhone =>
    s.modify s.showChecked (PhoneScreen.checkingReturn s.currentuserID true)

def answered (s : PhoneScreens) (index : ℕ) : PhoneScreens :=
  { s with requests := s.requests.eraseIdx index }

def step (s : PhoneScreens) : Event → Option PhoneScreens
  | .viewDidLoad screenClass => some (s.viewDidLoad screenClass)
  | .dismiss i => (s.screens[i]?).bind fun screen =>
    if screen.presented then some (s.modify (some i) ({ · with presented := false })) else none
  | .ask i request => (s.screens[i]?).bind fun screen =>
    if screen.presented ∧ screen.screenClass.asks request then some (s.ask i request) else none
  | .setCurrentuserID userID => some { s with currentuserID := userID }
  | .fail index => (s.requests[index]?).map fun r => (s.answered index).fail r.request
  | .succeed index currentUser => (s.requests[index]?).map fun r =>
    (s.answered index).succeed currentUser r.request

/-- The request whose reply the event hands to `showChecked`; a failed `reauth` or
`updatePhone` only shows an alert. -/
def replied (s : PhoneScreens) : Event → Option PendingRequest
  | .fail index => (s.requests[index]?).filter fun r => r.request = .sendCode ∨ r.request = .check
  | .succeed index _ => s.requests[index]?
  | _ => none

/-- The reply comes to the screen that asked; this screen, if it is still shown, can be
used again; and no screen for a new phone handles the success of `reauth`. -/
def ReachesAsker (s : PhoneScreens) (e : Event) : Prop :=
  ∀ t, s.step e = some t → ∀ r ∈ s.replied e,
    s.showChecked = some r.asker ∧
      (∀ screen ∈ t.screens[r.asker]?, screen.presented = true → screen.enabled = true) ∧
      (r.request = .reauth → ∀ i ∈ s.showChecked, ∀ screen ∈ s.screens[i]?,
        screen.screenClass ≠ .newPhoneViewController)

/-- Record the screen that loaded last or had a code checked last. -/
def noteInstalled (s : PhoneScreens) : Event → Option ℕ → Option ℕ
  | .viewDidLoad _, _ => some s.screens.length
  | .ask i .check, _ => some i
  | _, installed => installed

/-- The screen whose request is answered loaded last or had a code checked last. -/
def InstalledLast (sm : PhoneScreens × Option ℕ) (e : Event) : Prop :=
  ∀ r ∈ sm.1.replied e, sm.2 = some r.asker

end PhoneScreens

/-! ### What the handlers leave -/

namespace PhoneScreen

/-- Only a screen with `isEnabledEverything` may have its controls disabled. -/
def Usable (screen : PhoneScreen) : Prop :=
  screen.screenClass.disables = false → screen.enabled = true

/-- A handler keeps the class of its screen and disables no other control. -/
structure Handler (f : PhoneScreen → PhoneScreen) : Prop where
  screenClass : ∀ screen, (f screen).screenClass = screen.screenClass
  usable : ∀ screen, screen.Usable → (f screen).Usable

theorem handler_isEnabledEverything (b : Bool) : Handler (isEnabledEverything · b) where
  screenClass screen := by
    rw [isEnabledEverything]
    split <;> rfl
  usable screen usable := by
    rw [isEnabledEverything]
    split
    case isTrue disables => exact fun not => absurd (disables.symm.trans not) (by decide)
    case isFalse => exact usable

theorem handler_dismiss : Handler ({ · with presented := false }) := ⟨fun _ => rfl, fun _ => id⟩

theorem handler_sendCodeReturn : Handler sendCodeReturn := handler_isEnabledEverything true

theorem handler_checkingReturn (currentuserID : String) (b : Bool) :
    Handler (checkingReturn currentuserID b) := by
  have enables := handler_isEnabledEverything true
  constructor
  · intro screen
    rw [checkingReturn]
    split
    · exact enables.screenClass screen
    · split
      · exact enables.screenClass screen
      · rfl
    · rfl
    · split <;> rfl
  · intro screen usable
    rw [checkingReturn]
    split
    · exact enables.usable screen usable
    · split
      · exact enables.usable screen usable
      · exact usable
    · exact usable
    · split <;> exact usable

theorem handler_showAlert : Handler showAlert where
  screenClass screen := by
    rw [showAlert]
    split
    · exact (handler_isEnabledEverything true).screenClass screen
    · rfl
  usable screen usable := by
    rw [showAlert]
    split
    · exact (handler_isEnabledEverything true).usable screen usable
    · exact usable

theorem enabled_isEnabledEverything {screen : PhoneScreen} (usable : screen.Usable) :
    (screen.isEnabledEverything true).enabled = true := by
  rw [isEnabledEverything]
  split
  case isTrue => rfl
  case isFalse disables => exact usable (Bool.eq_false_iff.mpr disables)

/-- After a check the screen is dismissed or can be used. -/
theorem enabled_checkingReturn {screen : PhoneScreen} (usable : screen.Usable)
    {currentuserID : String} {b : Bool}
    (presented : (screen.checkingReturn currentuserID b).presented = true) :
    (screen.checkingReturn currentuserID b).enabled = true := by
  rw [checkingReturn] at presented ⊢
  split at presented
  case h_1 => exact enabled_isEnabledEverything usable
  case h_2 =>
    split at presented
    case isTrue unknown =>
      rw [if_pos unknown]
      exact enabled_isEnabledEverything usable
    case isFalse => cases presented
  case h_3 same => exact usable (by rw [same]; rfl)
  case h_4 same =>
    split
    all_goals exact usable (by rw [same]; rfl)

end PhoneScreen

namespace PhoneScreens

section Steps

variable {s t : PhoneScreens} {installed : Option ℕ} {e : Event}
  {f : PhoneScreen → PhoneScreen} {r : PendingRequest}

/-- The record names the delegate, and every request comes from a screen of a class that
makes it. -/
structure Consistent (sm : PhoneScreens × Option ℕ) : Prop where
  installed : sm.2 = sm.1.showChecked
  usable : ∀ (i : ℕ) (screen : PhoneScreen), sm.1.screens[i]? = some screen → screen.Usable
  asked : ∀ r ∈ sm.1.requests, ∃ screen, sm.1.screens[r.asker]? = some screen ∧
    screen.screenClass.asks r.request = true

@[simp] theorem modify_showChecked (s : PhoneScreens) (delegate : Option ℕ)
    (f : PhoneScreen → PhoneScreen) : (s.modify delegate f).showChecked = s.showChecked := by
  cases delegate <;> rfl

@[simp] theorem modify_requests (s : PhoneScreens) (delegate : Option ℕ)
    (f : PhoneScreen → PhoneScreen) : (s.modify delegate f).requests = s.requests := by
  cases delegate <;> rfl

/-- Every screen stays, as it was or as the handler leaves it. -/
theorem exists_modify (s : PhoneScreens) (delegate : Option ℕ) (f : PhoneScreen → PhoneScreen)
    {i : ℕ} {screen : PhoneScreen} (here : s.screens[i]? = some screen) :
    ∃ left, (s.modify delegate f).screens[i]? = some left ∧ (left = screen ∨ left = f screen) := by
  cases delegate with
  | none => exact ⟨screen, here, Or.inl rfl⟩
  | some j =>
    by_cases same : j = i
    · subst same
      refine ⟨f screen, ?_, Or.inr rfl⟩
      rw [modify, List.getElem?_modify_eq, here]
      rfl
    · refine ⟨screen, ?_, Or.inl rfl⟩
      rw [modify, List.getElem?_modify_ne _ _ same, here]

/-- A handler of one screen keeps the whole consistent. -/
theorem Consistent.modify (h : Consistent (s, installed)) (handler : PhoneScreen.Handler f)
    (delegate : Option ℕ) : Consistent (s.modify delegate f, installed) where
  installed := h.installed.trans (modify_showChecked s delegate f).symm
  usable := by
    cases delegate with
    | none => exact h.usable
    | some i =>
      cases here : s.screens[i]? with
      | none =>
        rw [PhoneScreens.modify, List.modify_eq_self (List.getElem?_eq_none_iff.mp here)]
        exact h.usable
      | some screen =>
        exact Table.forall_modify here (fun j other _ => h.usable j other)
          (handler.usable screen (h.usable i screen here))
  asked r waiting := by
    obtain ⟨screen, here, asks⟩ := h.asked r (modify_requests s delegate f ▸ waiting)
    obtain ⟨left, there, rfl | rfl⟩ := exists_modify s delegate f here
    · exact ⟨left, there, asks⟩
    · exact ⟨_, there, (handler.screenClass screen).symm ▸ asks⟩

theorem Consistent.answered (h : Consistent (s, installed)) (index : ℕ) :
    Consistent (s.answered index, installed) where
  installed := h.installed
  usable := h.usable
  asked r waiting := h.asked r (List.mem_of_mem_eraseIdx waiting)

theorem Consistent.signIn (h : Consistent (s, installed)) (currentUser : Option AuthUser) :
    Consistent (s.signIn currentUser, installed) := by
  rw [PhoneScreens.signIn]
  split
  · exact { h with }
  · exact h

theorem Consistent.fail (h : Consistent (s, installed)) (request : PhoneRequest) :
    Consistent (s.fail request, installed) := by
  cases request with
  | sendCode => exact h.modify PhoneScreen.handler_sendCodeReturn _
  | check => exact h.modify (PhoneScreen.handler_checkingReturn ..) _
  | reauth | updatePhone => exact h.modify PhoneScreen.handler_showAlert _

theorem Consistent.succeed (h : Consistent (s, installed)) (currentUser : Option AuthUser)
    (request : PhoneRequest) : Consistent (s.succeed currentUser request, installed) := by
  cases request with
  | sendCode => exact h.modify PhoneScreen.handler_sendCodeReturn _
  | check => exact (h.signIn currentUser).modify (PhoneScreen.handler_checkingReturn ..) _
  | reauth | updatePhone => exact h.modify (PhoneScreen.handler_checkingReturn ..) _

theorem Consistent.viewDidLoad (h : Consistent (s, installed)) (screenClass : PhoneScreenClass) :
    Consistent (s.viewDidLoad screenClass, some s.screens.length) where
  installed := rfl
  usable := Table.forall_concat h.usable fun _ => rfl
  asked r waiting := by
    obtain ⟨screen, here, asks⟩ := h.asked r waiting
    refine ⟨screen, ?_, asks⟩
    rw [PhoneScreens.viewDidLoad, List.getElem?_append_left (List.getElem?_eq_some_iff.mp here).1]
    exact here

/-- A screen that is shown makes a request of its class. -/
theorem Consistent.ask (h : Consistent (s, installed)) {i : ℕ} {screen : PhoneScreen}
    (here : s.screens[i]? = some screen) {request : PhoneRequest}
    (asks : screen.screenClass.asks request = true) :
    Consistent (s.ask i request, noteInstalled s (.ask i request) installed) := by
  have disables := PhoneScreen.handler_isEnabledEverything false
  have disabled := h.modify disables (some i)
  refine ⟨?_, disabled.usable, fun r waiting => ?_⟩
  · cases request with
    | check => rfl
    | _ => exact h.installed
  · rcases List.mem_append.mp waiting with earlier | new
    · exact disabled.asked r earlier
    · obtain rfl := List.mem_singleton.mp new
      obtain ⟨left, there, rfl | rfl⟩ :=
        exists_modify s (some i) (·.isEnabledEverything false) here
      · exact ⟨left, there, asks⟩
      · exact ⟨_, there, (disables.screenClass screen).symm ▸ asks⟩

theorem Consistent.step (h : Consistent (s, installed)) (taken : s.step e = some t) :
    Consistent (t, noteInstalled s e installed) := by
  cases e with
  | viewDidLoad screenClass =>
    obtain rfl := Option.some.inj taken
    exact h.viewDidLoad screenClass
  | dismiss i =>
    obtain ⟨screen, here, taken⟩ := Option.bind_eq_some_iff.mp taken
    obtain ⟨-, dismissed⟩ := Option.ite_none_right_eq_some.mp taken
    obtain rfl := Option.some.inj dismissed
    exact h.modify PhoneScreen.handler_dismiss _
  | ask i request =>
    obtain ⟨screen, here, taken⟩ := Option.bind_eq_some_iff.mp taken
    obtain ⟨⟨-, asks⟩, asked⟩ := Option.ite_none_right_eq_some.mp taken
    obtain rfl := Option.some.inj asked
    exact h.ask here asks
  | setCurrentuserID userID =>
    obtain rfl := Option.some.inj taken
    exact { h with }
  | fail index =>
    obtain ⟨r, -, rfl⟩ := Option.map_eq_some_iff.mp taken
    exact (h.answered index).fail r.request
  | succeed index currentUser =>
    obtain ⟨r, -, rfl⟩ := Option.map_eq_some_iff.mp taken
    exact (h.answered index).succeed currentUser r.request

/-- A reply goes to the delegate, which handles a code that was sent or one that was
checked. -/
theorem replied_cases (taken : s.step e = some t) (reply : s.replied e = some r) :
    r ∈ s.requests ∧ ∃ u : PhoneScreens, u.screens = s.screens ∧
      (t = u.modify s.showChecked PhoneScreen.sendCodeReturn ∨
        ∃ b, t = u.modify s.showChecked (PhoneScreen.checkingReturn u.currentuserID b)) := by
  cases e with
  | fail index =>
    obtain ⟨here, sort⟩ := Option.filter_eq_some_iff.mp reply
    obtain ⟨same, there, rfl⟩ := Option.map_eq_some_iff.mp taken
    obtain rfl := Option.some.inj (here.symm.trans there)
    refine ⟨List.mem_of_getElem? here, s.answered index, rfl, ?_⟩
    rcases of_decide_eq_true sort with sent | checked
    · rw [sent]
      exact Or.inl rfl
    · rw [checked]
      exact Or.inr ⟨false, rfl⟩
  | succeed index currentUser =>
    obtain ⟨same, there, rfl⟩ := Option.map_eq_some_iff.mp taken
    obtain rfl := Option.some.inj (reply.symm.trans there)
    refine ⟨List.mem_of_getElem? reply, ?_⟩
    cases r.request with
    | sendCode => exact ⟨s.answered index, rfl, Or.inl rfl⟩
    | check =>
      refine ⟨(s.answered index).signIn currentUser, ?_, Or.inr ⟨true, ?_⟩⟩
      · rw [signIn]
        split <;> rfl
      · rw [succeed, signIn]
        split <;> rfl
    | reauth | updatePhone => exact ⟨s.answered index, rfl, Or.inr ⟨true, rfl⟩⟩
  | _ => cases reply

/-- The asker, once it has got the reply, is dismissed or can be used. -/
theorem Consistent.enabled_of_reply (h : Consistent (s, installed)) (taken : s.step e = some t)
    (reply : s.replied e = some r) (delivered : s.showChecked = some r.asker)
    {screen : PhoneScreen} (there : t.screens[r.asker]? = some screen)
    (presented : screen.presented = true) : screen.enabled = true := by
  obtain ⟨waiting, u, screens, handled⟩ := replied_cases taken reply
  obtain ⟨asker, here, -⟩ := h.asked r waiting
  have usable := h.usable r.asker asker here
  have left (f : PhoneScreen → PhoneScreen) (after : t = u.modify s.showChecked f) :
      screen = f asker := by
    rw [after, delivered, PhoneScreens.modify, List.getElem?_modify_eq, screens, here] at there
    exact (Option.some.inj there).symm
  rcases handled with sent | ⟨b, checked⟩
  · rw [left _ sent]
    exact PhoneScreen.enabled_isEnabledEverything usable
  · rw [left _ checked] at presented ⊢
    exact PhoneScreen.enabled_checkingReturn usable presented

theorem Consistent.reachesAsker_iff (h : Consistent (s, installed)) :
    s.ReachesAsker e ↔ InstalledLast (s, installed) e := by
  have same : installed = s.showChecked := h.installed
  constructor
  · intro reaches r reply
    obtain ⟨t, taken⟩ : ∃ t, s.step e = some t := by
      cases e with
      | fail index =>
        obtain ⟨here, -⟩ := Option.filter_eq_some_iff.mp reply
        exact ⟨_, Option.map_eq_some_iff.mpr ⟨r, here, rfl⟩⟩
      | succeed index currentUser => exact ⟨_, Option.map_eq_some_iff.mpr ⟨r, reply, rfl⟩⟩
      | _ => cases reply
    exact same.trans (reaches t taken r reply).1
  · intro last t taken r reply
    have delivered : s.showChecked = some r.asker := same.symm.trans (last r reply)
    refine ⟨delivered, fun screen there => h.enabled_of_reply taken reply delivered there, ?_⟩
    intro reauth i slot screen here newPhone
    obtain rfl := Option.some.inj (delivered.symm.trans slot)
    obtain ⟨asker, there, asks⟩ := h.asked r (replied_cases taken reply).1
    obtain rfl := Option.some.inj (here.symm.trans there)
    -- a screen for a new phone does not ask for `reauth`
    rw [reauth, newPhone] at asks
    cases asks

end Steps

/-- In every run of presentations, dismissals, requests and replies from the start: every
reply reaches the screen that asked and leaves it usable, and no success of `reauth`
comes to a screen for a new phone, exactly if at every reply the screen that asked is the
one that loaded last or had a code checked last. -/
theorem replies_reach_asker_iff (events : List Event) :
    EveryStep (watch step noteInstalled) (fun sm => sm.1.ReachesAsker) ({}, none) events ↔
      EveryStep (watch step noteInstalled) InstalledLast ({}, none) events := by
  have start : Consistent ({}, none) := ⟨rfl, nofun, nofun⟩
  refine everyStep_congr_of_invariant (I := Consistent) (watch_kept ?_) ?_ start events
  · intro s installed e t h taken
    exact h.step taken
  · rintro ⟨s, installed⟩ e h
    exact h.reachesAsker_iff

/-- A registration is dismissed, and the login screen below it asks for a code. -/
def askAfterRegistration : List Event :=
  [.viewDidLoad .loginViewController, .viewDidLoad .phoneAuthViewContoller, .dismiss 1,
   .ask 0 .sendCode]

/-- The reply goes to the registration, and the login screen stays disabled. -/
theorem not_always_reaches_asker : ¬ ∀ events, EveryStep step ReachesAsker {} events := by
  intro always
  have reached : (exec step {} askAfterRegistration).bind
      (fun s => (s.step (.succeed 0 none)).map fun t =>
        (s.showChecked, s.replied (.succeed 0 none), t.screens[0]?)) =
      some (some 1, some ⟨0, .sendCode⟩, some ⟨.loginViewController, true, false⟩) := by
    decide +kernel
  obtain ⟨s, run, last⟩ := Option.bind_eq_some_iff.mp reached
  obtain ⟨t, taken, values⟩ := Option.map_eq_some_iff.mp last
  simp only [Prod.mk.injEq] at values
  obtain ⟨delegate, reply, disabled⟩ := values
  have reaches := (always (askAfterRegistration ++ [.succeed 0 none])).of_append run t taken _ reply
  exact absurd (delegate.symm.trans reaches.1) (by decide)

end PhoneScreens

end OnMap
