/-
# The registration screen

A registration asks for a phone number, checks the code that was sent, links an e-mail
and a password to the account, and asks for a name, a surname and a status. It ends when
the screen is dismissed; the login screen below then shows the main tab bar if somebody
is signed in.

The name and the surname are looked at by `addInformation`, which waits on the main queue
while the screen is already being dismissed, and can be left out altogether.
-/

import OnMap.Account.OwnData
import OnMap.Login.PhoneNumber

namespace OnMap

open Transition

/-- The fields of `User`, what the service has been given. -/
structure User where
  name : String := ""
  surname : String := ""
  email : String := ""
  password : String := ""

/-- The text of a phone number without its formatting; `+` is put before a text that does
not start with it. -/
def getRealPhone (phone : String) : String :=
  match phone.toList with
  | [] => ""
  | first :: rest =>
    let digits := (first :: rest).filter fun i => i ≠ ' ' ∧ i ≠ '-' ∧ i ≠ ')' ∧ i ≠ '('
    String.ofList (if first = '+' then digits else '+' :: digits)

/-- The text as the list of its `Character`s, when each is one scalar. -/
def characters (text : String) : Text := text.toList.map String.singleton

theorem singleton_eq_iff (i : Char) {c : Char} {text : String}
    (scalar : text = String.singleton c) : String.singleton i = text ↔ i = c := by
  rw [scalar, String.singleton_inj]

theorem isKept_singleton (i : Char) :
    UITextField.isKept (String.singleton i) =
      decide (i ≠ ' ' ∧ i ≠ '-' ∧ i ≠ ')' ∧ i ≠ '(') := by
  have space : String.singleton i = " " ↔ i = ' ' := singleton_eq_iff i rfl
  have hyphen : String.singleton i = "-" ↔ i = '-' := singleton_eq_iff i rfl
  have closing : String.singleton i = ")" ↔ i = ')' := singleton_eq_iff i rfl
  have opening : String.singleton i = "(" ↔ i = '(' := singleton_eq_iff i rfl
  simp only [UITextField.isKept, ne_eq, space, hyphen, closing, opening]

theorem filter_characters (text : List Char) :
    (text.map String.singleton).filter UITextField.isKept =
      (text.filter fun i => i ≠ ' ' ∧ i ≠ '-' ∧ i ≠ ')' ∧ i ≠ '(').map String.singleton := by
  rw [List.filter_map]
  congr 2
  funext i
  exact isKept_singleton i

/-- On such a text the loops of the text field compute `getRealPhone`. -/
theorem getRealPhone_characters (phone : String) :
    UITextField.getRealPhone (characters phone) = some (characters (getRealPhone phone)) := by
  rw [UITextField.getRealPhone_eq, characters, getRealPhone]
  cases phone.toList with
  | nil => rfl
  | cons first rest =>
    have collected := UITextField.collected_cons (String.singleton first)
      (rest.map String.singleton)
    rw [← List.map_cons, filter_characters] at collected
    rw [collected]
    dsimp only
    have plus : String.singleton first = "+" ↔ first = '+' := singleton_eq_iff first rfl
    by_cases kept : first = '+'
    · rw [if_pos (plus.mpr kept), if_pos kept]
      simp only [characters, String.toList_ofList]
    · rw [if_neg (mt plus.mp kept), if_neg kept]
      simp only [characters, String.toList_ofList, List.map_cons]
      rfl

/-- A block that the screen has put on the main queue. -/
inductive RegistrationBlock | sendCodeNet | checkCode | linkEmail | addInformation
  deriving DecidableEq, Repr

/-- A call of Firebase that has not been answered. -/
inductive AuthCall
  | verifyPhoneNumber (phoneNumber : String)
  | signIn (codeForCheck : String)
  | link (email password : String)
  deriving DecidableEq, Repr

/-- A registration: the screen, the blocks on the main queue, the service, Firebase and
the login screen below. `codeAsked` tells the two windows of the phone view apart,
`informationOpen` those of the e-mail view. -/
structure Registration where
  presented : Bool := true
  enabled : Bool := true
  codeAsked : Bool := false
  emailOpen : Bool := false
  informationOpen : Bool := false
  phoneCustomViewTextField : String := ""
  emailTextField : String := ""
  passwordTextField : String := ""
  repeatedPasswordTextField : String := ""
  alerts : List (String × String) := []
  blocks : List RegistrationBlock := []
  title : String := ""
  message : String := ""
  user : User := {}
  calls : List AuthCall := []
  currentUser : Option AuthUser := none
  users : String → Option Dictionary
  currentuserID : String := ""
  mainTabBar : Bool := false

namespace Registration

/-- What can happen: the user types and presses a button; the next block of the main queue
runs; Firebase answers a call, `signIn` with the user of the phone number, and a link that
fails may sign the user out; the login screen appears. -/
inductive Event
  | typePhone (text : String)
  | typeTexts (first second third : String)
  | nextPhone
  | backPhone
  | nextEmail
  | alreadyHaveAccount
  | runBlock (now : Date)
  | fail (index : ℕ) (error : String) (signsOut : Bool)
  | succeed (index : ℕ) (account : AuthUser)
  | viewDidAppear

/-! ### The screen -/

def isEnabledEverything (s : Registration) (b : Bool) : Registration := { s with enabled := b }

def showAlert (s : Registration) (title message : String) : Registration :=
  { s with alerts := s.alerts ++ [(title, message)], enabled := true }

/-- `dismiss` -/
def endRegistration (s : Registration) : Registration := { s with presented := false }

/-- The phone view asks for the code. Setting a text field up clears it. -/
def disappearFirstPhone (s : Registration) : Registration :=
  { s with codeAsked := true, phoneCustomViewTextField := "" }

def disappearSecondPhone (s : Registration) : Registration :=
  { s with codeAsked := false, phoneCustomViewTextField := "" }

def clearTexts (s : Registration) : Registration :=
  { s with emailTextField := "", passwordTextField := "", repeatedPasswordTextField := "" }

def openEmailView (s : Registration) : Registration := { s.clearTexts with emailOpen := true }

/-- `disappearFirstEmail`: the e-mail view asks for the name. -/
def disappearFirstEmail (s : Registration) : Registration :=
  { s.clearTexts with informationOpen := true }

def sendCodeReturn (s : Registration) (b : Bool) : Registration :=
  if b then s.disappearFirstPhone.isEnabledEverything true
  else s.showAlert "Неверный номер телефона" "Попробуйте ввести ещё раз"

def checkingReturn (s : Registration) (b : Bool) : Registration :=
  if s.currentuserID = "" then
    if b then s.openEmailView.isEnabledEverything true
    else s.showAlert "Неверный код" "Попробуйте ввести ещё раз"
  else s.endRegistration

def showNext (s : Registration) : Registration := s.disappearFirstEmail.isEnabledEverything true

def dispatch (s : Registration) (block : RegistrationBlock) : Registration :=
  { s with blocks := s.blocks ++ [block] }

def linkWithCredential (s : Registration) : Registration :=
  (s.isEnabledEverything false).dispatch .linkEmail

/-- The registration ends before the block runs. -/
def addUserInfo (s : Registration) : Registration :=
  (s.dispatch .addInformation).endRegistration

/-! ### The blocks -/

def call (s : Registration) (authCall : AuthCall) : Registration :=
  { s with calls := s.calls ++ [authCall] }

def sendCodeNet (s : Registration) (phone : String) : Registration :=
  if phone ≠ "" then (s.isEnabledEverything false).call (.verifyPhoneNumber phone)
  else s.showAlert "Ошибка" "Введите номер телефона"

def checkCode (s : Registration) : Registration :=
  (s.isEnabledEverything false).call (.signIn s.phoneCustomViewTextField)

/-- The service reports an error through `title` and `message`. -/
def refuse (s : Registration) (message : String) : Registration :=
  { s with title := "Ошибка", message := message }.showAlert "Ошибка" message

def linkEmail (s : Registration) (email password reppassword : String) : Registration :=
  let s := { s with title := "Success", message := "Success" }
  if reppassword ≠ password then s.refuse "Пароли не совпадают"
  else
    let s := { s with user := { s.user with email := email, password := password } }
    -- without a current user there is nobody to link to
    if s.currentUser.isSome then s.call (.link email password) else s

/-- `Auth.auth().currentUser?.uid ?? ""` -/
def uid (s : Registration) : String := (s.currentUser.map AuthUser.uid).getD ""

def addInformation (s : Registration) (name surname status : String) (now : Date) :
    Registration :=
  let s := { s with title := "Success", message := "Success" }
  if name = "" ∨ surname = "" then s.refuse "Заполните все поля"
  else
    let user := { s.user with name := name, surname := surname }
    let values := [("name", Value.string name), ("email", .string user.email),
      ("surname", .string surname), ("status", .string status),
      ("date", .string (Date.description now))]
    { s with
      user := user
      users := Function.update s.users s.uid (updateChildValues values (s.users s.uid)) }

/-- A block reads the text fields when it runs. -/
def runBlock (s : Registration) (now : Date) : RegistrationBlock → Registration
  | .sendCodeNet => s.sendCodeNet (getRealPhone s.phoneCustomViewTextField)
  | .checkCode => s.checkCode
  | .linkEmail => s.linkEmail s.emailTextField s.passwordTextField s.repeatedPasswordTextField
  | .addInformation =>
    s.addInformation s.emailTextField s.passwordTextField s.repeatedPasswordTextField now

/-! ### Answers of Firebase -/

/-- `signOutByForce`, when the error says that the user or the token is no longer valid. -/
def signOutByForce (s : Registration) : Registration := { s with currentUser := none }

def fail (s : Registration) (error : String) (signsOut : Bool) : AuthCall → Registration
  | .verifyPhoneNumber _ => s.sendCodeReturn false
  | .signIn _ => s.checkingReturn false
  | .link .. => (if signsOut then s.signOutByForce else s).refuse error

/-- The service is taken to store the e-mail of a link as it was asked to. -/
def succeed (s : Registration) (account : AuthUser) : AuthCall → Registration
  | .verifyPhoneNumber _ => s.sendCodeReturn true
  | .signIn _ =>
    let s := { s with currentUser := some account }
    -- a user with an e-mail has registered before
    if account.email.isSome then { s with currentuserID := account.uid }.checkingReturn true
    else s.checkingReturn true
  | .link email _ =>
    let linked := s.currentUser.map fun user => { user with email := some email }
    let s := { s with currentUser := linked }
    { s.showNext with currentuserID := s.uid }

def answered (s : Registration) (index : ℕ) : Registration :=
  { s with calls := s.calls.eraseIdx index }

/-- `viewDidAppear` of the login screen. -/
def viewDidAppear (s : Registration) : Registration :=
  if s.currentuserID ≠ "" then { s with mainTabBar := true } else s

/-- The user presses a button of the screen or types. -/
def press (s : Registration) (pressed : Registration) : Option Registration :=
  if s.presented = true ∧ s.enabled = true then some pressed else none

def step (s : Registration) : Event → Option Registration
  | .typePhone text => s.press { s with phoneCustomViewTextField := text }
  | .typeTexts first second third => s.press { s with
      emailTextField := first, passwordTextField := second, repeatedPasswordTextField := third }
  | .nextPhone => s.press (s.dispatch (if s.codeAsked then .checkCode else .sendCodeNet))
  | .backPhone => s.press s.disappearSecondPhone
  | .nextEmail =>
    if s.emailOpen then s.press (if s.informationOpen then s.addUserInfo else s.linkWithCredential)
    else none
  | .alreadyHaveAccount => s.press s.endRegistration
  | .runBlock now =>
    match s.blocks with
    | [] => none
    | block :: rest => some ({ s with blocks := rest }.runBlock now block)
  | .fail index error signsOut =>
    (s.calls[index]?).map ((s.answered index).fail error signsOut)
  | .succeed index account => (s.calls[index]?).map ((s.answered index).succeed account)
  | .viewDidAppear =>
    if s.presented = false ∧ s.mainTabBar = false then some s.viewDidAppear else none

/-! ### Names -/

/-- A record with a name and a surname. -/
def FullName (record : Option Dictionary) : Prop :=
  textAt record "name" ≠ "" ∧ textAt record "surname" ≠ ""

/-- The user for whom the event runs `addInformation` with a name and a surname. -/
def informs (s : Registration) : Event → Option String
  | .runBlock _ =>
    match s.blocks with
    | .addInformation :: _ =>
      if s.emailTextField ≠ "" ∧ s.passwordTextField ≠ "" then some s.uid else none
    | _ => none
  | _ => none

/-- Whether the event is the success of `linkEmail`. -/
def links (s : Registration) : Event → Bool
  | .succeed index _ =>
    match s.calls[index]? with
    | some (.link ..) => true
    | _ => false
  | _ => false

/-- What is recorded about a run: whether an account has been linked, and the users with
whose name and surname `addInformation` has run. -/
structure Log where
  linked : Bool := false
  informed : List String := []

def note (s : Registration) (e : Event) (log : Log) : Log where
  linked := log.linked || s.links e
  informed := log.informed ++ (s.informs e).toList

/-- Once an account is linked, the main tab bar is shown to a user with a full name. -/
def AdmitsNamed (sm : Registration × Log) (e : Event) : Prop :=
  ∀ t, sm.1.step e = some t → e = .viewDidAppear → sm.2.linked = true → t.mainTabBar = true →
    FullName (t.users t.currentuserID)

/-- The login screen appears, with somebody signed in, only after `addInformation` has
run with the user's name and surname, or else to a user who had a full name before. -/
def InformedFirst (users : String → Option Dictionary) (sm : Registration × Log) : Event → Prop
  | .viewDidAppear =>
    sm.1.presented = false → sm.1.mainTabBar = false → sm.2.linked = true →
      sm.1.currentuserID ≠ "" →
        FullName (users sm.1.currentuserID) ∨ sm.1.currentuserID ∈ sm.2.informed
  | _ => True

section Lemmas

variable {s t : Registration} {e : Event}

@[simp] theorem users_checkingReturn (s : Registration) (b : Bool) :
    (s.checkingReturn b).users = s.users := by
  rw [checkingReturn]
  split
  · split <;> rfl
  · rfl

@[simp] theorem users_sendCodeReturn (s : Registration) (b : Bool) :
    (s.sendCodeReturn b).users = s.users := by
  rw [sendCodeReturn]
  split <;> rfl

@[simp] theorem users_sendCodeNet (s : Registration) (phone : String) :
    (s.sendCodeNet phone).users = s.users := by
  rw [sendCodeNet]
  split <;> rfl

@[simp] theorem users_linkEmail (s : Registration) (email password reppassword : String) :
    (s.linkEmail email password reppassword).users = s.users := by
  simp only [linkEmail]
  split
  · rfl
  · split <;> rfl

theorem users_fail (s : Registration) (error : String) (signsOut : Bool)
    (authCall : AuthCall) : (s.fail error signsOut authCall).users = s.users := by
  cases authCall with
  | verifyPhoneNumber => exact users_sendCodeReturn s false
  | signIn => exact users_checkingReturn s false
  | link =>
    rw [fail]
    split <;> rfl

theorem users_succeed (s : Registration) (account : AuthUser) (authCall : AuthCall) :
    (s.succeed account authCall).users = s.users := by
  cases authCall with
  | verifyPhoneNumber => exact users_sendCodeReturn s true
  | signIn =>
    simp only [succeed]
    split <;> exact users_checkingReturn _ true
  | link => rfl

theorem step_press {pressed : Registration} (taken : s.press pressed = some t) : pressed = t :=
  Option.some.inj (Option.ite_none_right_eq_some.mp taken).2

/-- `addInformation` writes a full name, or nothing. -/
theorem users_addInformation (s : Registration) (name surname status : String) (now : Date) :
    (name ≠ "" ∧ surname ≠ "" → ∃ record, FullName record ∧
        (s.addInformation name surname status now).users =
          Function.update s.users s.uid record) ∧
      (¬ (name ≠ "" ∧ surname ≠ "") →
        (s.addInformation name surname status now).users = s.users) := by
  simp only [addInformation]
  constructor
  · rintro ⟨named, surnamed⟩
    rw [if_neg (by simp [named, surnamed])]
    refine ⟨_, ⟨?_, ?_⟩, rfl⟩
    · exact fun missing =>
        named ((textAt_updateChildValues_of_lookup (by rfl) _).symm.trans missing)
    · exact fun missing =>
        surnamed ((textAt_updateChildValues_of_lookup (by rfl) _).symm.trans missing)
  · intro missing
    rw [if_pos (by simpa [or_iff_not_imp_left] using missing)]
    rfl

/-- A block writes the record of the user it informs, and no other. -/
theorem users_runBlock {block : RegistrationBlock} {rest : List RegistrationBlock}
    (queue : s.blocks = block :: rest) (now : Date) :
    (s.informs (.runBlock now) = none →
        ({ s with blocks := rest }.runBlock now block).users = s.users) ∧
      ∀ uid, s.informs (.runBlock now) = some uid → ∃ record, FullName record ∧
        ({ s with blocks := rest }.runBlock now block).users =
          Function.update s.users uid record := by
  simp only [informs, queue]
  cases block with
  | sendCodeNet => exact ⟨fun _ => users_sendCodeNet .., nofun⟩
  | checkCode => exact ⟨fun _ => rfl, nofun⟩
  | linkEmail => exact ⟨fun _ => users_linkEmail .., nofun⟩
  | addInformation =>
    -- the block writes exactly if both texts are there
    obtain ⟨writes, leaves⟩ := users_addInformation { s with blocks := rest }
      s.emailTextField s.passwordTextField s.repeatedPasswordTextField now
    constructor
    · intro uninformed
      refine leaves fun both => ?_
      rw [if_pos both] at uninformed
      cases uninformed
    · intro uid informed
      obtain ⟨both, own⟩ := Option.ite_none_right_eq_some.mp informed
      obtain rfl := Option.some.inj own
      exact writes both

/-- A step writes the record of the user it informs, and no other. -/
theorem users_of_step (taken : s.step e = some t) :
    (s.informs e = none → t.users = s.users) ∧ ∀ uid, s.informs e = some uid →
      ∃ record, FullName record ∧ t.users = Function.update s.users uid record := by
  cases e with
  | typePhone | typeTexts | nextPhone | backPhone | alreadyHaveAccount =>
    obtain rfl := step_press taken
    exact ⟨fun _ => rfl, nofun⟩
  | nextEmail =>
    obtain ⟨-, pressed⟩ := Option.ite_none_right_eq_some.mp taken
    obtain rfl := step_press pressed
    refine ⟨fun _ => ?_, nofun⟩
    split <;> rfl
  | fail index error signsOut =>
    obtain ⟨authCall, -, rfl⟩ := Option.map_eq_some_iff.mp taken
    exact ⟨fun _ => users_fail .., nofun⟩
  | succeed index account =>
    obtain ⟨authCall, -, rfl⟩ := Option.map_eq_some_iff.mp taken
    exact ⟨fun _ => users_succeed .., nofun⟩
  | viewDidAppear =>
    obtain ⟨-, appears⟩ := Option.ite_none_right_eq_some.mp taken
    obtain rfl := Option.some.inj appears
    refine ⟨fun _ => ?_, nofun⟩
    rw [viewDidAppear]
    split <;> rfl
  | runBlock now =>
    cases queue : s.blocks with
    | nil => simp [step, queue] at taken
    | cons block rest =>
      simp only [step, queue, Option.some.injEq] at taken
      exact taken ▸ users_runBlock queue now

/-- A user has a full name if there was one before the run or the user was informed. -/
def Recorded (users : String → Option Dictionary) (sm : Registration × Log) : Prop :=
  ∀ uid, FullName (sm.1.users uid) ↔ FullName (users uid) ∨ uid ∈ sm.2.informed

theorem Recorded.step {users : String → Option Dictionary} {log : Log}
    (h : Recorded users (s, log)) (taken : s.step e = some t) :
    Recorded users (t, note s e log) := by
  intro uid
  obtain ⟨leaves, writes⟩ := users_of_step taken
  cases informed : s.informs e with
  | none =>
    rw [leaves informed]
    simpa [note, informed] using h uid
  | some own =>
    obtain ⟨record, named, users⟩ := writes own informed
    rw [users]
    by_cases same : uid = own
    · subst same
      simp [note, informed, named]
    · rw [Function.update_of_ne same]
      simpa [note, informed, same] using h uid

/-- The main tab bar appears to a user who is signed in. -/
theorem step_viewDidAppear (taken : s.step .viewDidAppear = some t) :
    s.presented = false ∧ s.mainTabBar = false ∧ t.users = s.users ∧
      t.currentuserID = s.currentuserID ∧ (t.mainTabBar = true ↔ s.currentuserID ≠ "") := by
  obtain ⟨⟨dismissed, hidden⟩, appears⟩ := Option.ite_none_right_eq_some.mp taken
  obtain rfl := Option.some.inj appears
  refine ⟨dismissed, hidden, ?_⟩
  rw [viewDidAppear]
  split
  case isTrue known => exact ⟨rfl, rfl, iff_of_true rfl known⟩
  case isFalse unknown => exact ⟨rfl, rfl, by simp [hidden, not_not.mp unknown]⟩

theorem Recorded.admitsNamed_iff {users : String → Option Dictionary} {log : Log}
    (h : Recorded users (s, log)) : AdmitsNamed (s, log) e ↔ InformedFirst users (s, log) e := by
  constructor
  · intro admits
    cases e with
    | viewDidAppear =>
      intro dismissed hidden linked known
      have taken : s.step .viewDidAppear = some s.viewDidAppear := if_pos ⟨dismissed, hidden⟩
      obtain ⟨-, -, stored, account, shown⟩ := step_viewDidAppear taken
      have named := admits _ taken rfl linked (shown.mpr known)
      rw [stored, account] at named
      exact (h _).mp named
    | _ => trivial
  · rintro first t taken rfl linked shows
    obtain ⟨dismissed, hidden, stored, account, shown⟩ := step_viewDidAppear taken
    rw [stored, account]
    exact (h _).mpr (first dismissed hidden linked (shown.mp shows))

end Lemmas

/-- In every run of a registration, with any server content, any texts and any answers of
Firebase: once an account is linked the main tab bar is shown only to users with a full
name, exactly if whenever it is shown `addInformation` has run with the user's name and
surname, or the user had a full name before. -/
theorem admits_named_iff (users : String → Option Dictionary) (currentUser : Option AuthUser)
    (events : List Event) :
    EveryStep (watch step note) AdmitsNamed
        ({ users := users, currentUser := currentUser }, {}) events ↔
      EveryStep (watch step note) (InformedFirst users)
        ({ users := users, currentUser := currentUser }, {}) events := by
  have start : Recorded users ({ users := users, currentUser := currentUser }, {}) := by
    intro uid
    simp
  refine everyStep_congr_of_invariant (I := Recorded users) (watch_kept ?_) ?_ start events
  · intro s log e t h taken
    exact h.step taken
  · rintro ⟨s, log⟩ e h
    exact h.admitsNamed_iff

/-- A new account is linked; the user is asked for a name and presses the button without
typing anything. -/
def leftEmpty : List Event :=
  [.typePhone "+7 (123) 456-78-99", .nextPhone, .runBlock 0, .succeed 0 ⟨"u", none, none⟩,
   .typePhone "123456", .nextPhone, .runBlock 0, .succeed 0 ⟨"u", none, none⟩,
   .typeTexts "a@b.c" "secret" "secret", .nextEmail, .runBlock 0, .succeed 0 ⟨"u", none, none⟩,
   .nextEmail, .runBlock 0]

/-- The alert comes too late: the main tab bar is shown to a user without a record. -/
theorem not_always_named :
    ¬ ∀ events, EveryStep (watch step note) AdmitsNamed ({ users := fun _ => none }, {})
      events := by
  intro always
  have reached : (exec (watch step note) ({ users := fun _ => none }, {}) leftEmpty).bind
      (fun sm => (sm.1.step .viewDidAppear).map fun t =>
        (sm.2.linked, t.mainTabBar, textAt (t.users t.currentuserID) "name")) =
      some (true, true, "") := by decide +kernel
  obtain ⟨sm, run, last⟩ := Option.bind_eq_some_iff.mp reached
  obtain ⟨t, taken, values⟩ := Option.map_eq_some_iff.mp last
  simp only [Prod.mk.injEq] at values
  obtain ⟨linked, shown, missing⟩ := values
  have named := (always (leftEmpty ++ [.viewDidAppear])).of_append run t taken rfl linked shown
  exact named.1 missing

end Registration

end OnMap
