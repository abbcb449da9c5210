/-
# The account screen

The account screen has variables of its own for the data of the user. `setFields` copies them
from `Account` when a record has arrived. An edit changes a variable at once, and puts a block on
the main queue that passes it on to `Account` and to the server.

The table draws its rows from the variables, each row once after a `reloadTable`. So what it
shows is what `Account` holds, as soon as no edit waits. When a row is asked for once more, the
table gets a cell in which nothing has been set up, and is told to draw the row again.
-/

import OnMap.Account.OwnData
import OnMap.Login.PhoneFormat
import OnMap.Login.Registration

namespace OnMap

open Transition

/-- The texts that the user edits on the screen. -/
inductive AccountText | name | surname | status
  deriving DecidableEq, Repr

/-- The child of the user's record. -/
def AccountText.key : AccountText → String
  | name => "name"
  | surname => "surname"
  | status => "status"

/-- `getName`, `getSurname` and `getStatus`. -/
def Account.text (a : Account) : AccountText → String
  | .name => a.name
  | .surname => a.surname
  | .status => a.status

/-- `setUserName`, `setUserSurname` and `setUserStatus`. -/
def AccountSession.setUser (s : AccountSession) (entered : String) (now : Date) :
    AccountText → AccountSession
  | .name => s.setUserName entered now
  | .surname => s.setUserSurname entered now
  | .status => s.setUserStatus entered

/-- `UIImage(named: "standartAvatar")` -/
def UIImage.standartAvatar : UIImage := ⟨"standartAvatar"⟩

/-- The rows of the table that show something of the user. -/
inductive AccountCell
  | text (field : AccountText)
  | phone
  | email
  deriving DecidableEq, Repr

/-- The two rows that share the photo. -/
def AccountCell.hasPhoto : AccountCell → Bool
  | text .name | text .surname => true
  | _ => false

/-- What a row shows of the user. -/
structure RowContent where
  photo : Option UIImage := none
  text : String := ""
  phoneLabel : Text := []
  deriving DecidableEq, Repr

/-- A cell, with what the views show that have been set up in it for each row. A cell that is
dequeued keeps the views of the rows it was drawn for before. -/
structure AccountTableViewCell where
  views : AccountCell → Option RowContent := fun _ => none

/-- A block that the screen has put on the main queue. -/
inductive AccountBlock
  | setUser (field : AccountText)
  | reloadData
  | uploadPhoto
  | loadData
  deriving DecidableEq, Repr

def AccountBlock.edits : AccountBlock → Bool
  | setUser _ => true
  | _ => false

/-- A call of `putData`; the reply is the error, if there is one. -/
structure PhotoUpload where
  userID : String
  image : UIImage
  reply : ServerReply (Option String) := .asked

/-- The account screen over the account of its device. `texts` are the variables `name`,
`surname` and `status`, `rows` the cells of the table, `redraws` the rows that `reloadRows` has
told it to draw again. -/
structure AccountViewController where
  session : AccountSession
  texts : AccountText → String
  phone : String
  email : String
  image : UIImage
  reuse : AccountCell → Bool := fun _ => true
  rows : AccountCell → AccountTableViewCell := fun _ => {}
  redraws : AccountCell → Bool := fun _ => false
  blocks : List AccountBlock := []
  uploads : List PhotoUpload := []
  alerts : List (String × String) := []

/-- What a row shows of the texts, the phone, the e-mail and the photo; `none` is the trap of
`workWithPhone`. -/
def AccountCell.content (texts : AccountText → String) (phone email : String)
    (image : Option UIImage) : AccountCell → Option RowContent
  | .text .status => some { text := texts .status }
  | .text field => some { photo := some (image.getD .standartAvatar), text := texts field }
  | .phone => (UILabel.workWithPhone (characters phone)).map fun label => { phoneLabel := label }
  | .email => some { text := email }

/-- A row that shows what `Account` holds. -/
def Account.content (a : Account) : AccountCell → Option RowContent :=
  AccountCell.content a.text a.phone a.email a.image

namespace AccountViewController

/-- What can happen: the session goes on; an edit ends, with the text of the text field; the
next block runs; the table asks for a row, for which it hands out the dequeued cell; a photo is
picked; an upload is answered and its closure runs; the authentication server has changed the
phone number or the e-mail address, and a screen that is open for it passes on the text that was
entered there. -/
inductive Event
  | session (e : AccountSession.Event)
  | change (field : AccountText) (entered : String)
  | runBlock (now : Date)
  | cellForRow (row : AccountCell) (dequeued : AccountTableViewCell)
  | didFinishPicking (image : UIImage)
  | putData (upload : ℕ) (error : Option String)
  | runPutData (upload : ℕ)
  | updatePhone (phoneNumber : String) (newPhone : Option String)
  | updateEmail (address : String) (text : Option String)

def viewDidLoad (session : AccountSession) : AccountViewController where
  session := session
  texts := session.account.text
  phone := session.account.phone
  email := session.account.email
  image := ⟨"1.png"⟩

def dispatch (s : AccountViewController) (block : AccountBlock) : AccountViewController :=
  { s with blocks := s.blocks ++ [block] }

def reloadTable (s : AccountViewController) : AccountViewController :=
  { s with reuse := fun _ => true }.dispatch .reloadData

/-! ### Edits -/

/-- The common body of `changeName`, `changeSurname` and `changeStatus`. -/
def change (s : AccountViewController) (field : AccountText) (entered : String) :
    AccountViewController :=
  ({ s with texts := Function.update s.texts field entered }.dispatch (.setUser field)).reloadTable

def changeName (s : AccountViewController) : String → AccountViewController := s.change .name

def changeSurname (s : AccountViewController) : String → AccountViewController :=
  s.change .surname

def changeStatus (s : AccountViewController) : String → AccountViewController := s.change .status

/-! ### The delegate of `Account` -/

def setFields (s : AccountViewController) : AccountViewController :=
  { s with
    texts := s.session.account.text
    phone := s.session.account.phone
    email := s.session.account.email }.reloadTable

/-- The closures of the session call the delegate; a photo that is missing calls nobody. -/
def notified (s : AccountViewController) (session : AccountSession) :
    AccountSession.Event → AccountViewController
  | .runPhoto load =>
    let photo := ((s.session.loads[load]?).bind fun load => load.photo.answer?).join
    -- `setImage`
    if photo.isSome then { s with session := session }.reloadTable
    else { s with session := session }
  | .runRecord _ => { s with session := session }.setFields
  | _ => { s with session := session }

def reAuthDelegate (s : AccountViewController) : AccountViewController :=
  { s with phone := s.session.account.phone, email := s.session.account.email }.reloadTable

def updatePhone (s : AccountViewController) (phoneNumber : String) (newPhone : Option String) :
    AccountViewController :=
  let user := s.session.currentUser.map fun user => { user with phoneNumber := some phoneNumber }
  -- `setPhone`, if the screen for the new number is there
  let phone := newPhone.getD s.session.account.phone
  let account := { s.session.account with phone := phone }
  { s with session := { s.session with currentUser := user, account := account } }.reAuthDelegate

def updateEmail (s : AccountViewController) (address : String) (text : Option String) :
    AccountViewController :=
  let user := s.session.currentUser.map fun user => { user with email := some address }
  let email := text.getD s.session.account.email
  let account := { s.session.account with email := email }
  { s with session := { s.session with currentUser := user, account := account } }.reAuthDelegate

/-! ### The photo -/

/-- `Auth.auth().currentUser?.uid ?? ""` -/
def uid (s : AccountViewController) : String := (s.session.currentUser.map AuthUser.uid).getD ""

def uploadPhoto (s : AccountViewController) : AccountViewController :=
  { s with uploads := s.uploads ++ [⟨s.uid, s.image, .asked⟩] }

/-- The server stores the photo, or answers with an error. -/
def putData (s : AccountViewController) (i : ℕ) (error : Option String) (upload : PhotoUpload) :
    Option AccountViewController :=
  match upload.reply with
  | .asked =>
    let profiles := match error with
      | none => Function.update s.session.profiles upload.userID (some upload.image)
      | some _ => s.session.profiles
    some { s with
      session := { s.session with profiles := profiles }
      uploads := s.uploads.modify i ({ · with reply := .waiting error }) }
  | _ => none

/-- The closure of `putData` calls `completed` or `showAlert`. -/
def runPutData (s : AccountViewController) (i : ℕ) (upload : PhotoUpload) :
    Option AccountViewController :=
  match upload.reply with
  | .waiting error =>
    let s := { s with uploads := s.uploads.modify i ({ · with reply := .arrived }) }
    match error with
    | none => some (s.dispatch .loadData)
    | some message => some { s with alerts := s.alerts ++ [("Ошибка", message)] }
  | _ => none

/-! ### The table -/

def content (s : AccountViewController) : AccountCell → Option RowContent :=
  AccountCell.content s.texts s.phone s.email s.session.account.image

/-- What the views of the row show that its cell has been given for it. -/
def shown (s : AccountViewController) (row : AccountCell) : Option RowContent :=
  (s.rows row).views row

/-- A row is set up once after each `reloadTable`; a row that is asked for again is not. -/
def cellForRow (s : AccountViewController) (row : AccountCell) (dequeued : AccountTableViewCell) :
    Option AccountViewController :=
  if s.reuse row then
    (s.content row).map fun content =>
      { s with
        image := content.photo.getD s.image
        reuse := Function.update s.reuse row false
        rows := Function.update s.rows row
          { dequeued with views := Function.update dequeued.views row (some content) }
        redraws := Function.update s.redraws row false }
  else
    -- `reloadRows`
    some { s with
      rows := Function.update s.rows row dequeued
      redraws := Function.update s.redraws row true }

def runBlock (s : AccountViewController) (now : Date) : AccountBlock → AccountViewController
  | .setUser field => { s with session := s.session.setUser (s.texts field) now field }
  -- the rows are drawn when the table is laid out
  | .reloadData => s
  | .uploadPhoto => s.uploadPhoto
  | .loadData => { s with session := s.session.loadData }

def step (s : AccountViewController) : Event → Option AccountViewController
  | .session e =>
    -- only the blocks of the screen edit
    if e.edits then none else (s.session.step e).map fun session => s.notified session e
  | .change field entered => some (s.change field entered)
  | .runBlock now =>
    match s.blocks with
    | [] => none
    | block :: rest => some ({ s with blocks := rest }.runBlock now block)
  | .cellForRow row dequeued => s.cellForRow row dequeued
  | .didFinishPicking image => some ({ s with image := image }.dispatch .uploadPhoto)
  | .putData i error => (s.uploads[i]?).bind (s.putData i error)
  | .runPutData i => (s.uploads[i]?).bind (s.runPutData i)
  | .updatePhone phoneNumber newPhone => some (s.updatePhone phoneNumber newPhone)
  | .updateEmail address text => some (s.updateEmail address text)

/-! ### What the table shows -/

/-- The variables of the screen are those of `Account`, but for an edit that waits. -/
structure Mirrors (s : AccountViewController) : Prop where
  texts (field : AccountText) : .setUser field ∉ s.blocks →
    s.texts field = s.session.account.text field
  phone : s.phone = s.session.account.phone
  email : s.email = s.session.account.email

/-- A row that has been asked for since the last `reloadTable` shows the variables, unless the
table is to draw it again. -/
structure Agrees (s : AccountViewController) : Prop extends s.Mirrors where
  rows (row : AccountCell) : s.reuse row = false → s.redraws row = false →
    s.shown row = s.content row

section Rows

variable {s t : AccountViewController} {e : Event} {block : AccountBlock}

theorem text_setUser (s : AccountSession) (entered : String) (now : Date)
    (field other : AccountText) : (s.setUser entered now field).account.text other =
      if other = field then entered else s.account.text other := by
  cases field <;> cases other <;> rfl

theorem phone_setUser (s : AccountSession) (entered : String) (now : Date) (field : AccountText) :
    (s.setUser entered now field).account.phone = s.account.phone := by
  cases field <;> rfl

theorem email_setUser (s : AccountSession) (entered : String) (now : Date) (field : AccountText) :
    (s.setUser entered now field).account.email = s.account.email := by
  cases field <;> rfl

theorem image_setUser (s : AccountSession) (entered : String) (now : Date) (field : AccountText) :
    (s.setUser entered now field).account.image = s.account.image := by
  cases field <;> rfl

theorem isSome_content (texts : AccountText → String) (phone email : String)
    (image : Option UIImage) (row : AccountCell) :
    (AccountCell.content texts phone email image row).isSome = true := by
  cases row with
  | text field => cases field <;> rfl
  | email => rfl
  | phone =>
    rw [AccountCell.content, Option.isSome_map]
    by_cases empty : characters phone = []
    · rw [empty]
      rfl
    · rw [PhoneNumber.UILabel_workWithPhone empty, PhoneNumber.workWithPhone_of_ne_nil empty]
      rfl

/-- A row shows one of the texts at most. -/
theorem content_congr {texts texts' : AccountText → String} {row : AccountCell}
    (same : ∀ field, row = .text field → texts field = texts' field) (phone email : String)
    (image : Option UIImage) : AccountCell.content texts phone email image row =
      AccountCell.content texts' phone email image row := by
  cases row with
  | text field => cases field <;> simp only [AccountCell.content, same _ rfl]
  | phone | email => rfl

/-- A row without a photo shows none. -/
theorem photo_content {texts : AccountText → String} {phone email : String}
    {image : Option UIImage} {row : AccountCell} {cell : RowContent}
    (bare : row.hasPhoto = false)
    (shown : AccountCell.content texts phone email image row = some cell) : cell.photo = none := by
  cases row with
  | text field =>
    cases field with
    | name | surname => cases bare
    | status => exact (Option.some.inj shown) ▸ rfl
  | phone =>
    obtain ⟨label, -, rfl⟩ := Option.map_eq_some_iff.mp shown
    rfl
  | email => exact (Option.some.inj shown) ▸ rfl

/-! ### One step -/

theorem Mirrors.dispatch (h : Mirrors s) (block : AccountBlock) : Mirrors (s.dispatch block) where
  texts field waits := h.texts field fun mem => waits (List.mem_append_left _ mem)
  phone := h.phone
  email := h.email

theorem Mirrors.reloadTable (h : Mirrors s) : Agrees s.reloadTable where
  toMirrors :=
    Mirrors.dispatch (s := { s with reuse := fun _ => true }) ⟨h.texts, h.phone, h.email⟩ _
  rows _ := nofun

theorem Agrees.dispatch (h : Agrees s) (block : AccountBlock) : Agrees (s.dispatch block) where
  toMirrors := h.toMirrors.dispatch block
  rows := h.rows

/-- The session goes on without touching the data on display. -/
theorem Agrees.congr (h : Agrees s) {session : AccountSession}
    (text : session.account.text = s.session.account.text)
    (phone : session.account.phone = s.session.account.phone)
    (email : session.account.email = s.session.account.email)
    (image : session.account.image = s.session.account.image) :
    Agrees { s with session := session } where
  texts field waits := text ▸ h.texts field waits
  phone := h.phone.trans phone.symm
  email := h.email.trans email.symm
  rows row drawn done := by
    rw [content, image]
    exact h.rows row drawn done

theorem Agrees.change (h : Agrees s) (field : AccountText) (entered : String) :
    Agrees (s.change field entered) := by
  refine Mirrors.reloadTable ⟨fun other waits => ?_, h.phone, h.email⟩
  have apart : other ≠ field := by
    rintro rfl
    exact waits (List.mem_append_right _ (List.mem_singleton_self _))
  have same := h.texts other fun mem => waits (List.mem_append_left _ mem)
  exact (Function.update_of_ne apart _ _).trans same

theorem agrees_setFields (s : AccountViewController) : Agrees s.setFields :=
  Mirrors.reloadTable ⟨fun _ _ => rfl, rfl, rfl⟩

theorem Agrees.reAuthDelegate {session : AccountSession} (h : Agrees s)
    (text : session.account.text = s.session.account.text) :
    Agrees { s with session := session }.reAuthDelegate :=
  Mirrors.reloadTable ⟨fun field waits => text ▸ h.texts field waits, rfl, rfl⟩

theorem Agrees.runBlock (h : Agrees s) {rest : List AccountBlock} (queue : s.blocks = block :: rest)
    (now : Date) : Agrees ({ s with blocks := rest }.runBlock now block) := by
  have waited (other : AccountText) (apart : block ≠ .setUser other)
      (waits : .setUser other ∉ rest) : s.texts other = s.session.account.text other := by
    refine h.texts other fun mem => ?_
    rw [queue] at mem
    exact (List.mem_cons.mp mem).elim (fun same => apart same.symm) waits
  cases block with
  | setUser field =>
    refine ⟨⟨fun other waits => ?_, ?_, ?_⟩, fun row drawn done => ?_⟩
    · -- the text of the block is passed on, the others stay
      refine Eq.trans ?_ (text_setUser s.session (s.texts field) now field other).symm
      split
      case isTrue same => rw [same]; rfl
      case isFalse apart =>
        exact waited other (fun same => apart (AccountBlock.setUser.inj same).symm) waits
    · exact h.phone.trans (phone_setUser ..).symm
    · exact h.email.trans (email_setUser ..).symm
    · refine (h.rows row drawn done).trans ?_
      simp only [content, AccountViewController.runBlock, image_setUser]
  | reloadData | uploadPhoto | loadData =>
    exact ⟨⟨fun other waits => waited other (by simp) waits, h.phone, h.email⟩, h.rows⟩

/-- What the table gets when it asks for a row. -/
theorem cellForRow_cases {row : AccountCell} {dequeued : AccountTableViewCell}
    (taken : s.cellForRow row dequeued = some t) :
    (s.reuse row = true ∧ ∃ content, s.content row = some content ∧
      t = { s with
        image := content.photo.getD s.image
        reuse := Function.update s.reuse row false
        rows := Function.update s.rows row
          { dequeued with views := Function.update dequeued.views row (some content) }
        redraws := Function.update s.redraws row false }) ∨
    (s.reuse row = false ∧
      t = { s with
        rows := Function.update s.rows row dequeued
        redraws := Function.update s.redraws row true }) := by
  rw [AccountViewController.cellForRow] at taken
  split at taken
  case isTrue marked =>
    obtain ⟨content, drawn, rfl⟩ := Option.map_eq_some_iff.mp taken
    exact Or.inl ⟨marked, content, drawn, rfl⟩
  case isFalse before => exact Or.inr ⟨Bool.not_eq_true _ ▸ before, (Option.some.inj taken).symm⟩

theorem Agrees.cellForRow (h : Agrees s) {row : AccountCell} {dequeued : AccountTableViewCell}
    (taken : s.cellForRow row dequeued = some t) : Agrees t := by
  rcases cellForRow_cases taken with ⟨-, content, drawn, rfl⟩ | ⟨-, rfl⟩
  · refine ⟨⟨h.texts, h.phone, h.email⟩, fun other before done => ?_⟩
    by_cases same : other = row
    · subst same
      refine Eq.trans ?_ drawn.symm
      simp [shown]
    · simp only [Function.update_of_ne same] at before done
      refine Eq.trans ?_ (h.rows other before done)
      simp [shown, same]
  · -- the row is to be drawn again
    refine ⟨⟨h.texts, h.phone, h.email⟩, fun other before done => ?_⟩
    have apart : other ≠ row := by
      rintro rfl
      simp at done
    simp only [Function.update_of_ne apart] at done
    refine Eq.trans ?_ (h.rows other before done)
    simp [shown, apart]

/-- What a step of the session that edits nothing does to the data on display. -/
theorem Agrees.notified (h : Agrees s) {e : AccountSession.Event} {session : AccountSession}
    (reads : e.edits = false) (taken : s.session.step e = some session) :
    Agrees (s.notified session e) := by
  cases e with
  | signIn | exit | loadData =>
    obtain rfl := Option.some.inj taken
    exact h.congr rfl rfl rfl rfl
  | readPhoto i failed =>
    obtain ⟨load, -, taken⟩ := Option.bind_eq_some_iff.mp taken
    rw [AccountSession.readPhoto] at taken
    split at taken
    · obtain rfl := Option.some.inj taken
      exact h.congr rfl rfl rfl rfl
    · cases taken
  | readRecord i cancelled =>
    obtain ⟨load, -, taken⟩ := Option.bind_eq_some_iff.mp taken
    rw [AccountSession.readRecord] at taken
    split at taken
    · obtain rfl := Option.some.inj taken
      exact h.congr rfl rfl rfl rfl
    · cases taken
  | runPhoto i =>
    obtain ⟨load, here, taken⟩ := Option.bind_eq_some_iff.mp taken
    rw [AccountSession.runPhoto] at taken
    split at taken
    case h_2 => cases taken
    case h_1 photo waiting =>
      obtain rfl := Option.some.inj taken
      simp only [AccountViewController.notified, here, Option.bind_some, waiting,
        ServerReply.answer?, Option.join_some]
      cases photo with
      | none => exact h.congr rfl rfl rfl rfl
      | some image => exact Mirrors.reloadTable ⟨h.texts, h.phone, h.email⟩
  | runRecord => exact agrees_setFields _
  | setUserName | setUserSurname | setUserStatus => cases reads

theorem Agrees.step (h : Agrees s) (taken : s.step e = some t) : Agrees t := by
  cases e with
  | session e =>
    simp only [AccountViewController.step] at taken
    split at taken
    case isTrue => cases taken
    case isFalse reads =>
      obtain ⟨session, read, rfl⟩ := Option.map_eq_some_iff.mp taken
      exact h.notified (Bool.not_eq_true _ ▸ reads) read
  | change field entered =>
    obtain rfl := Option.some.inj taken
    exact h.change field entered
  | runBlock now =>
    cases queue : s.blocks with
    | nil => simp [AccountViewController.step, queue] at taken
    | cons block rest =>
      simp only [AccountViewController.step, queue, Option.some.injEq] at taken
      exact taken ▸ h.runBlock queue now
  | cellForRow row dequeued => exact h.cellForRow taken
  | didFinishPicking image =>
    obtain rfl := Option.some.inj taken
    exact Agrees.dispatch (s := { s with image := image }) ⟨⟨h.texts, h.phone, h.email⟩, h.rows⟩ _
  | putData i error =>
    obtain ⟨upload, -, taken⟩ := Option.bind_eq_some_iff.mp taken
    simp only [AccountViewController.putData] at taken
    split at taken
    · obtain rfl := Option.some.inj taken
      exact ⟨⟨h.texts, h.phone, h.email⟩, h.rows⟩
    · cases taken
  | runPutData i =>
    obtain ⟨upload, -, taken⟩ := Option.bind_eq_some_iff.mp taken
    simp only [AccountViewController.runPutData] at taken
    split at taken
    case h_2 => cases taken
    case h_1 =>
      have answered : Agrees { s with
          uploads := s.uploads.modify i ({ · with reply := .arrived }) } :=
        ⟨⟨h.texts, h.phone, h.email⟩, h.rows⟩
      split at taken
      · obtain rfl := Option.some.inj taken
        exact answered.dispatch _
      · obtain rfl := Option.some.inj taken
        exact ⟨⟨h.texts, h.phone, h.email⟩, h.rows⟩
  | updatePhone | updateEmail =>
    obtain rfl := Option.some.inj taken
    refine h.reAuthDelegate (funext fun field => ?_)
    cases field <;> rfl

theorem agrees_viewDidLoad (session : AccountSession) : Agrees (viewDidLoad session) :=
  ⟨⟨fun _ _ => rfl, rfl, rfl⟩, fun _ => nofun⟩

/-- The row is not to be drawn again, and once asked for it shows the variables, which are what
`Account` holds unless an edit of its text waits. The table can draw it after each
`reloadTable`. -/
structure ShowsAccount (row : AccountCell) (s : AccountViewController) : Prop where
  draws : s.reuse row = true → ∀ dequeued, ∃ t, s.step (.cellForRow row dequeued) = some t ∧
    t.reuse row = false ∧ t.shown row = t.content row
  drawn : s.reuse row = false → s.redraws row = false ∧ s.shown row = s.content row ∧
    ((∀ field, row = .text field → .setUser field ∉ s.blocks) →
      s.shown row = s.session.account.content row)

/-- The row is asked for only after a `reloadTable`. -/
def AsksOnce (row : AccountCell) (s : AccountViewController) : Event → Prop
  | .cellForRow other _ => other = row → s.reuse row = true
  | _ => True

theorem Agrees.showsAccount (h : Agrees s) {row : AccountCell}
    (done : s.reuse row = false → s.redraws row = false) : ShowsAccount row s where
  draws marked dequeued := by
    obtain ⟨content, drawn⟩ := Option.isSome_iff_exists.mp
      (isSome_content s.texts s.phone s.email s.session.account.image row)
    refine ⟨_, (if_pos marked).trans (congrArg _ drawn), Function.update_self .., ?_⟩
    refine Eq.trans ?_ drawn.symm
    simp [shown]
  drawn before := by
    have shows := h.rows row before (done before)
    refine ⟨done before, shows, fun passed => ?_⟩
    rw [shows, content, Account.content, h.phone, h.email]
    exact content_congr (fun field same => h.texts field (passed field same)) ..

/-- Steps other than a request for the row leave its mark and its due, or set the mark. -/
theorem redraws_step {row : AccountCell} (taken : s.step e = some t)
    (away : ∀ dequeued, e ≠ .cellForRow row dequeued) (drawn : t.reuse row = false) :
    s.reuse row = false ∧ t.redraws row = s.redraws row := by
  cases e with
  | session e =>
    simp only [AccountViewController.step] at taken
    split at taken
    case isTrue => cases taken
    case isFalse =>
      obtain ⟨session, -, rfl⟩ := Option.map_eq_some_iff.mp taken
      cases e with
      | runRecord => cases drawn
      | runPhoto =>
        simp only [AccountViewController.notified] at drawn ⊢
        split at drawn
        · cases drawn
        · exact ⟨drawn, by split <;> rfl⟩
      | signIn | exit | loadData | readPhoto | readRecord | setUserName | setUserSurname
      | setUserStatus => exact ⟨drawn, rfl⟩
  | change | updatePhone | updateEmail =>
    obtain rfl := Option.some.inj taken
    cases drawn
  | runBlock now =>
    cases queue : s.blocks with
    | nil => simp [AccountViewController.step, queue] at taken
    | cons block rest =>
      simp only [AccountViewController.step, queue, Option.some.injEq] at taken
      subst taken
      cases block <;> exact ⟨drawn, rfl⟩
  | cellForRow other dequeued =>
    have apart : row ≠ other := fun same => away dequeued (same ▸ rfl)
    rcases cellForRow_cases taken with ⟨-, content, -, rfl⟩ | ⟨-, rfl⟩
    · exact ⟨(Function.update_of_ne apart ..).symm.trans drawn, Function.update_of_ne apart ..⟩
    · exact ⟨drawn, Function.update_of_ne apart ..⟩
  | didFinishPicking image =>
    obtain rfl := Option.some.inj taken
    exact ⟨drawn, rfl⟩
  | putData i error =>
    obtain ⟨upload, -, taken⟩ := Option.bind_eq_some_iff.mp taken
    simp only [AccountViewController.putData] at taken
    split at taken
    · obtain rfl := Option.some.inj taken
      exact ⟨drawn, rfl⟩
    · cases taken
  | runPutData i =>
    obtain ⟨upload, -, taken⟩ := Option.bind_eq_some_iff.mp taken
    simp only [AccountViewController.runPutData] at taken
    split at taken
    case h_2 => cases taken
    case h_1 =>
      split at taken
      all_goals
        obtain rfl := Option.some.inj taken
        exact ⟨drawn, rfl⟩

/-- A request for the row in its turn leaves nothing to draw again, one out of turn does. -/
theorem Agrees.showsAccount_iff (h : Agrees s) {row : AccountCell} (shows : ShowsAccount row s) :
    AsksOnce row s e ↔ ∀ t, s.step e = some t → ShowsAccount row t := by
  constructor
  · intro once t taken
    refine (h.step taken).showsAccount fun drawn => ?_
    by_cases asking : ∃ dequeued, e = .cellForRow row dequeued
    · obtain ⟨dequeued, rfl⟩ := asking
      rcases cellForRow_cases taken with ⟨-, content, -, rfl⟩ | ⟨before, -⟩
      · exact Function.update_self ..
      · exact absurd (before.symm.trans (once rfl)) Bool.false_ne_true
    · obtain ⟨before, same⟩ := redraws_step taken (fun dequeued is => asking ⟨dequeued, is⟩) drawn
      exact same.trans (shows.drawn before).1
  · intro after
    cases e with
    | cellForRow other dequeued =>
      rintro rfl
      by_contra before
      have taken : s.step (.cellForRow other dequeued) = _ := if_neg before
      have due := (after _ taken).drawn (Bool.not_eq_true _ ▸ before)
      exact absurd ((Function.update_self ..).symm.trans due.1) Bool.false_ne_true.symm
    | session | change | runBlock | didFinishPicking | putData | runPutData | updatePhone
    | updateEmail => trivial

end Rows

/-- Both replies of a load put `reloadData` on the queue, and the table asks for the row after
each. -/
def askedTwice : List Event :=
  (AccountSession.signsIn "Аня" 0).map .session ++
    [.runBlock 0, .cellForRow .email {}, .runBlock 0, .cellForRow .email {}]

theorem not_always_shows_account : ¬ ∀ events, EveryState step (ShowsAccount .email)
    (viewDidLoad { users := fun _ => none, profiles := fun _ => some ⟨"Аня"⟩ }) events := by
  intro always
  have reached : (exec step (viewDidLoad
      { users := fun _ => none, profiles := fun _ => some ⟨"Аня"⟩ }) askedTwice).map
      (fun s => (s.reuse .email, s.shown .email, s.content .email)) =
      some (false, none, some {}) := by decide +kernel
  obtain ⟨s, run, values⟩ := Option.map_eq_some_iff.mp reached
  simp only [Prod.mk.injEq] at values
  obtain ⟨drawn, blank, content⟩ := values
  have shows := ((always (askedTwice ++ [])).of_append run).drawn drawn
  exact Option.some_ne_none _ (content.symm.trans (shows.2.1.symm.trans blank))

end AccountViewController

end OnMap
