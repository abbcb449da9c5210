/-
# One person's data

`Account` keeps the data of the user who is signed in. `loadData` notes the user's
identifier at once and asks the server for the photo and for the record; the two
closures fill the other fields when they run, whoever the identifier names by then.
An error fills nothing, so the image of the user before stays.

Every read is answered. For `getData` a photo that the server does not have is an error,
and so is one that is too large or that does not come through. The database may cancel
a read; the block for this is empty.
-/

import OnMap.Account.LocalStorage
import OnMap.Library.Transition

namespace OnMap

open Transition

/-- The user of `Auth.auth().currentUser`. -/
structure AuthUser where
  uid : String
  phoneNumber : Option String := none
  email : Option String := none

/-- Where a read stands: the server has not answered, the answer waits for the main
queue, or the closure has run. -/
inductive ServerReply (α : Type)
  | asked
  | waiting (value : α)
  | arrived

namespace ServerReply

variable {α : Type}

def hasArrived : ServerReply α → Bool
  | arrived => true
  | _ => false

theorem hasArrived_iff {reply : ServerReply α} : reply.hasArrived = true ↔ reply = arrived := by
  cases reply <;> simp [hasArrived]

/-- The answer that waits. -/
def answer? : ServerReply α → Option α
  | waiting value => some value
  | _ => none

end ServerReply

/-- A call of `loadData`, for the user who was signed in then. -/
structure DataLoad where
  userID : String
  photo : ServerReply (Option UIImage) := .asked
  record : ServerReply (Option Dictionary) := .asked

/-- The fields of `Account`. -/
structure Account where
  name : String := ""
  surname : String := ""
  phone : String := ""
  email : String := ""
  id : String := ""
  image : Option UIImage := none
  status : String := ""

namespace Account

/-- The closure of `getData`. -/
def handlePhoto (a : Account) : Option UIImage → Account
  | none => a
  | some image => { a with image := some image }

/-- The closure of `observeSingleEvent`. Phone and e-mail are those of the user who is
signed in when it runs. -/
def handleRecord (a : Account) (currentUser : Option AuthUser) (value : Option Dictionary) :
    Account :=
  { a with
    name := textAt value "name"
    surname := textAt value "surname"
    status := textAt value "status"
    phone := (currentUser.bind AuthUser.phoneNumber).getD ""
    email := (currentUser.bind AuthUser.email).getD "" }

end Account

/-- The account of one device, its calls of `loadData` in their order, and the server. -/
structure AccountSession where
  users : String → Option Dictionary
  profiles : String → Option UIImage
  currentUser : Option AuthUser := none
  currentuserID : String := ""
  account : Account := {}
  loads : List DataLoad := []

namespace AccountSession

/-- What can happen: users sign in and exit, `loadData` is called, the server answers
its reads, their closures run, and the user edits the data on display. -/
inductive Event
  | signIn (user : AuthUser)
  | exit
  | loadData
  | readPhoto (load : ℕ) (failed : Bool)
  | readRecord (load : ℕ) (cancelled : Bool)
  | runPhoto (load : ℕ)
  | runRecord (load : ℕ)
  | setUserName (name : String) (now : Date)
  | setUserSurname (surname : String) (now : Date)
  | setUserStatus (status : String)

def loadData (s : AccountSession) : AccountSession :=
  { s with
    account := { s.account with id := s.currentuserID }
    loads := s.loads ++ [⟨s.currentuserID, .asked, .asked⟩] }

/-- The server answers with the photo, or `getData` fails. -/
def readPhoto (s : AccountSession) (failed : Bool) (i : ℕ) (load : DataLoad) :
    Option AccountSession :=
  match load.photo with
  | .asked =>
    let photo := .waiting (if failed then none else s.profiles load.userID)
    some { s with loads := s.loads.modify i fun load => { load with photo := photo } }
  | _ => none

/-- The server answers with the record, or cancels; the cancel block does nothing. -/
def readRecord (s : AccountSession) (cancelled : Bool) (i : ℕ) (load : DataLoad) :
    Option AccountSession :=
  match load.record with
  | .asked =>
    let record := if cancelled then .arrived else .waiting (s.users load.userID)
    some { s with loads := s.loads.modify i fun load => { load with record := record } }
  | _ => none

def runPhoto (s : AccountSession) (i : ℕ) (load : DataLoad) : Option AccountSession :=
  match load.photo with
  | .waiting photo =>
    some { s with
      account := s.account.handlePhoto photo
      loads := s.loads.modify i fun load => { load with photo := .arrived } }
  | _ => none

def runRecord (s : AccountSession) (i : ℕ) (load : DataLoad) : Option AccountSession :=
  match load.record with
  | .waiting value =>
    some { s with
      account := s.account.handleRecord s.currentUser value
      loads := s.loads.modify i fun load => { load with record := .arrived } }
  | _ => none

/-- `updateChildValues` on the record that `id` names. -/
def updateUser (s : AccountSession) (values : List (String × Value)) : AccountSession :=
  { s with
    users := Function.update s.users s.account.id
      (updateChildValues values (s.users s.account.id)) }

def setUserName (s : AccountSession) (name : String) (now : Date) : AccountSession :=
  { s.updateUser [("name", .string name), ("date", .string (Date.description now))] with
    account := { s.account with name := name } }

def setUserSurname (s : AccountSession) (surname : String) (now : Date) : AccountSession :=
  { s.updateUser [("surname", .string surname), ("date", .string (Date.description now))] with
    account := { s.account with surname := surname } }

def setUserStatus (s : AccountSession) (status : String) : AccountSession :=
  { s.updateUser [("status", .string status)] with
    account := { s.account with status := status } }

def step (s : AccountSession) : Event → Option AccountSession
  | .signIn user => some { s with currentUser := some user, currentuserID := user.uid }
  | .exit => some { s with currentuserID := "" }
  | .loadData => some s.loadData
  | .readPhoto i failed => (s.loads[i]?).bind (s.readPhoto failed i)
  | .readRecord i cancelled => (s.loads[i]?).bind (s.readRecord cancelled i)
  | .runPhoto i => (s.loads[i]?).bind (s.runPhoto i)
  | .runRecord i => (s.loads[i]?).bind (s.runRecord i)
  | .setUserName name now => some (s.setUserName name now)
  | .setUserSurname surname now => some (s.setUserSurname surname now)
  | .setUserStatus status => some (s.setUserStatus status)

/-! ### Whose data it is -/

/-- The texts are those of the user of the identifier. -/
structure OwnTexts (s : AccountSession) : Prop where
  name : s.account.name = textAt (s.users s.account.id) "name"
  surname : s.account.surname = textAt (s.users s.account.id) "surname"
  status : s.account.status = textAt (s.users s.account.id) "status"

instance (s : AccountSession) : Decidable s.OwnTexts :=
  decidable_of_iff (s.account.name = textAt (s.users s.account.id) "name" ∧
      s.account.surname = textAt (s.users s.account.id) "surname" ∧
        s.account.status = textAt (s.users s.account.id) "status")
    ⟨fun h => ⟨h.1, h.2.1, h.2.2⟩, fun h => ⟨h.name, h.surname, h.status⟩⟩

/-- And so is the image, if there is one. -/
structure OwnData (s : AccountSession) : Prop extends s.OwnTexts where
  image : s.account.image = s.profiles s.account.id

/-- Both replies of the latest `loadData` have arrived. -/
def Loaded (s : AccountSession) : Prop :=
  ∃ load ∈ s.loads.getLast?, load.photo.hasArrived = true ∧ load.record.hasArrived = true

instance (s : AccountSession) : Decidable s.Loaded :=
  inferInstanceAs (Decidable (∃ load ∈ s.loads.getLast?, _))

/-- The calls that edit the data on display. -/
def Event.edits : Event → Bool
  | .setUserName .. | .setUserSurname .. | .setUserStatus _ => true
  | _ => false

/-- What is on display after the step, once loaded, is the user's own data, and only the
user's own data is edited. -/
def ShowsOwn (s : AccountSession) (e : Event) : Prop :=
  (e.edits = true → s.OwnData) ∧ ∀ t, s.step e = some t → t.Loaded → t.OwnData

/-- A reply for another user than the one of the identifier comes before the latest
call's own, the latest call's reads fail only when what they were to bring is on display,
and edits follow the replies. -/
def RepliesInTime (s : AccountSession) : Event → Prop
  | .runPhoto i => ∀ load ∈ s.loads[i]?, ∀ photo ∈ load.photo.answer?,
    if photo.isSome then
      load.userID = s.account.id ∨ ∃ latest ∈ s.loads.getLast?, latest.photo.hasArrived = false
    else i + 1 = s.loads.length → s.account.image = s.profiles s.account.id
  | .readRecord i cancelled => cancelled = true → i + 1 = s.loads.length → s.OwnTexts
  | .runRecord i => ∀ load ∈ s.loads[i]?, ∀ _ ∈ load.record.answer?,
    load.userID = s.account.id ∨ ∃ latest ∈ s.loads.getLast?, latest.record.hasArrived = false
  | .setUserName .. | .setUserSurname .. | .setUserStatus _ => s.Loaded ∧
    ∀ load ∈ s.loads, load.userID = s.account.id → load.record.answer?.isNone = true
  | _ => True

instance (s : AccountSession) : DecidablePred s.RepliesInTime
  | .runPhoto i => inferInstanceAs (Decidable (∀ load ∈ s.loads[i]?, ∀ _ ∈ load.photo.answer?, _))
  | .runRecord i => inferInstanceAs (Decidable (∀ load ∈ s.loads[i]?, ∀ _ ∈ load.record.answer?, _))
  | .readRecord i cancelled =>
    inferInstanceAs (Decidable (cancelled = true → i + 1 = s.loads.length → s.OwnTexts))
  | .setUserName .. | .setUserSurname .. | .setUserStatus _ =>
    inferInstanceAs (Decidable (s.Loaded ∧ _))
  | .signIn _ | .exit | .loadData | .readPhoto .. => isTrue trivial

variable {s t : AccountSession} {i : ℕ} {load : DataLoad}

/-- What waits is what the server holds or an error, and what the latest call has brought is
shown. -/
structure Brings (s : AccountSession) (i : ℕ) (load : DataLoad) : Prop where
  photo : ∀ photo, load.photo = .waiting photo → photo = none ∨ photo = s.profiles load.userID
  record : ∀ value, load.record = .waiting value → value = s.users load.userID
  latest : i + 1 = s.loads.length → load.userID = s.account.id
  image : i + 1 = s.loads.length → load.photo = .arrived →
    s.account.image = s.profiles s.account.id
  texts : i + 1 = s.loads.length → load.record = .arrived → s.OwnTexts

/-- The invariant of the runs. -/
def Faithful (s : AccountSession) : Prop := ∀ i load, s.loads[i]? = some load → s.Brings i load

theorem getLast?_loads (here : s.loads[i]? = some load) (last : i + 1 = s.loads.length) :
    s.loads.getLast? = some load := by
  rw [List.getLast?_eq_getElem?, ← last, Nat.add_sub_cancel]
  exact here

/-- Once loaded, the data of the latest call is on display. -/
theorem Faithful.ownData (h : s.Faithful) (loaded : s.Loaded) : s.OwnData := by
  obtain ⟨load, last, photo, record⟩ := loaded
  have here : s.loads[s.loads.length - 1]? = some load := List.getLast?_eq_getElem? ▸ last
  have bound : s.loads.length - 1 + 1 = s.loads.length := by
    have := (List.getElem?_eq_some_iff.mp here).1
    omega
  have brings := h _ load here
  exact ⟨brings.texts bound (ServerReply.hasArrived_iff.mp record),
    brings.image bound (ServerReply.hasArrived_iff.mp photo)⟩

theorem OwnTexts.congr (h : s.OwnTexts) (users : t.users = s.users)
    (account : t.account = s.account) : t.OwnTexts := by
  constructor <;> rw [account, users]
  · exact h.name
  · exact h.surname
  · exact h.status

/-- The state of a load is a matter of the load while the account stays. -/
theorem Brings.congr (h : s.Brings i load) (users : t.users = s.users)
    (profiles : t.profiles = s.profiles) (account : t.account = s.account)
    (length : t.loads.length = s.loads.length) : t.Brings i load where
  photo := profiles ▸ h.photo
  record := users ▸ h.record
  latest last := account ▸ h.latest (last.trans length)
  image last := by
    rw [account, profiles]
    exact h.image (last.trans length)
  texts last arrived := (h.texts (last.trans length) arrived).congr users account

/-- A new call makes the earlier ones late. -/
theorem Faithful.loadData (h : s.Faithful) : s.loadData.Faithful := by
  refine Table.forall_concat (fun j other there => ?_) ?_
  · have brings := h j other there
    have earlier : j + 1 ≠ s.loadData.loads.length := by
      have := (List.getElem?_eq_some_iff.mp there).1
      rw [AccountSession.loadData, List.length_append, List.length_singleton]
      omega
    exact ⟨brings.photo, brings.record, (absurd · earlier), (absurd · earlier), (absurd · earlier)⟩
  · exact ⟨nofun, nofun, fun _ => rfl, nofun, nofun⟩

/-- A load moves on. -/
theorem Faithful.modify (h : s.Faithful) (here : s.loads[i]? = some load)
    {f : DataLoad → DataLoad} (new : s.Brings i load → s.Brings i (f load)) :
    Faithful { s with loads := s.loads.modify i f } := by
  have same (j : ℕ) (other : DataLoad) (brings : s.Brings j other) :
      Brings { s with loads := s.loads.modify i f } j other :=
    brings.congr rfl rfl rfl (List.length_modify ..)
  exact Table.forall_modify here (fun j other _ there => same j other (h j other there))
    (same i _ (new (h i load here)))

/-- The server answers with what it holds, or with an error. -/
theorem Faithful.readPhoto (h : s.Faithful) {failed : Bool} (here : s.loads[i]? = some load)
    (taken : s.readPhoto failed i load = some t) : t.Faithful := by
  rw [AccountSession.readPhoto] at taken
  split at taken
  case h_2 => cases taken
  case h_1 =>
    obtain rfl := Option.some.inj taken
    refine h.modify here fun brings => { brings with photo := ?_, image := fun _ => nofun }
    intro photo waiting
    have brought := (ServerReply.waiting.inj waiting).symm
    cases failed with
    | true => exact Or.inl brought
    | false => exact Or.inr brought

theorem Faithful.readRecord (h : s.Faithful) {cancelled : Bool} (here : s.loads[i]? = some load)
    (inTime : s.RepliesInTime (.readRecord i cancelled))
    (taken : s.readRecord cancelled i load = some t) : t.Faithful := by
  rw [AccountSession.readRecord] at taken
  split at taken
  case h_2 => cases taken
  case h_1 =>
    obtain rfl := Option.some.inj taken
    refine h.modify here fun brings => ?_
    cases cancelled with
    | true => exact { brings with record := fun _ => nofun, texts := fun last _ => inTime rfl last }
    | false =>
      refine { brings with record := ?_, texts := fun _ => nofun }
      exact fun value waiting => (ServerReply.waiting.inj waiting).symm

/-- The closure of a photo that comes in time. -/
theorem Faithful.handlePhoto (h : s.Faithful) (here : s.loads[i]? = some load)
    {photo : Option UIImage} (waiting : load.photo = .waiting photo)
    (inTime : s.RepliesInTime (.runPhoto i)) :
    Faithful { s with account := s.account.handlePhoto photo } := by
  cases photo with
  | none => exact h
  | some image =>
    intro j other there
    have brings := h j other there
    refine ⟨brings.photo, brings.record, brings.latest, fun last arrived => ?_, fun last arrived =>
      let texts := brings.texts last arrived
      ⟨texts.name, texts.surname, texts.status⟩⟩
    rcases inTime load here (some image) (by rw [waiting]; rfl) with own | ⟨latest, final, pending⟩
    · exact (((h i load here).photo _ waiting).resolve_left nofun).trans (congrArg _ own)
    · -- the latest photo is still to come
      obtain rfl := Option.some.inj (final.symm.trans (getLast?_loads there last))
      rw [arrived] at pending
      cases pending

theorem Faithful.runPhoto (h : s.Faithful) (here : s.loads[i]? = some load)
    (inTime : s.RepliesInTime (.runPhoto i)) (taken : s.runPhoto i load = some t) :
    t.Faithful := by
  rw [AccountSession.runPhoto] at taken
  split at taken
  case h_2 => cases taken
  case h_1 photo waiting =>
    obtain rfl := Option.some.inj taken
    refine (h.handlePhoto here waiting inTime).modify here fun brings =>
      { brings with photo := fun _ => nofun, image := fun last _ => ?_ }
    cases photo with
    | some image =>
      have stored := ((h i load here).photo _ waiting).resolve_left nofun
      rwa [(h i load here).latest last] at stored
    | none =>
      -- an error leaves the image, which must be that of the server
      exact inTime load here none (by rw [waiting]; rfl) last

/-- The closure of a record that comes in time. -/
theorem Faithful.handleRecord (h : s.Faithful) (here : s.loads[i]? = some load)
    {value : Option Dictionary} (waiting : load.record = .waiting value)
    (inTime : s.RepliesInTime (.runRecord i)) :
    Faithful { s with account := s.account.handleRecord s.currentUser value } := by
  intro j other there
  have brings := h j other there
  refine ⟨brings.photo, brings.record, brings.latest, brings.image, fun last arrived => ?_⟩
  rcases inTime load here value (by rw [waiting]; rfl) with own | ⟨latest, final, pending⟩
  · obtain rfl : value = s.users s.account.id := own ▸ (h i load here).record _ waiting
    exact ⟨rfl, rfl, rfl⟩
  · obtain rfl := Option.some.inj (final.symm.trans (getLast?_loads there last))
    rw [arrived] at pending
    cases pending

theorem Faithful.runRecord (h : s.Faithful) (here : s.loads[i]? = some load)
    (inTime : s.RepliesInTime (.runRecord i)) (taken : s.runRecord i load = some t) :
    t.Faithful := by
  rw [AccountSession.runRecord] at taken
  split at taken
  case h_2 => cases taken
  case h_1 value waiting =>
    obtain rfl := Option.some.inj taken
    refine (h.handleRecord here waiting inTime).modify here fun brings =>
      { brings with record := fun _ => nofun, texts := fun last _ => ?_ }
    have stored := (h i load here).record _ waiting
    rw [(h i load here).latest last] at stored
    rw [stored]
    exact ⟨rfl, rfl, rfl⟩

/-- An edit of the texts on display keeps them those of the record. -/
theorem Faithful.edit (h : s.Faithful) {values : List (String × Value)} {a : Account}
    (id : a.id = s.account.id) (image : a.image = s.account.image)
    (texts : s.OwnTexts → OwnTexts { s.updateUser values with account := a })
    (loaded : s.Loaded)
    (read : ∀ load ∈ s.loads, load.userID = s.account.id → load.record.answer?.isNone = true) :
    Faithful { s.updateUser values with account := a } := by
  intro j other there
  have brings := h j other there
  refine ⟨brings.photo, fun value waiting => ?_, fun last => (brings.latest last).trans id.symm,
    fun last arrived => ?_, fun _ _ => texts (h.ownData loaded).toOwnTexts⟩
  · have stays : other.userID ≠ s.account.id := by
      intro own
      have none := read other (List.mem_of_getElem? there) own
      rw [waiting] at none
      cases none
    exact (brings.record value waiting).trans (Function.update_of_ne stays _ _).symm
  · have own := (image.trans (brings.image last arrived))
    rw [← id] at own
    exact own

theorem Faithful.step (h : s.Faithful) {e : Event} (inTime : s.RepliesInTime e)
    (taken : s.step e = some t) : t.Faithful := by
  cases e with
  | signIn user =>
    obtain rfl := Option.some.inj taken
    exact fun j other there => (h j other there).congr rfl rfl rfl rfl
  | exit =>
    obtain rfl := Option.some.inj taken
    exact fun j other there => (h j other there).congr rfl rfl rfl rfl
  | loadData =>
    obtain rfl := Option.some.inj taken
    exact h.loadData
  | readPhoto i failed =>
    obtain ⟨load, here, taken⟩ := Option.bind_eq_some_iff.mp taken
    exact h.readPhoto here taken
  | readRecord i cancelled =>
    obtain ⟨load, here, taken⟩ := Option.bind_eq_some_iff.mp taken
    exact h.readRecord here inTime taken
  | runPhoto i =>
    obtain ⟨load, here, taken⟩ := Option.bind_eq_some_iff.mp taken
    exact h.runPhoto here inTime taken
  | runRecord i =>
    obtain ⟨load, here, taken⟩ := Option.bind_eq_some_iff.mp taken
    exact h.runRecord here inTime taken
  | setUserName name now =>
    obtain rfl := Option.some.inj taken
    refine h.edit rfl rfl (fun own => ?_) inTime.1 inTime.2
    constructor <;> simp [updateUser, textAt_updateChildValues_of_lookup,
      textAt_updateChildValues_of_ne, own.surname, own.status]
  | setUserSurname surname now =>
    obtain rfl := Option.some.inj taken
    refine h.edit rfl rfl (fun own => ?_) inTime.1 inTime.2
    constructor <;> simp [updateUser, textAt_updateChildValues_of_lookup,
      textAt_updateChildValues_of_ne, own.name, own.status]
  | setUserStatus status =>
    obtain rfl := Option.some.inj taken
    refine h.edit rfl rfl (fun own => ?_) inTime.1 inTime.2
    constructor <;> simp [updateUser, textAt_updateChildValues_of_lookup,
      textAt_updateChildValues_of_ne, own.name, own.surname]

/-- In every run of sign-ins, exits, loads, replies in any order and edits: if at every
step a reply for another user comes before the latest call's own, a read of the latest
call fails only when what it was to bring is on display, and an edit waits for the
replies, then what is on display once loaded is the user's own data, and only the user's
own data is edited. -/
theorem shows_own (users : String → Option Dictionary) (profiles : String → Option UIImage)
    (events : List Event)
    (inTime : EveryStep step RepliesInTime { users := users, profiles := profiles } events) :
    EveryStep step ShowsOwn { users := users, profiles := profiles } events := by
  have start : Faithful { users := users, profiles := profiles } := nofun
  refine EveryStep.of_invariant (I := Faithful) (fun _ _ _ h inTime => h.step inTime) ?_ start
    inTime
  intro s e h inTime
  refine ⟨fun edits => ?_, fun t taken loaded => (h.step inTime taken).ownData loaded⟩
  cases e with
  | setUserName | setUserSurname | setUserStatus => exact h.ownData inTime.1
  | _ => cases edits

section Runs

/-- Аня has a photo, Боря has none. -/
def profilesOfTwo : String → Option UIImage := fun userID =>
  if userID = "Аня" then some ⟨"Аня"⟩ else none

/-- A user signs in, and both replies of the load arrive. -/
def signsIn (uid : String) (load : ℕ) : List Event :=
  [.signIn ⟨uid, none, none⟩, .loadData, .readRecord load false, .readPhoto load false,
   .runPhoto load, .runRecord load]

theorem shows_own_photoLast :
    EveryStep step ShowsOwn { users := fun _ => none, profiles := profilesOfTwo }
      (signsIn "Боря" 0 ++ [.setUserName "Боря" 0, .exit] ++ signsIn "Аня" 1) :=
  shows_own _ _ _ (by decide +kernel)

/-- The photo of the user before stays on display. -/
theorem not_shows_own :
    ¬ ∀ events, EveryStep step ShowsOwn { users := fun _ => none, profiles := profilesOfTwo }
      events := by
  intro always
  let first := signsIn "Аня" 0 ++ [.exit] ++ (signsIn "Боря" 1).dropLast
  have reached : (exec step { users := fun _ => none, profiles := profilesOfTwo } first).bind
      (fun s => (s.step (.runRecord 1)).map fun t =>
        (decide t.Loaded, t.account.image, t.profiles t.account.id)) =
      some (true, some ⟨"Аня"⟩, none) := by decide +kernel
  obtain ⟨s, run, last⟩ := Option.bind_eq_some_iff.mp reached
  obtain ⟨t, taken, values⟩ := Option.map_eq_some_iff.mp last
  simp only [Prod.mk.injEq, decide_eq_true_eq] at values
  obtain ⟨loaded, shown, stored⟩ := values
  have own := ((always (first ++ [.runRecord 1])).of_append run).2 t taken loaded
  exact Option.some_ne_none _ (shown.symm.trans (own.image.trans stored))

end Runs

end AccountSession

end OnMap
