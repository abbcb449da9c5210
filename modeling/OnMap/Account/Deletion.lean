/-
# Deleting an account

`deleteAccount` signs the user in again, with the e-mail address that `Account` holds and a
password, and then deletes the user who is signed in. When that has succeeded, the closure
removes the record of the user whom `Account.id` names, and makes a reference to the photo of
the deleted user, which nothing deletes.

So a deletion is complete only for a user without a photo, and hits one user only if
`Account.id` names the user who was deleted.
-/

import OnMap.Account.OwnData

namespace OnMap

open Transition

namespace FValidation

def kInvalidPathCharacters : String := "[].#$"

/-- What `child` accepts as a path; for any other text it throws an exception. -/
def isValidPathString (pathString : String) : Bool :=
  !pathString.isEmpty &&
    pathString.toList.all fun c => !kInvalidPathCharacters.toList.contains c

end FValidation

/-- What the authentication server holds of a user. -/
structure AuthAccount where
  phoneNumber : Option String := none
  email : Option String := none
  password : Option String := none

/-- Where a deletion stands: the sign-in has not been answered, its answer waits for the main
queue, or the server is asked to delete the user. -/
inductive DeletionPhase
  | signIn (email password : String)
  | signedIn (error : Option String)
  | delete (uid : String)
  deriving DecidableEq, Repr

/-- What the delegates of `Account` are told. -/
inductive AccountNotice
  | dismissConfirmation
  | showErrorWithConfirmation (error : String)
  | showError (title message : String) (status : Bool)
  deriving DecidableEq, Repr

/-- The account of one device with the database and the photos, the users of the
authentication server, and the deletions under way. -/
structure AccountDeletion where
  session : AccountSession
  accounts : String → Option AuthAccount
  storeRef : Option String := none
  deletions : List DeletionPhase := []
  notices : List AccountNotice := []

namespace AccountDeletion

/-- What can happen: the steps of the session, a new e-mail address, changes that other
devices make on the servers, a new launch of the app, and the steps of a deletion. Its button
is `nextTo`, with the text of the password field. -/
inductive Event
  | session (e : AccountSession.Event)
  | setEmail (email : String)
  | others (accounts : String → Option AuthAccount) (users : String → Option Dictionary)
      (profiles : String → Option UIImage)
  | launch
  | nextTo (text : Option String)
  | answerSignIn (deletion : ℕ) (reply : Except String String)
  | runSignIn (deletion : ℕ)
  | deleteReply (deletion : ℕ) (error : Option String)

def setEmail (s : AccountDeletion) (email : String) : AccountDeletion :=
  { s with session := { s.session with account := { s.session.account with email := email } } }

/-- The app starts anew; the server, the setting and the user who is signed in stay. -/
def launched (s : AccountDeletion) : AccountDeletion :=
  { s with
    session := { s.session with account := {}, loads := [] }
    storeRef := none
    deletions := [] }

def deleteAccount (s : AccountDeletion) (password : String) : AccountDeletion :=
  { s with deletions := s.deletions ++ [.signIn s.session.account.email password] }

/-- The server accepts the e-mail address and the password of a user, or answers with an
error. -/
def answerSignIn (s : AccountDeletion) (i : ℕ) (reply : Except String String) :
    Option AccountDeletion :=
  match s.deletions[i]?, reply with
  | some (.signIn email password), .ok uid => (s.accounts uid).bind fun a =>
    if a.email = some email ∧ a.password = some password then
      -- the SDK sets the current user before it calls the closure
      some { s with
        session := { s.session with currentUser := some ⟨uid, a.phoneNumber, a.email⟩ }
        deletions := s.deletions.set i (.signedIn none) }
    else none
  | some (.signIn _ _), .error error =>
    some { s with deletions := s.deletions.set i (.signedIn (some error)) }
  | _, _ => none

/-- The closure of `signIn`. -/
def runSignIn (s : AccountDeletion) (i : ℕ) : Option AccountDeletion :=
  match s.deletions[i]? with
  | some (.signedIn none) =>
    -- `user?.delete` asks for nothing if nobody is signed in any more
    let user := s.session.currentUser
    some { s with
      notices := s.notices ++ [.dismissConfirmation]
      deletions := s.deletions.eraseIdx i ++ (user.map fun user => .delete user.uid).toList }
  | some (.signedIn (some error)) =>
    some { s with
      notices := s.notices ++ [.showErrorWithConfirmation error]
      deletions := s.deletions.eraseIdx i }
  | _ => none

/-- The closure of `delete`, called without an error. -/
def userDeleted (s : AccountDeletion) (uid : String) : AccountDeletion :=
  if FValidation.isValidPathString s.session.account.id then
    { s with
      session := { s.session with
        users := Function.update s.session.users s.session.account.id none
        currentuserID := "" }
      storeRef := some ("images/profiles/" ++ uid ++ ".png")
      notices := s.notices ++ [.showError "Успех!" "Аккаунт удалён" true] }
  -- `child` throws, which ends the app
  else s.launched

/-- The server has deleted the user, who is signed out then. -/
def userRemoved (s : AccountDeletion) (i : ℕ) (uid : String) : AccountDeletion :=
  { s with
    session := { s.session with
      currentUser := s.session.currentUser.filter fun user => user.uid ≠ uid }
    accounts := Function.update s.accounts uid none
    deletions := s.deletions.eraseIdx i }

/-- The server deletes the user or answers with an error. -/
def deleteReply (s : AccountDeletion) (i : ℕ) (error : Option String) :
    Option AccountDeletion :=
  match s.deletions[i]?, error with
  | some (.delete _), some error =>
    some { s with
      notices := s.notices ++ [.showError "Ошибка" error false]
      deletions := s.deletions.eraseIdx i }
  | some (.delete uid), none =>
    if (s.accounts uid).isSome then some ((s.userRemoved i uid).userDeleted uid) else none
  | _, _ => none

def step (s : AccountDeletion) : Event → Option AccountDeletion
  | .session e => (s.session.step e).map fun session => { s with session := session }
  | .setEmail email => some (s.setEmail email)
  | .others accounts users profiles =>
    some { s with
      session := { s.session with users := users, profiles := profiles }
      accounts := accounts }
  | .launch => some s.launched
  | .nextTo text => some (s.deleteAccount (text.getD " "))
  | .answerSignIn i reply => s.answerSignIn i reply
  | .runSignIn i => s.runSignIn i
  | .deleteReply i error => s.deleteReply i error

/-! ### All or nothing -/

/-- The steps of a deletion. -/
def Event.deletes : Event → Bool
  | .nextTo _ | .answerSignIn .. | .runSignIn _ | .deleteReply .. => true
  | _ => false

/-- The servers and the setting are left alone. -/
structure DeletesNothing (s t : AccountDeletion) : Prop where
  accounts : t.accounts = s.accounts
  users : t.session.users = s.session.users
  profiles : t.session.profiles = s.session.profiles
  currentuserID : t.session.currentuserID = s.session.currentuserID

/-- The user is deleted, with the record and the photo, and no other user is. -/
structure DeletesUser (s t : AccountDeletion) (uid : String) : Prop where
  present : (s.accounts uid).isSome = true
  accounts : t.accounts = Function.update s.accounts uid none
  users : t.session.users = Function.update s.session.users uid none
  profiles : t.session.profiles = Function.update s.session.profiles uid none
  currentuserID : t.session.currentuserID = ""

def AllOrNothing (s : AccountDeletion) (e : Event) : Prop :=
  e.deletes = true → ∀ t, s.step e = some t → DeletesNothing s t ∨ ∃ uid, DeletesUser s t uid

/-- The record that is removed is that of the user. Where `Account.id` is no path, no record
is removed and the setting stays. -/
def RemovesOwnRecord (s : AccountDeletion) (uid : String) : Prop :=
  if FValidation.isValidPathString s.session.account.id then
    s.session.account.id = uid ∨
      s.session.users s.session.account.id = none ∧ s.session.users uid = none
  else s.session.users uid = none ∧ s.session.currentuserID = ""

/-- A user who is deleted has no photo, and the record that is removed is the user's own. -/
def HitsOwn (s : AccountDeletion) : Event → Prop
  | .deleteReply i none => ∀ uid, s.deletions[i]? = some (.delete uid) →
    (s.accounts uid).isSome = true → s.session.profiles uid = none ∧ s.RemovesOwnRecord uid
  | _ => True

section Steps

variable {s t : AccountDeletion} {e : Event} {uid : String} {i : ℕ}

/-- Removing one key is removing another if neither holds anything. -/
theorem update_none_eq_iff {α : Type} {f : String → Option α} {a b : String} :
    Function.update f a none = Function.update f b none ↔ a = b ∨ f a = none ∧ f b = none := by
  constructor
  · intro same
    by_cases equal : a = b
    · exact Or.inl equal
    · have first := congrFun same a
      have second := congrFun same b
      rw [Function.update_self, Function.update_of_ne equal] at first
      rw [Function.update_self, Function.update_of_ne (Ne.symm equal)] at second
      exact Or.inr ⟨first.symm, second⟩
  · rintro (rfl | ⟨first, second⟩)
    · rfl
    · rw [← first, Function.update_eq_self, first, ← second, Function.update_eq_self]

theorem eq_update_none_iff {α : Type} {f : String → Option α} {a : String} :
    f = Function.update f a none ↔ f a = none := by
  rw [Function.eq_update_iff]
  exact and_iff_left fun _ _ => rfl

/-- Whatever the closure does, no photo is deleted. -/
theorem profiles_userDeleted (s : AccountDeletion) (uid : String) :
    (s.userDeleted uid).session.profiles = s.session.profiles := by
  rw [userDeleted]
  split <;> rfl

theorem accounts_userDeleted (s : AccountDeletion) (uid : String) :
    (s.userDeleted uid).accounts = s.accounts := by
  rw [userDeleted]
  split <;> rfl

/-- What a deletion that succeeds leaves. -/
theorem deletesUser_iff (present : (s.accounts uid).isSome = true) :
    DeletesUser s ((s.userRemoved i uid).userDeleted uid) uid ↔
      s.session.profiles uid = none ∧ s.RemovesOwnRecord uid := by
  have photo : ((s.userRemoved i uid).userDeleted uid).session.profiles =
      Function.update s.session.profiles uid none ↔ s.session.profiles uid = none := by
    rw [profiles_userDeleted]
    exact eq_update_none_iff
  have accounts : ((s.userRemoved i uid).userDeleted uid).accounts =
      Function.update s.accounts uid none := accounts_userDeleted ..
  rw [RemovesOwnRecord, ← photo]
  -- the user is deleted in any case; the photo, the record and the setting are left to check
  have others : DeletesUser s ((s.userRemoved i uid).userDeleted uid) uid ↔
      ((s.userRemoved i uid).userDeleted uid).session.profiles =
        Function.update s.session.profiles uid none ∧
      ((s.userRemoved i uid).userDeleted uid).session.users =
        Function.update s.session.users uid none ∧
      ((s.userRemoved i uid).userDeleted uid).session.currentuserID = "" :=
    ⟨fun h => ⟨h.profiles, h.users, h.currentuserID⟩,
      fun h => ⟨present, accounts, h.2.1, h.1, h.2.2⟩⟩
  rw [others]
  refine and_congr_right fun _ => ?_
  by_cases path : FValidation.isValidPathString s.session.account.id = true
  · have done : (s.userRemoved i uid).userDeleted uid = _ := if_pos path
    rw [if_pos path, done]
    exact (and_iff_left rfl).trans update_none_eq_iff
  · have done : (s.userRemoved i uid).userDeleted uid = _ := if_neg path
    rw [if_neg path, done]
    exact and_congr_left fun _ => eq_update_none_iff

theorem deleteReply_none (here : s.deletions[i]? = some (.delete uid))
    (present : (s.accounts uid).isSome = true) :
    s.deleteReply i none = some ((s.userRemoved i uid).userDeleted uid) := by
  simp only [deleteReply, here]
  exact if_pos present

/-- The server is asked to delete a user it has, if it has deleted one. -/
theorem deleteReply_none_eq_some (taken : s.deleteReply i none = some t) :
    ∃ uid, s.deletions[i]? = some (.delete uid) ∧ (s.accounts uid).isSome = true ∧
      t = (s.userRemoved i uid).userDeleted uid := by
  unfold deleteReply at taken
  split at taken
  case h_1 => contradiction
  case h_2 uid here _ =>
    obtain ⟨present, done⟩ := Option.ite_none_right_eq_some.mp taken
    exact ⟨uid, here, present, (Option.some.inj done).symm⟩
  case h_3 => cases taken

/-- The one user who can have been deleted. -/
theorem deletes_iff (present : (s.accounts uid).isSome = true)
    (deleted : t.accounts = Function.update s.accounts uid none) :
    (DeletesNothing s t ∨ ∃ other, DeletesUser s t other) ↔ DeletesUser s t uid := by
  have gone : Function.update s.accounts uid none ≠ s.accounts := by
    intro same
    rw [eq_update_none_iff.mp same.symm] at present
    cases present
  constructor
  · rintro (nothing | ⟨other, h⟩)
    · exact absurd (deleted.symm.trans nothing.accounts) gone
    · rcases update_none_eq_iff.mp (deleted.symm.trans h.accounts) with rfl | ⟨none, -⟩
      · exact h
      · rw [none] at present
        cases present
  · exact fun h => Or.inr ⟨uid, h⟩

theorem allOrNothing_deleteReply :
    AllOrNothing s (.deleteReply i none) ↔ HitsOwn s (.deleteReply i none) := by
  constructor
  · intro all uid here present
    have outcome := all rfl _ (deleteReply_none here present)
    exact (deletesUser_iff present).mp
      ((deletes_iff present (accounts_userDeleted ..)).mp outcome)
  · intro own _ t taken
    obtain ⟨uid, here, present, rfl⟩ := deleteReply_none_eq_some taken
    exact Or.inr ⟨uid, (deletesUser_iff present).mpr (own uid here present)⟩

/-! ### What deletes nothing -/

/-- The user who is signed in, the deletions under way and the notices may change. -/
theorem DeletesNothing.of_eq_some {user : Option AuthUser} {deletions : List DeletionPhase}
    {notices : List AccountNotice}
    (taken : some { s with
      session := { s.session with currentUser := user }
      deletions := deletions
      notices := notices } = some t) : DeletesNothing s t := by
  obtain rfl := Option.some.inj taken
  exact ⟨rfl, rfl, rfl, rfl⟩

theorem DeletesNothing.answerSignIn {reply : Except String String}
    (taken : s.answerSignIn i reply = some t) : DeletesNothing s t := by
  unfold AccountDeletion.answerSignIn at taken
  split at taken
  · obtain ⟨a, -, taken⟩ := Option.bind_eq_some_iff.mp taken
    exact .of_eq_some (Option.ite_none_right_eq_some.mp taken).2
  · exact .of_eq_some taken
  · cases taken

theorem DeletesNothing.runSignIn (taken : s.runSignIn i = some t) : DeletesNothing s t := by
  unfold AccountDeletion.runSignIn at taken
  split at taken
  · exact .of_eq_some taken
  · exact .of_eq_some taken
  · cases taken

theorem DeletesNothing.deleteReply {error : String}
    (taken : s.deleteReply i (some error) = some t) : DeletesNothing s t := by
  unfold AccountDeletion.deleteReply at taken
  split at taken
  · exact .of_eq_some taken
  · contradiction
  · cases taken

/-- Only a deletion that succeeds deletes anything. -/
theorem deletesNothing (deletes : e.deletes = true) (other : ∀ i, e ≠ .deleteReply i none)
    (taken : s.step e = some t) : DeletesNothing s t := by
  cases e with
  | session | setEmail | others | launch => cases deletes
  | nextTo text => exact .of_eq_some taken
  | answerSignIn i reply => exact .answerSignIn taken
  | runSignIn i => exact .runSignIn taken
  | deleteReply i error =>
    cases error with
    | none => exact absurd rfl (other i)
    | some error => exact .deleteReply taken

/-- However deletions go, they delete no photo. -/
theorem profiles_exec {events : List Event} (deletes : ∀ e ∈ events, e.deletes = true)
    (run : exec step s events = some t) : t.session.profiles = s.session.profiles := by
  refine exec_invariant_of_everyStep (I := fun u => u.session.profiles = s.session.profiles)
    (G := fun _ e => e.deletes = true) ?_ rfl (EveryStep.of_forall_mem deletes) run
  intro u e v same deletes taken
  by_cases replies : ∃ i, e = .deleteReply i none
  · obtain ⟨i, rfl⟩ := replies
    obtain ⟨uid, -, -, rfl⟩ := deleteReply_none_eq_some taken
    exact (profiles_userDeleted ..).trans same
  · have nothing := deletesNothing deletes (fun i other => replies ⟨i, other⟩) taken
    exact nothing.profiles.trans same

theorem allOrNothing_iff (s : AccountDeletion) (e : Event) : AllOrNothing s e ↔ HitsOwn s e := by
  by_cases replies : ∃ i, e = .deleteReply i none
  · obtain ⟨i, rfl⟩ := replies
    exact allOrNothing_deleteReply
  · have other (i : ℕ) : e ≠ .deleteReply i none := fun same => replies ⟨i, same⟩
    refine iff_of_true (fun deletes t taken => Or.inl (deletesNothing deletes other taken)) ?_
    cases e with
    | deleteReply i error =>
      cases error with
      | none => exact absurd rfl (other i)
      | some => trivial
    | _ => trivial

/-! ### Who is deleted -/

/-- No other user than the one whom `Account.id` names has the e-mail address in `Account`. -/
def OwnEmail (s : AccountDeletion) : Prop :=
  ∀ uid, ∀ a ∈ s.accounts uid, a.email = some s.session.account.email →
    uid = s.session.account.id

/-- The user who is signed in has the e-mail address of the sign-in. -/
theorem answerSignIn_ok_eq_some {email password : String}
    (asked : s.deletions[i]? = some (.signIn email password))
    (taken : s.answerSignIn i (.ok uid) = some t) :
    ∃ a, s.accounts uid = some a ∧ a.email = some email ∧
      t.session.currentUser.map AuthUser.uid = some uid ∧
      t.deletions = s.deletions.set i (.signedIn none) := by
  simp only [answerSignIn, asked] at taken
  obtain ⟨a, there, taken⟩ := Option.bind_eq_some_iff.mp taken
  obtain ⟨matches_, done⟩ := Option.ite_none_right_eq_some.mp taken
  obtain rfl := Option.some.inj done
  exact ⟨a, there, matches_.1, rfl, rfl⟩

theorem deletions_runSignIn (answered : s.deletions[i]? = some (.signedIn none))
    (user : s.session.currentUser.map AuthUser.uid = some uid)
    (taken : s.runSignIn i = some t) : t.deletions = s.deletions.eraseIdx i ++ [.delete uid] := by
  simp only [runSignIn, answered] at taken
  obtain rfl := Option.some.inj taken
  obtain ⟨current, signed, rfl⟩ := Option.map_eq_some_iff.mp user
  rw [signed]
  rfl

/-- A deletion that nothing comes between asks to delete that user. -/
theorem OwnEmail.deletions (h : s.OwnEmail) {text : Option String}
    (run : exec step s [.nextTo text, .answerSignIn s.deletions.length (.ok uid),
      .runSignIn s.deletions.length] = some t) :
    t.deletions = s.deletions ++ [.delete s.session.account.id] := by
  obtain ⟨_, pressed, run⟩ := exec_cons_eq_some.mp run
  obtain rfl := Option.some.inj pressed
  obtain ⟨answered, replied, run⟩ := exec_cons_eq_some.mp run
  obtain ⟨_, closure, done⟩ := exec_cons_eq_some.mp run
  obtain rfl := Option.some.inj done
  have asked : (s.deleteAccount (text.getD " ")).deletions[s.deletions.length]? =
      some (.signIn s.session.account.email (text.getD " ")) := List.getElem?_concat_length ..
  obtain ⟨a, there, email, user, waiting⟩ := answerSignIn_ok_eq_some asked replied
  obtain rfl := h uid a there email
  have last : answered.deletions = s.deletions ++ [.signedIn none] := by
    rw [waiting, deleteAccount]
    simp
  have now : answered.deletions[s.deletions.length]? = some (.signedIn none) :=
    last ▸ List.getElem?_concat_length ..
  rw [deletions_runSignIn now user closure, last,
    List.eraseIdx_append_of_length_le (Nat.le_refl _), Nat.sub_self, List.eraseIdx_cons_zero,
    List.append_nil]

end Steps

/-- Аня has an e-mail address, a password and a photo. -/
def registered : AccountDeletion where
  session := { users := fun _ => none, profiles := AccountSession.profilesOfTwo }
  accounts := Function.update (fun _ => none) "Аня"
    (some { email := some "anya@mail.ru", password := some "пароль" })

/-- She signs in, her data is loaded, and she deletes her account; no step fails. -/
def untilDeleted : List Event :=
  [.session (.signIn ⟨"Аня", none, some "anya@mail.ru"⟩), .session .loadData,
    .session (.readRecord 0 false), .session (.runRecord 0), .nextTo (some "пароль"),
    .answerSignIn 0 (.ok "Аня"), .runSignIn 0]

end AccountDeletion

end OnMap
