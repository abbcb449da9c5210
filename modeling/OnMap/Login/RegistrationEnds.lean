/-
# A registration goes on

While an answer is due, the controls of the registration screen are disabled. Every answer
enables them again or dismisses the screen, and the blocks that run with the controls disabled
ask Firebase or refuse the texts, with one exception: `linkEmail` does nothing if a link that
failed before has signed the user out. The blocks and the answers that are due are bounded, and
after them the user can go on, unless the last of them was such a `linkEmail`.

A user who presses one button at a time links one e-mail, and this e-mail is what
`addInformation` writes into the record.
-/

import OnMap.Library.Progress
import OnMap.Login.Registration

namespace OnMap

open Transition

namespace Registration

/-- Events of the main queue and of Firebase. -/
def Event.delivers : Event → Bool
  | .runBlock _ | .fail .. | .succeed .. => true
  | _ => false

/-- Answers of Firebase. -/
def Event.answers : Event → Bool
  | .fail .. | .succeed .. => true
  | _ => false

/-- What is due; a block may make one call. -/
def work (s : Registration) : ℕ := 2 * s.blocks.length + s.calls.length

/-- The user can go on, or has ended the registration. -/
def Usable (s : Registration) : Prop := s.presented = true → s.enabled = true

/-- Where nothing is left to deliver after the event, the user can go on. -/
def GoesOn (s : Registration) (e : Event) : Prop :=
  ∀ t, s.step e = some t → (∀ d, d.delivers = true → t.step d = none) → t.Usable

/-- `linkEmail` is all that is due, and asks nobody: it runs with two equal passwords and with
the controls disabled while nobody is signed in. -/
def AsksNobody (s : Registration) : Event → Prop
  | .runBlock _ =>
    s.blocks = [.linkEmail] ∧ s.calls = [] ∧ s.presented = true ∧ s.enabled = false ∧
      s.repeatedPasswordTextField = s.passwordTextField ∧ s.currentUser = none
  | _ => False

instance (s : Registration) : DecidablePred s.AsksNobody
  | .runBlock _ => inferInstanceAs (Decidable (_ ∧ _))
  | .typePhone _ | .typeTexts .. | .nextPhone | .backPhone | .nextEmail | .alreadyHaveAccount
  | .fail .. | .succeed .. | .viewDidAppear => isFalse not_false

/-- The e-mail view is open while `linkEmail` waits; while `addInformation` does, the screen
has been dismissed. -/
structure Queued (s : Registration) : Prop where
  linking : .linkEmail ∈ s.blocks → s.emailOpen = true
  ending : .addInformation ∈ s.blocks → s.presented = false

section Steps

variable {s t : Registration} {e : Event}

/-! ### Answers -/

theorem usable_sendCodeReturn (s : Registration) (b : Bool) : (s.sendCodeReturn b).Usable := by
  intro _
  rw [sendCodeReturn]
  split <;> rfl

/-- After a check the screen is dismissed or can be used. -/
theorem usable_checkingReturn (s : Registration) (b : Bool) : (s.checkingReturn b).Usable := by
  intro presented
  rw [checkingReturn] at presented ⊢
  split at presented
  case isTrue unknown =>
    rw [if_pos unknown]
    split <;> rfl
  case isFalse => cases presented

theorem usable_fail (s : Registration) (error : String) (signsOut : Bool)
    (authCall : AuthCall) : (s.fail error signsOut authCall).Usable := by
  cases authCall with
  | verifyPhoneNumber => exact usable_sendCodeReturn s false
  | signIn => exact usable_checkingReturn s false
  | link => exact fun _ => rfl

theorem usable_succeed (s : Registration) (account : AuthUser) (authCall : AuthCall) :
    (s.succeed account authCall).Usable := by
  cases authCall with
  | verifyPhoneNumber => exact usable_sendCodeReturn s true
  | signIn =>
    simp only [succeed]
    split <;> exact usable_checkingReturn _ true
  | link => exact fun _ => rfl

/-- What an answer leaves: the queue, the calls, an open e-mail view and a screen that has been
dismissed. -/
structure Kept (s t : Registration) : Prop where
  blocks : t.blocks = s.blocks
  calls : t.calls = s.calls
  opened : s.emailOpen = true → t.emailOpen = true
  dismissed : s.presented = false → t.presented = false

theorem kept_sendCodeReturn (s : Registration) (b : Bool) : Kept s (s.sendCodeReturn b) := by
  rw [sendCodeReturn]
  split <;> exact ⟨rfl, rfl, id, id⟩

theorem kept_checkingReturn (s : Registration) (b : Bool) : Kept s (s.checkingReturn b) := by
  rw [checkingReturn]
  split
  · split
    · exact ⟨rfl, rfl, fun _ => rfl, id⟩
    · exact ⟨rfl, rfl, id, id⟩
  · exact ⟨rfl, rfl, id, fun _ => rfl⟩

theorem kept_fail (s : Registration) (error : String) (signsOut : Bool) (authCall : AuthCall) :
    Kept s (s.fail error signsOut authCall) := by
  cases authCall with
  | verifyPhoneNumber => exact kept_sendCodeReturn s false
  | signIn => exact kept_checkingReturn s false
  | link =>
    rw [fail]
    split <;> exact ⟨rfl, rfl, id, id⟩

theorem kept_succeed (s : Registration) (account : AuthUser) (authCall : AuthCall) :
    Kept s (s.succeed account authCall) := by
  cases authCall with
  | verifyPhoneNumber => exact kept_sendCodeReturn s true
  | signIn =>
    have checked (u : Registration) (same : Kept s u) : Kept s (u.checkingReturn true) := by
      obtain ⟨blocks, calls, opened, dismissed⟩ := kept_checkingReturn u true
      exact ⟨blocks.trans same.blocks, calls.trans same.calls, opened ∘ same.opened,
        dismissed ∘ same.dismissed⟩
    simp only [succeed]
    split <;> exact checked _ ⟨rfl, rfl, id, id⟩
  | link => exact ⟨rfl, rfl, id, id⟩

/-- Every answer leaves a screen that can be used. -/
theorem usable_of_answers (answers : e.answers = true) (taken : s.step e = some t) :
    t.Usable := by
  cases e with
  | fail index error signsOut =>
    obtain ⟨authCall, -, rfl⟩ := Option.map_eq_some_iff.mp taken
    exact usable_fail (s.answered index) error signsOut authCall
  | succeed index account =>
    obtain ⟨authCall, -, rfl⟩ := Option.map_eq_some_iff.mp taken
    exact usable_succeed (s.answered index) account authCall
  | _ => cases answers

theorem kept_of_answers (answers : e.answers = true) (taken : s.step e = some t) :
    ∃ (index : ℕ) (authCall : AuthCall), s.calls[index]? = some authCall ∧
      Kept (s.answered index) t := by
  cases e with
  | fail index error signsOut =>
    obtain ⟨authCall, here, rfl⟩ := Option.map_eq_some_iff.mp taken
    exact ⟨index, authCall, here, kept_fail ..⟩
  | succeed index account =>
    obtain ⟨authCall, here, rfl⟩ := Option.map_eq_some_iff.mp taken
    exact ⟨index, authCall, here, kept_succeed ..⟩
  | _ => cases answers

/-! ### One step -/

/-- A block puts no other on the queue, and makes one call at most. -/
theorem runBlock_asks (s : Registration) (now : Date) (block : RegistrationBlock) :
    (s.runBlock now block).blocks = s.blocks ∧ ((s.runBlock now block).calls = s.calls ∨
      ∃ authCall, (s.runBlock now block).calls = s.calls ++ [authCall]) := by
  cases block with
  | sendCodeNet =>
    simp only [runBlock, sendCodeNet]
    split
    · exact ⟨rfl, Or.inr ⟨_, rfl⟩⟩
    · exact ⟨rfl, Or.inl rfl⟩
  | checkCode => exact ⟨rfl, Or.inr ⟨_, rfl⟩⟩
  | linkEmail =>
    simp only [runBlock, linkEmail]
    split
    · exact ⟨rfl, Or.inl rfl⟩
    · split
      · exact ⟨rfl, Or.inr ⟨_, rfl⟩⟩
      · exact ⟨rfl, Or.inl rfl⟩
  | addInformation =>
    simp only [runBlock, addInformation]
    split <;> exact ⟨rfl, Or.inl rfl⟩

/-- Blocks and answers take off what is due. -/
theorem work_lt_work (delivers : e.delivers = true) (taken : s.step e = some t) :
    t.work < s.work := by
  have answered (answers : e.answers = true) : t.work < s.work := by
    obtain ⟨index, authCall, here, kept⟩ := kept_of_answers answers taken
    have bound := (List.getElem?_eq_some_iff.mp here).1
    have fewer : (s.answered index).calls.length = s.calls.length - 1 :=
      List.length_eraseIdx_of_lt bound
    rw [work, work, kept.blocks, kept.calls, fewer]
    change 2 * s.blocks.length + _ < _
    omega
  cases e with
  | fail | succeed => exact answered rfl
  | runBlock now =>
    cases queue : s.blocks with
    | nil => simp [step, queue] at taken
    | cons block rest =>
      simp only [step, queue, Option.some.injEq] at taken
      subst taken
      obtain ⟨blocks, calls⟩ := runBlock_asks { s with blocks := rest } now block
      rw [work, work, blocks, queue, List.length_cons]
      dsimp only at calls ⊢
      rcases calls with same | ⟨authCall, more⟩
      · rw [same]
        omega
      · rw [more, List.length_append, List.length_singleton]
        omega
  | _ => cases delivers

/-- Nothing is delivered exactly where nothing is due. -/
theorem stopped_iff :
    (∀ d, d.delivers = true → s.step d = none) ↔ s.blocks = [] ∧ s.calls = [] := by
  constructor
  · intro stopped
    constructor
    · cases queue : s.blocks with
      | nil => rfl
      | cons block rest =>
        have stuck := stopped (.runBlock 0) rfl
        simp [step, queue] at stuck
    · cases due : s.calls with
      | nil => rfl
      | cons authCall rest =>
        have stuck := stopped (.fail 0 "" false) rfl
        simp [step, due] at stuck
  · -- the other events are not deliveries
    rintro ⟨queue, due⟩ d delivers
    cases d with
    | runBlock => simp [step, queue]
    | fail | succeed => simp [step, due]
    | _ => cases delivers

theorem mem_dispatch {block other : RegistrationBlock} :
    block ∈ (s.dispatch other).blocks ↔ block ∈ s.blocks ∨ block = other := by
  simp [dispatch]

theorem Queued.runBlock (h : Queued s) {block : RegistrationBlock}
    {rest : List RegistrationBlock} (queue : s.blocks = block :: rest) (now : Date) :
    Queued ({ s with blocks := rest }.runBlock now block) := by
  have linking (later : .linkEmail ∈ rest) : s.emailOpen = true :=
    h.linking (queue ▸ List.mem_cons_of_mem _ later)
  have ending (later : .addInformation ∈ rest) : s.presented = false :=
    h.ending (queue ▸ List.mem_cons_of_mem _ later)
  cases block with
  | sendCodeNet =>
    simp only [Registration.runBlock, sendCodeNet]
    split <;> exact ⟨linking, ending⟩
  | checkCode => exact ⟨linking, ending⟩
  | linkEmail =>
    simp only [Registration.runBlock, linkEmail]
    split
    · exact ⟨linking, ending⟩
    · split <;> exact ⟨linking, ending⟩
  | addInformation =>
    simp only [Registration.runBlock, addInformation]
    split <;> exact ⟨linking, ending⟩

theorem Queued.step (h : Queued s) (taken : s.step e = some t) : Queued t := by
  cases e with
  | typePhone | typeTexts | backPhone =>
    obtain rfl := step_press taken
    exact ⟨h.linking, h.ending⟩
  | nextPhone =>
    obtain rfl := step_press taken
    -- the block that the button adds is neither of the two
    refine ⟨fun later => h.linking ?_, fun later => h.ending ?_⟩
    all_goals exact (mem_dispatch.mp later).resolve_right (by split <;> decide)
  | nextEmail =>
    obtain ⟨opened, pressed⟩ := Option.ite_none_right_eq_some.mp taken
    obtain rfl := step_press pressed
    split
    · -- the registration ends before `addInformation` runs
      exact ⟨fun _ => opened, fun _ => rfl⟩
    · exact ⟨fun _ => opened,
        fun later => h.ending ((mem_dispatch.mp later).resolve_right (by decide))⟩
  | alreadyHaveAccount =>
    obtain rfl := step_press taken
    exact ⟨h.linking, fun _ => rfl⟩
  | runBlock now =>
    cases queue : s.blocks with
    | nil => simp [Registration.step, queue] at taken
    | cons block rest =>
      simp only [Registration.step, queue, Option.some.injEq] at taken
      exact taken ▸ h.runBlock queue now
  | fail | succeed =>
    obtain ⟨index, authCall, -, kept⟩ := kept_of_answers rfl taken
    exact ⟨fun later => kept.opened (h.linking (kept.blocks ▸ later)),
      fun later => kept.dismissed (h.ending (kept.blocks ▸ later))⟩
  | viewDidAppear =>
    obtain ⟨-, appears⟩ := Option.ite_none_right_eq_some.mp taken
    obtain rfl := Option.some.inj appears
    rw [viewDidAppear]
    split <;> exact ⟨h.linking, h.ending⟩

/-- The last block leaves a screen that can be used, or asks nobody. -/
theorem Queued.usable_runBlock (h : Queued s) {block : RegistrationBlock}
    (queue : s.blocks = [block]) (now : Date) (asked : ¬ s.AsksNobody (.runBlock now))
    (idle : ({ s with blocks := [] }.runBlock now block).calls = []) :
    ({ s with blocks := [] }.runBlock now block).Usable := by
  have called {authCall : AuthCall} (calls : s.calls ++ [authCall] = []) : False :=
    List.append_ne_nil_of_right_ne_nil _ (List.cons_ne_nil _ _) calls
  cases block with
  | sendCodeNet =>
    simp only [Registration.runBlock, sendCodeNet] at idle ⊢
    split at idle
    · exact (called idle).elim
    case isFalse empty =>
      rw [if_neg empty]
      exact fun _ => rfl
  | checkCode => exact (called idle).elim
  | linkEmail =>
    simp only [Registration.runBlock, linkEmail] at idle ⊢
    -- two passwords that differ are refused, which enables the controls
    by_cases same : s.repeatedPasswordTextField = s.passwordTextField
    · rw [if_neg (not_not.mpr same)] at idle ⊢
      cases current : s.currentUser with
      | some account =>
        simp only [current, Option.isSome_some, if_true] at idle
        exact (called idle).elim
      | none =>
        -- nobody is asked, and the controls stay as they are
        simp only [current, Option.isSome_none, Bool.false_eq_true, if_false] at idle ⊢
        intro presented
        by_contra disabled
        exact asked ⟨queue, idle, presented, Bool.eq_false_iff.mpr disabled, same, current⟩
    · rw [if_pos same]
      exact fun _ => rfl
  | addInformation =>
    -- a refusal comes too late to be seen
    have dismissed := h.ending (queue ▸ List.mem_cons_self)
    simp only [Registration.runBlock, addInformation]
    split
    · exact fun _ => rfl
    · exact fun presented => absurd (dismissed.symm.trans presented) Bool.false_ne_true

theorem Queued.goesOn (h : Queued s) (asked : ¬ s.AsksNobody e) : s.GoesOn e := by
  intro t taken stopped presented
  obtain ⟨blocks, calls⟩ := stopped_iff.mp stopped
  have pressed {u : Registration} (taken : s.press u = some t) : u = t ∧ s.enabled = true := by
    obtain ⟨⟨-, enabled⟩, same⟩ := Option.ite_none_right_eq_some.mp taken
    exact ⟨Option.some.inj same, enabled⟩
  cases e with
  | typePhone | typeTexts | nextPhone | backPhone | alreadyHaveAccount =>
    obtain ⟨rfl, enabled⟩ := pressed taken
    exact enabled
  | nextEmail =>
    -- the button leaves a block on the main queue
    obtain ⟨-, taken⟩ := Option.ite_none_right_eq_some.mp taken
    obtain ⟨rfl, -⟩ := pressed taken
    split at blocks
    all_goals exact absurd blocks (List.append_ne_nil_of_right_ne_nil _ (List.cons_ne_nil _ _))
  | runBlock now =>
    cases queue : s.blocks with
    | nil => simp [Registration.step, queue] at taken
    | cons block rest =>
      simp only [Registration.step, queue, Option.some.injEq] at taken
      subst taken
      obtain rfl : rest = [] := (runBlock_asks _ now block).1.symm.trans blocks
      exact h.usable_runBlock queue now asked calls presented
  | fail | succeed => exact usable_of_answers rfl taken presented
  | viewDidAppear =>
    obtain ⟨⟨dismissed, -⟩, appears⟩ := Option.ite_none_right_eq_some.mp taken
    obtain rfl := Option.some.inj appears
    rw [viewDidAppear] at presented
    split at presented <;> exact absurd (dismissed.symm.trans presented) Bool.false_ne_true

/-- A `linkEmail` that asks nobody leaves the controls disabled with nothing due. -/
theorem AsksNobody.not_goesOn (asks : s.AsksNobody e) : ¬ s.GoesOn e := by
  intro goesOn
  cases e with
  | runBlock now =>
    obtain ⟨queue, calls, presented, disabled, same, current⟩ := asks
    have taken : s.step (.runBlock now) = some { s with
        blocks := [], title := "Success", message := "Success",
        user := { s.user with email := s.emailTextField, password := s.passwordTextField } } := by
      simp [Registration.step, queue, Registration.runBlock, linkEmail, same, current]
    have enabled := goesOn _ taken (stopped_iff.mpr ⟨rfl, calls⟩) presented
    exact absurd (disabled.symm.trans enabled) Bool.false_ne_true
  | _ => exact asks

theorem Queued.goesOn_iff (h : Queued s) : s.GoesOn e ↔ ¬ s.AsksNobody e :=
  ⟨fun goesOn asks => asks.not_goesOn goesOn, h.goesOn⟩

end Steps

/-- The button is pressed twice before the first block runs. -/
def pressedTwice : List Event :=
  [.typePhone "+7 (123) 456-78-99", .nextPhone, .nextPhone]

/-- Both codes are asked for; one call fails. -/
def oneFails : List Event :=
  [.runBlock 0, .runBlock 0, .fail 1 "" false, .succeed 0 ⟨"u", none, none⟩]

/-- The link fails because the user has been disabled, and the button is pressed again. -/
def signedOut : List Event :=
  [.typePhone "+7 (123) 456-78-99", .nextPhone, .runBlock 0, .succeed 0 ⟨"u", none, none⟩,
   .typePhone "123456", .nextPhone, .runBlock 0, .succeed 0 ⟨"u", none, none⟩,
   .typeTexts "a@b.c" "secret" "secret", .nextEmail, .runBlock 0, .fail 0 "" true, .nextEmail]

/-- The controls then stay disabled, and no answer is due. -/
theorem not_always_goesOn :
    ¬ ∀ events, EveryStep step GoesOn { users := fun _ => none } events := by
  intro always
  have reached : (exec step { users := fun _ => none } signedOut).bind (fun s =>
      (s.step (.runBlock 0)).map fun t =>
        (t.presented, t.enabled, t.blocks, t.calls)) = some (true, false, [], []) := by
    decide +kernel
  obtain ⟨s, run, last⟩ := Option.bind_eq_some_iff.mp reached
  obtain ⟨t, taken, values⟩ := Option.map_eq_some_iff.mp last
  simp only [Prod.mk.injEq] at values
  obtain ⟨presented, disabled, idle⟩ := values
  have usable := (always (signedOut ++ [.runBlock 0])).of_append run t taken
    (stopped_iff.mpr idle)
  exact absurd (disabled.symm.trans (usable presented)) Bool.false_ne_true

/-! ### The e-mail of the record -/

/-- A button of the phone view or of the e-mail view is pressed when nothing is due, and that
of the phone view before the e-mail view covers it. -/
def InTurn (s : Registration) : Event → Prop
  | .nextPhone => s.blocks = [] ∧ s.calls = [] ∧ s.emailOpen = false
  | .nextEmail => s.blocks = [] ∧ s.calls = []
  | _ => True

instance (s : Registration) : DecidablePred s.InTurn
  | .nextPhone => inferInstanceAs (Decidable (_ ∧ _ ∧ _))
  | .nextEmail => inferInstanceAs (Decidable (_ ∧ _))
  | .typePhone _ | .typeTexts .. | .backPhone | .alreadyHaveAccount | .runBlock _ | .fail ..
  | .succeed .. | .viewDidAppear => isTrue trivial

/-- Once an account is linked, what `addInformation` writes is the record of the user who is
signed in, with the e-mail that has been linked. -/
def WritesLinked (sm : Registration × Log) (e : Event) : Prop :=
  ∀ uid ∈ sm.1.informs e, sm.2.linked = true → ∀ t, sm.1.step e = some t →
    uid = sm.1.currentuserID ∧ ∃ account, sm.1.currentUser = some account ∧ account.uid = uid ∧
      account.email = some (textAt (t.users uid) "email")

/-- At most one thing is due; the e-mail that the service holds is the one it has asked to be
linked, and is linked in the end. -/
structure OneEmail (sm : Registration × Log) : Prop where
  queued : Queued sm.1
  one : sm.1.blocks.length + sm.1.calls.length ≤ 1
  asked (email password : String) : .link email password ∈ sm.1.calls →
    sm.1.user.email = email ∧ sm.1.emailOpen = true ∧ sm.1.currentUser.isSome = true
  linked : sm.2.linked = true → sm.1.informationOpen = true ∧ sm.1.emailOpen = true ∧
    sm.1.calls = [] ∧ (∀ block ∈ sm.1.blocks, block = .addInformation) ∧
      sm.1.currentuserID = sm.1.uid ∧
        sm.1.currentUser.bind AuthUser.email = some sm.1.user.email

section Emails

variable {s t : Registration} {e : Event} {log : Log}

/-- A step that leaves what is due and the accounts alone. -/
theorem OneEmail.same (h : OneEmail (s, log)) (queued : Queued t) (blocks : t.blocks = s.blocks)
    (calls : t.calls = s.calls) (user : t.user = s.user) (opened : t.emailOpen = s.emailOpen)
    (information : t.informationOpen = s.informationOpen)
    (current : t.currentUser = s.currentUser) (known : t.currentuserID = s.currentuserID) :
    OneEmail (t, log) where
  queued := queued
  one := by
    simp only [blocks, calls]
    exact h.one
  asked := by
    simp only [calls, user, opened, current]
    exact h.asked
  linked := by
    simp only [uid, information, opened, calls, blocks, known, current, user]
    exact h.linked

/-- Before an account is linked there is nothing to tell about it. -/
theorem OneEmail.unlinked (queued : Queued t) (one : t.blocks.length + t.calls.length ≤ 1)
    (asked : ∀ email password, .link email password ∈ t.calls →
      t.user.email = email ∧ t.emailOpen = true ∧ t.currentUser.isSome = true)
    (not : log.linked = false) : OneEmail (t, log) :=
  ⟨queued, one, asked, fun linked => absurd (not.symm.trans linked) Bool.false_ne_true⟩

theorem OneEmail.nextPhone (h : OneEmail (s, log)) (turn : s.InTurn .nextPhone)
    (taken : s.step .nextPhone = some t) : OneEmail (t, log) := by
  obtain ⟨blocks, calls, closed⟩ := turn
  have queued := h.queued.step taken
  obtain rfl := step_press taken
  refine .unlinked queued (by simp [dispatch, blocks, calls]) (by simp [dispatch, calls]) ?_
  by_contra linked
  have opened := (h.linked (Bool.not_eq_false _ ▸ linked)).2.1
  exact absurd (closed.symm.trans opened) Bool.false_ne_true

theorem OneEmail.nextEmail (h : OneEmail (s, log)) (turn : s.InTurn .nextEmail)
    (taken : s.step .nextEmail = some t) : OneEmail (t, log) := by
  obtain ⟨blocks, calls⟩ := turn
  have queued := h.queued.step taken
  obtain ⟨-, pressed⟩ := Option.ite_none_right_eq_some.mp taken
  obtain rfl := step_press pressed
  refine ⟨queued, ?_, ?_, fun linked => ?_⟩
  · split <;> simp [addUserInfo, linkWithCredential, endRegistration, dispatch,
      isEnabledEverything, blocks, calls]
  · split <;> simp [addUserInfo, linkWithCredential, endRegistration, dispatch,
      isEnabledEverything, calls]
  · -- once an account is linked, the e-mail view asks for the name
    obtain ⟨information, opened, none, -, known, email⟩ := h.linked linked
    rw [if_pos information]
    refine ⟨information, opened, none, ?_, known, email⟩
    simp [addUserInfo, endRegistration, dispatch, blocks]

theorem OneEmail.runBlock (h : OneEmail (s, log)) {block : RegistrationBlock}
    {rest : List RegistrationBlock} (queue : s.blocks = block :: rest) (now : Date) :
    OneEmail ({ s with blocks := rest }.runBlock now block, log) := by
  have queued := h.queued.runBlock queue now
  have one : s.blocks.length + s.calls.length ≤ 1 := h.one
  rw [queue, List.length_cons] at one
  obtain rfl : rest = [] := List.length_eq_zero_iff.mp (by omega)
  have none : s.calls = [] := List.length_eq_zero_iff.mp (by omega)
  obtain ⟨blocks, calls⟩ := runBlock_asks { s with blocks := [] } now block
  dsimp only at blocks calls
  have few : ({ s with blocks := [] }.runBlock now block).blocks.length +
      ({ s with blocks := [] }.runBlock now block).calls.length ≤ 1 := by
    rw [blocks]
    rcases calls with same | ⟨authCall, more⟩
    · rw [same, none]
      exact Nat.zero_le _
    · rw [more, none]
      exact Nat.le_refl _
  have unlinked (other : block ≠ .addInformation) : log.linked = false := by
    by_contra linked
    have only := (h.linked (Bool.not_eq_false _ ▸ linked)).2.2.2.1
    exact other (only block (queue ▸ List.mem_cons_self))
  cases block with
  | sendCodeNet =>
    refine .unlinked queued few ?_ (unlinked (by decide))
    simp only [Registration.runBlock, sendCodeNet]
    split <;> simp [call, showAlert, isEnabledEverything, none]
  | checkCode =>
    refine .unlinked queued few ?_ (unlinked (by decide))
    simp [Registration.runBlock, checkCode, call, isEnabledEverything, none]
  | linkEmail =>
    have opened := h.queued.linking (queue ▸ List.mem_cons_self)
    refine .unlinked queued few ?_ (unlinked (by decide))
    simp only [Registration.runBlock, linkEmail]
    split
    · simp [refuse, showAlert, none]
    · split
      case isTrue current =>
        rintro email password asked
        rw [call, none, List.nil_append, List.mem_singleton] at asked
        cases asked
        exact ⟨rfl, opened, current⟩
      case isFalse => simp [none]
  | addInformation =>
    refine ⟨queued, few, ?_, fun linked => ?_⟩
    · simp only [Registration.runBlock, addInformation]
      split <;> simp [refuse, showAlert, none]
    · obtain ⟨information, opened, -, -, known, email⟩ := h.linked linked
      simp only [Registration.runBlock, addInformation]
      split
      all_goals exact ⟨information, opened, none, List.forall_mem_nil _, known, email⟩

/-- After an answer nothing is due, and no account has been linked before it. -/
theorem OneEmail.answered (h : OneEmail (s, log)) (answers : e.answers = true)
    (taken : s.step e = some t) : t.blocks = [] ∧ t.calls = [] ∧ log.linked = false := by
  obtain ⟨index, authCall, here, kept⟩ := kept_of_answers answers taken
  have one : s.blocks.length + s.calls.length ≤ 1 := h.one
  have bound := (List.getElem?_eq_some_iff.mp here).1
  have fewer : (s.answered index).calls.length = s.calls.length - 1 :=
    List.length_eraseIdx_of_lt bound
  refine ⟨?_, ?_, ?_⟩
  · rw [kept.blocks]
    exact List.length_eq_zero_iff.mp (show s.blocks.length = 0 by omega)
  · rw [kept.calls]
    exact List.length_eq_zero_iff.mp (by omega)
  · by_contra linked
    have none : s.calls = [] := (h.linked (Bool.not_eq_false _ ▸ linked)).2.2.1
    rw [none] at bound
    exact absurd bound (Nat.not_lt_zero _)

theorem OneEmail.fail (h : OneEmail (s, log)) {index : ℕ} {error : String} {signsOut : Bool}
    (taken : s.step (.fail index error signsOut) = some t) : OneEmail (t, log) := by
  obtain ⟨blocks, calls, unlinked⟩ := h.answered rfl taken
  exact .unlinked (h.queued.step taken) (by simp [blocks, calls]) (by simp [calls]) unlinked

theorem OneEmail.succeed (h : OneEmail (s, log)) {index : ℕ} {account : AuthUser}
    (taken : s.step (.succeed index account) = some t) :
    OneEmail (t, note s (.succeed index account) log) := by
  obtain ⟨blocks, calls, unlinked⟩ := h.answered rfl taken
  refine ⟨h.queued.step taken, by simp [blocks, calls], by simp [calls], fun linked => ?_⟩
  have links : s.links (.succeed index account) = true := by
    simpa [note, unlinked] using linked
  obtain ⟨authCall, here, rfl⟩ := Option.map_eq_some_iff.mp taken
  simp only [Registration.links, here] at links
  cases authCall with
  | verifyPhoneNumber | signIn => cases links
  | link email password =>
    obtain ⟨same, opened, known⟩ := h.asked email password (List.mem_of_getElem? here)
    obtain ⟨user, current⟩ := Option.isSome_iff_exists.mp known
    dsimp only at same opened current
    refine ⟨rfl, opened, calls, by simp [blocks], rfl, ?_⟩
    change ((s.currentUser.map _).bind AuthUser.email) = some s.user.email
    rw [current, same]
    rfl

theorem OneEmail.step (h : OneEmail (s, log)) (turn : s.InTurn e) (taken : s.step e = some t) :
    OneEmail (t, note s e log) := by
  have unnoted (quiet : s.links e = false) (kept : OneEmail (t, log)) :
      OneEmail (t, note s e log) := by
    have linked : (note s e log).linked = log.linked := by simp [note, quiet]
    refine ⟨kept.queued, kept.one, kept.asked, fun now => ?_⟩
    exact kept.linked (linked ▸ now)
  cases e with
  | typePhone | typeTexts | backPhone | alreadyHaveAccount =>
    have queued := h.queued.step taken
    obtain rfl := step_press taken
    exact unnoted rfl (h.same queued rfl rfl rfl rfl rfl rfl rfl)
  | nextPhone => exact unnoted rfl (h.nextPhone turn taken)
  | nextEmail => exact unnoted rfl (h.nextEmail turn taken)
  | runBlock now =>
    refine unnoted rfl ?_
    cases queue : s.blocks with
    | nil => simp [Registration.step, queue] at taken
    | cons block rest =>
      simp only [Registration.step, queue, Option.some.injEq] at taken
      exact taken ▸ h.runBlock queue now
  | fail => exact unnoted rfl (h.fail taken)
  | succeed => exact h.succeed taken
  | viewDidAppear =>
    have queued := h.queued.step taken
    obtain ⟨-, appears⟩ := Option.ite_none_right_eq_some.mp taken
    obtain rfl := Option.some.inj appears
    refine unnoted rfl (h.same queued ?_ ?_ ?_ ?_ ?_ ?_ ?_)
    all_goals
      rw [viewDidAppear]
      split <;> rfl

/-- What a run of `addInformation` writes. -/
theorem OneEmail.writesLinked (h : OneEmail (s, log)) : WritesLinked (s, log) e := by
  intro uid informed linked t taken
  cases e with
  | runBlock now =>
    dsimp only [informs] at informed
    cases queue : s.blocks with
    | nil => simp [queue] at informed
    | cons block rest =>
      obtain ⟨-, -, -, only, known, email⟩ := h.linked linked
      obtain rfl := only block (queue ▸ List.mem_cons_self)
      simp only [queue, Option.mem_def] at informed
      obtain ⟨⟨named, surnamed⟩, own⟩ := Option.ite_none_right_eq_some.mp informed
      obtain rfl := Option.some.inj own
      simp only [Registration.step, queue, Option.some.injEq] at taken
      subst taken
      obtain ⟨account, current, address⟩ := Option.bind_eq_some_iff.mp email
      refine ⟨known.symm, account, current, ?_, ?_⟩
      · dsimp only at current
        rw [Registration.uid, current]
        rfl
      · rw [address, Registration.runBlock, addInformation, if_neg (by simp [named, surnamed])]
        dsimp only
        rw [Registration.uid, Registration.uid, Function.update_self,
          textAt_updateChildValues_of_lookup (by rfl) _]
  | _ => cases informed

end Emails

/-- In every run of a registration whose buttons are pressed one at a time, whatever else the
user does and Firebase answers: once an account is linked, every record that `addInformation`
writes is that of the user who is signed in, and holds the e-mail that was linked. -/
theorem record_has_linked_email {users : String → Option Dictionary}
    {currentUser : Option AuthUser} {events : List Event}
    (turns : EveryStep (watch step note) (fun sm e => sm.1.InTurn e)
      ({ users := users, currentUser := currentUser }, {}) events) :
    EveryStep (watch step note) WritesLinked ({ users := users, currentUser := currentUser }, {})
      events := by
  have start : OneEmail ({ users := users, currentUser := currentUser }, {}) :=
    ⟨⟨nofun, nofun⟩, Nat.zero_le 1, nofun, nofun⟩
  refine EveryStep.of_invariant (I := OneEmail) (G := fun sm e => sm.1.InTurn e)
    (watch_kept_of_guard ?_) ?_ start turns
  · intro s log e t h turn taken
    exact h.step turn taken
  · rintro ⟨s, log⟩ e h -
    exact h.writesLinked

/-- The whole way, with a wrong repeated password at first. -/
def linkedThenNamed : List Event :=
  [.typePhone "+7 (123) 456-78-99", .nextPhone, .runBlock 0, .succeed 0 ⟨"u", none, none⟩,
   .typePhone "123456", .nextPhone, .runBlock 0, .succeed 0 ⟨"u", none, none⟩,
   .typeTexts "a@b.c" "secret" "other", .nextEmail, .runBlock 0,
   .typeTexts "d@b.c" "secret" "secret", .nextEmail, .runBlock 0,
   .succeed 0 ⟨"u", none, none⟩, .typeTexts "N" "S" "", .nextEmail]

theorem record_has_linked_email_linkedThenNamed : ∃ sm : Registration × Log,
    exec (watch step note) ({ users := fun _ => none }, {}) linkedThenNamed = some sm ∧
      sm.2.linked = true ∧ sm.1.informs (.runBlock 0) = some "u" ∧
        WritesLinked sm (.runBlock 0) := by
  have reached : (exec (watch step note) ({ users := fun _ => none }, {}) linkedThenNamed).map
      (fun sm => (sm.2.linked, sm.1.informs (.runBlock 0))) = some (true, some "u") := by
    decide +kernel
  have turns : EveryStep (watch step note) (fun sm e => sm.1.InTurn e)
      ({ users := fun _ => none }, {}) (linkedThenNamed ++ [.runBlock 0]) := by
    decide +kernel
  obtain ⟨sm, run, values⟩ := Option.map_eq_some_iff.mp reached
  obtain ⟨linked, informed⟩ := Prod.mk.inj values
  exact ⟨sm, run, linked, informed, (record_has_linked_email turns).of_append run⟩

/-- The code is sent twice; the second answer enables the controls while a link is under way. -/
def linkedTwice : List Event :=
  [.typePhone "+7 (123) 456-78-99", .nextPhone, .runBlock 0, .succeed 0 ⟨"u", none, none⟩,
   .typePhone "123456", .nextPhone, .nextPhone, .runBlock 0, .runBlock 0,
   .succeed 0 ⟨"u", none, none⟩, .typeTexts "a@b.c" "secret" "secret", .nextEmail, .runBlock 0,
   .succeed 0 ⟨"u", none, none⟩, .typeTexts "d@b.c" "secret" "secret", .nextEmail, .runBlock 0,
   .succeed 0 ⟨"u", none, none⟩, .typeTexts "N" "S" "", .nextEmail]

/-- The record then has the e-mail of the link that is still under way. -/
theorem not_always_linked_email : ¬ ∀ events,
    EveryStep (watch step note) WritesLinked ({ users := fun _ => none }, {}) events := by
  intro always
  have reached : (exec (watch step note) ({ users := fun _ => none }, {}) linkedTwice).bind
      (fun sm => (sm.1.step (.runBlock 0)).map fun t =>
        ((sm.2.linked, sm.1.informs (.runBlock 0)), sm.1.currentUser.bind AuthUser.email,
          textAt (t.users "u") "email")) =
      some ((true, some "u"), some "a@b.c", "d@b.c") := by decide +kernel
  obtain ⟨sm, run, last⟩ := Option.bind_eq_some_iff.mp reached
  obtain ⟨t, taken, values⟩ := Option.map_eq_some_iff.mp last
  simp only [Prod.mk.injEq] at values
  obtain ⟨⟨linked, informed⟩, address, stored⟩ := values
  obtain ⟨-, account, current, -, email⟩ :=
    (always (linkedTwice ++ [.runBlock 0])).of_append run "u" informed linked t taken
  rw [current, Option.bind_some, email, stored] at address
  exact absurd (Option.some.inj address) (by decide)

end Registration

end OnMap
