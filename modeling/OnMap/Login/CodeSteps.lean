/-
# A number, then a code

Two screens of the account ask for a phone number and then, in the same field, for the
code that was sent to it. Both keep the step in a flag `which` that the first press of
"Next" sets, whatever becomes of the number. What a press does is a closure on the main
queue; the reply to a `sendCode` comes at any later time.

So the second press checks a code even if no code has been sent.
-/

import OnMap.Library.Transition
import OnMap.Login.PhoneNumber

namespace OnMap

open Transition

/-- What the table shows above, below and in the empty field. -/
structure Prompt where
  header : String := ""
  footer : String := ""
  text : String := ""

/-- The calls of `NetworkingService`. -/
inductive ServiceCall
  | sendCode (text : Text)
  | reauth (codeForCheck : Text)
  | updatePhone (codeForCheck : Text)

/-- The call has a code checked. -/
def ServiceCall.checks : ServiceCall → Bool
  | .sendCode _ => false
  | .reauth _ | .updatePhone _ => true

/-- The closures of `nextTo` before and after `which` is set, and that of `reloadTable`. -/
inductive CodeBlock | phone | code | reloadData
  deriving DecidableEq

/-- Either screen. `main` is the main queue, `unanswered` counts the `sendCode`s without a
reply. Only a `NewPhoneViewController` has `newPhone`. -/
structure CodeScreen where
  prompt : Prompt := {}
  phoneTextField : Text := []
  which : Bool := false
  newPhone : Text := []
  main : List CodeBlock := []
  unanswered : ℕ := 0
  calls : List ServiceCall := []
  alerts : List (String × String) := []

namespace CodeScreen

/-! ### What the screens share -/

def async (s : CodeScreen) (block : CodeBlock) : CodeScreen := { s with main := s.main ++ [block] }

def nextTo (s : CodeScreen) : CodeScreen :=
  if s.which = false then { s with which := true }.async .phone else s.async .code

def call (s : CodeScreen) (call : ServiceCall) : CodeScreen :=
  { s with calls := s.calls ++ [call] }

/-- `verifyPhoneNumber` has been asked. -/
def sendCode (s : CodeScreen) (text : Text) : CodeScreen :=
  { s.call (.sendCode text) with unanswered := s.unanswered + 1 }

def showAlert (s : CodeScreen) (title message : String) : CodeScreen :=
  { s with alerts := s.alerts ++ [(title, message)] }

/-- `sendCodeReturn`, with the prompt for the code. -/
def sendCodeReturn (asksCode : Prompt) (s : CodeScreen) (b : Bool) : CodeScreen :=
  if b then { s with prompt := asksCode }.async .reloadData
  else s.showAlert "Ошибка" "Неверный номер телефона"

/-- `cellForRowAt` sets the field up anew, which empties it. -/
def reloadData (s : CodeScreen) : CodeScreen := { s with phoneTextField := [] }

end CodeScreen

open CodeScreen UITextField

namespace ChangePhoneViewController

def viewDidLoad : CodeScreen where
  prompt :=
    { header := "Старый номер телефона"
      footer := "Мы отправим вам код для подтверждения\n\nНедавняя авторизация нужна для всех " ++
        "действий с аккаунтом, связанных с изменением информации о пользователе"
      text := "+7 (123) 456-78-99" }

/-- The closure of the first step; `getPhone` is the number of the account. -/
def phone (s : CodeScreen) (getPhone : Text) : Option CodeScreen :=
  (getRealPhone s.phoneTextField).map fun phone =>
    if phone ≠ getPhone then s.showAlert "Ошибка" "Неверный номер" else s.sendCode phone

def code (s : CodeScreen) : CodeScreen := s.call (.reauth s.phoneTextField)

def sendCodeReturn : CodeScreen → Bool → CodeScreen :=
  CodeScreen.sendCodeReturn
    { header := "Ваш код", footer := "Мы отправили код для подтверждения", text := "код" }

end ChangePhoneViewController

namespace NewPhoneViewController

def viewDidLoad : CodeScreen where
  prompt :=
    { header := "New phone", footer := "We will send you verification code"
      text := "+7 (123) 456-78-99" }

def phone (s : CodeScreen) : Option CodeScreen :=
  (getRealPhone s.phoneTextField).map fun newPhone =>
    { s with newPhone := newPhone }.sendCode newPhone

def code (s : CodeScreen) : CodeScreen := s.call (.updatePhone s.phoneTextField)

def sendCodeReturn : CodeScreen → Bool → CodeScreen :=
  CodeScreen.sendCodeReturn { header := "", footer := "We have sent you SMS", text := "code" }

end NewPhoneViewController

/-- The class of a screen. -/
inductive CodeScreenClass
  | changePhoneViewController
  | newPhoneViewController

namespace CodeScreenClass

def viewDidLoad : CodeScreenClass → CodeScreen
  | changePhoneViewController => ChangePhoneViewController.viewDidLoad
  | newPhoneViewController => NewPhoneViewController.viewDidLoad

def phone (s : CodeScreen) (getPhone : Text) : CodeScreenClass → Option CodeScreen
  | changePhoneViewController => ChangePhoneViewController.phone s getPhone
  | newPhoneViewController => NewPhoneViewController.phone s

def code (s : CodeScreen) : CodeScreenClass → CodeScreen
  | changePhoneViewController => ChangePhoneViewController.code s
  | newPhoneViewController => NewPhoneViewController.code s

def sendCodeReturn (s : CodeScreen) (b : Bool) : CodeScreenClass → CodeScreen
  | changePhoneViewController => ChangePhoneViewController.sendCodeReturn s b
  | newPhoneViewController => NewPhoneViewController.sendCodeReturn s b

end CodeScreenClass

namespace CodeScreen

/-- What can happen: a press of "Next", an edit of the field, the next closure of the main
queue, with the number of the account by then, and a reply to a `sendCode`. -/
inductive Event
  | nextTo
  | edit (text : Text)
  | run (getPhone : Text)
  | sendCodeReturn (b : Bool)

def step (c : CodeScreenClass) (s : CodeScreen) : Event → Option CodeScreen
  | .nextTo => some s.nextTo
  | .edit text => some { s with phoneTextField := text }
  | .run getPhone =>
    match s.main with
    | [] => none
    | .phone :: rest => c.phone { s with main := rest } getPhone
    | .code :: rest => some (c.code { s with main := rest })
    | .reloadData :: rest => some { s with main := rest }.reloadData
  | .sendCodeReturn b =>
    if 0 < s.unanswered then some (c.sendCodeReturn { s with unanswered := s.unanswered - 1 } b)
    else none

/-- What has happened: the closure of a press has run, a code was sent, and the number was
rejected or did not match after the last press. -/
structure Progress where
  ran : Bool := false
  answered : Bool := false
  failed : Bool := false

/-- The closure of a press is next on the main queue. -/
def RunsPress (s : CodeScreen) : Prop := ∃ block ∈ s.main.head?, block ≠ .reloadData

instance (s : CodeScreen) : Decidable s.RunsPress :=
  inferInstanceAs (Decidable (∃ block ∈ s.main.head?, _))

/-- The closure that is next finds another number than the account's. -/
def mismatches (s : CodeScreen) (getPhone : Text) : CodeScreenClass → Bool
  | .changePhoneViewController =>
    s.main.head? = some .phone ∧ getRealPhone s.phoneTextField ≠ some getPhone
  | .newPhoneViewController => false

def note (c : CodeScreenClass) (s : CodeScreen) (e : Event) (p : Progress) : Progress :=
  match e with
  | .nextTo => { p with failed := false }
  | .edit _ => p
  | .run getPhone =>
    { p with ran := p.ran || decide s.RunsPress, failed := p.failed || s.mismatches getPhone c }
  | .sendCodeReturn b => { p with answered := p.answered || b, failed := p.failed || !b }

/-- A code is checked only after one was sent, and a press after a failure handles the
field as a number. -/
def ChecksSent (c : CodeScreenClass) (sp : CodeScreen × Progress) (e : Event) : Prop :=
  (∀ t, step c sp.1 e = some t → ∀ call, t.calls = sp.1.calls ++ [call] → call.checks = true →
    sp.2.answered = true) ∧
  (e = .nextTo → sp.2.failed = true → sp.1.nextTo.main = sp.1.main ++ [.phone])

/-- The closure of a second press runs only after a code was sent, and "Next" is not
pressed after a failure. -/
def InOrder (sp : CodeScreen × Progress) : Event → Prop
  | .nextTo => sp.2.failed = false
  | .run _ => sp.1.RunsPress → sp.2.ran = true → sp.2.answered = true
  | _ => True

/-! ### What the closures keep -/

section Steps

variable {c : CodeScreenClass} {s t : CodeScreen} {p : Progress} {e : Event} {getPhone : Text}
  {b : Bool} {rest : List CodeBlock}

/-- The closures of presses on the main queue. -/
def presses (s : CodeScreen) : List CodeBlock := s.main.filter (· ≠ .reloadData)

theorem runsPress_cons {block : CodeBlock} (queue : s.main = block :: rest) :
    s.RunsPress ↔ block ≠ .reloadData := by
  simp [RunsPress, queue]

theorem presses_cons {block : CodeBlock} (queue : s.main = block :: rest)
    (press : block ≠ .reloadData) : s.presses = block :: { s with main := rest }.presses := by
  simp [presses, queue, press]

theorem presses_async (s : CodeScreen) (block : CodeBlock) :
    (s.async block).presses = s.presses ++ [block].filter (· ≠ .reloadData) :=
  List.filter_append ..

theorem presses_nextTo (s : CodeScreen) :
    s.nextTo.presses = s.presses ++ [if s.which = false then .phone else .code] := by
  rw [CodeScreen.nextTo]
  split
  · exact presses_async ..
  · exact presses_async ..

@[simp] theorem which_nextTo (s : CodeScreen) : s.nextTo.which = true := by
  rw [CodeScreen.nextTo]
  split
  case isTrue => rfl
  case isFalse set => exact Bool.not_eq_false _ ▸ set

/-- The first closure sends a code at most. -/
theorem phone_kept (taken : c.phone s getPhone = some t) : t.which = s.which ∧
    t.main = s.main ∧ (t.calls = s.calls ∨ ∃ text, t.calls = s.calls ++ [.sendCode text]) := by
  cases c with
  | changePhoneViewController =>
    obtain ⟨phone, -, rfl⟩ := Option.map_eq_some_iff.mp taken
    split
    · exact ⟨rfl, rfl, Or.inl rfl⟩
    · exact ⟨rfl, rfl, Or.inr ⟨phone, rfl⟩⟩
  | newPhoneViewController =>
    obtain ⟨phone, -, rfl⟩ := Option.map_eq_some_iff.mp taken
    exact ⟨rfl, rfl, Or.inr ⟨phone, rfl⟩⟩

/-- The second closure has a code checked. -/
theorem code_kept (c : CodeScreenClass) (s : CodeScreen) : (c.code s).which = s.which ∧
    (c.code s).main = s.main ∧
    ∃ call, (c.code s).calls = s.calls ++ [call] ∧ call.checks = true := by
  cases c <;> exact ⟨rfl, rfl, _, rfl, rfl⟩

/-- The reply changes what is shown. -/
theorem sendCodeReturn_kept (c : CodeScreenClass) (s : CodeScreen) (b : Bool) :
    (c.sendCodeReturn s b).which = s.which ∧
      (c.sendCodeReturn s b).presses = s.presses ∧ (c.sendCodeReturn s b).calls = s.calls := by
  cases c <;> cases b <;>
    simp [CodeScreenClass.sendCodeReturn, ChangePhoneViewController.sendCodeReturn,
      NewPhoneViewController.sendCodeReturn, CodeScreen.sendCodeReturn, showAlert, async, presses]

/-! ### Only the first press handles a number -/

/-- The first press queues the closure for the number, all others queue the one for the
code; nothing fails before the first. -/
structure Tracks (sp : CodeScreen × Progress) : Prop where
  start : sp.1.which = false →
    sp.1.presses = [] ∧ sp.1.unanswered = 0 ∧ sp.2.ran = false ∧ sp.2.failed = false
  first : sp.1.which = true → sp.2.ran = false →
    ∃ later, sp.1.presses = .phone :: later ∧ ∀ block ∈ later, block = .code
  later : sp.2.ran = true → ∀ block ∈ sp.1.presses, block = .code

theorem tracks_viewDidLoad (c : CodeScreenClass) : Tracks (c.viewDidLoad, {}) := by
  cases c <;> exact ⟨fun _ => ⟨rfl, rfl, rfl, rfl⟩, nofun, nofun⟩

theorem Tracks.nextTo (h : Tracks (s, p)) : Tracks (s.nextTo, { p with failed := false }) := by
  have queued := presses_nextTo s
  refine ⟨fun unset => absurd ((which_nextTo s).symm.trans unset) nofun, fun _ ran => ?_,
    fun ran => ?_⟩
  · cases which : s.which with
    | false =>
      -- the first press
      rw [which, if_pos rfl, (h.start which).1] at queued
      exact ⟨[], queued, nofun⟩
    | true =>
      rw [which, if_neg nofun] at queued
      obtain ⟨later, front, codes⟩ := h.first which ran
      refine ⟨later ++ [.code], by rw [queued, front, List.cons_append], ?_⟩
      simpa [or_imp, forall_and] using codes
  · cases which : s.which with
    | false => exact absurd ((h.start which).2.2.1.symm.trans ran) nofun
    | true =>
      rw [which, if_neg nofun] at queued
      rw [queued]
      simpa [or_imp, forall_and] using h.later ran

/-- What keeps the flag and the presses keeps the record, as long as no screen without a
press gets a reply or fails. -/
theorem Tracks.keeps (h : Tracks (s, p)) {q : Progress} (which : t.which = s.which)
    (presses : t.presses = s.presses) (ran : q.ran = p.ran)
    (start : s.which = false → t.unanswered = 0 ∧ q.failed = false) : Tracks (t, q) := by
  refine ⟨fun unset => ?_, fun set fresh => ?_, fun later => ?_⟩
  · have before := which.symm.trans unset
    obtain ⟨none, -, fresh, -⟩ := h.start before
    exact ⟨presses.trans none, (start before).1, ran.trans fresh, (start before).2⟩
  · obtain ⟨later, front, codes⟩ := h.first (which.symm.trans set) (ran.symm.trans fresh)
    exact ⟨later, presses.trans front, codes⟩
  · intro block mem
    exact h.later (ran.symm.trans later) block (presses ▸ mem)

/-- The closure of a press is queued by a press. -/
theorem Tracks.which_of_press (h : Tracks (s, p)) {block : CodeBlock}
    (queue : s.main = block :: rest) (press : block ≠ .reloadData) : s.which = true := by
  by_contra unset
  have none := (h.start (Bool.not_eq_true _ ▸ unset)).1
  rw [presses_cons queue press] at none
  cases none

/-- A press's closure has run: only codes are left. -/
theorem Tracks.runs (h : Tracks (s, p)) {q : Progress} {block : CodeBlock}
    (queue : s.main = block :: rest) (press : block ≠ .reloadData) (which : t.which = s.which)
    (main : t.main = rest) (ran : q.ran = true) : Tracks (t, q) := by
  have presses : s.presses = block :: t.presses := by
    rw [presses_cons queue press, CodeScreen.presses, CodeScreen.presses, main]
  have set : s.which = true := h.which_of_press queue press
  refine ⟨fun unset => ?_, fun _ fresh => absurd (ran.symm.trans fresh) nofun, fun _ => ?_⟩
  · exact absurd (set.symm.trans (which.symm.trans unset)) nofun
  · intro other mem
    cases before : p.ran with
    | true => exact h.later before other (presses ▸ List.mem_cons_of_mem _ mem)
    | false =>
      -- the one closure for a number was in front, and has run now
      obtain ⟨later, front, codes⟩ := h.first set before
      rw [presses, List.cons.injEq] at front
      exact codes other (front.2 ▸ mem)

/-- Running the table's closure is no event of the record. -/
theorem note_reloadData (c : CodeScreenClass) (queue : s.main = .reloadData :: rest)
    (getPhone : Text) (p : Progress) : note c s (.run getPhone) p = p := by
  have idle : decide s.RunsPress = false := by simp [runsPress_cons queue]
  have same : s.mismatches getPhone c = false := by cases c <;> simp [mismatches, queue]
  rw [note, idle, same, Bool.or_false, Bool.or_false]

theorem ran_note {block : CodeBlock} (queue : s.main = block :: rest)
    (press : block ≠ .reloadData) (c : CodeScreenClass) (getPhone : Text) (p : Progress) :
    (note c s (.run getPhone) p).ran = true := by
  have runs : decide s.RunsPress = true := by simp [runsPress_cons queue, press]
  rw [note, runs, Bool.or_true]

theorem Tracks.run (h : Tracks (s, p)) (taken : s.step c (.run getPhone) = some t) :
    Tracks (t, note c s (.run getPhone) p) := by
  rw [CodeScreen.step] at taken
  split at taken
  case h_1 => cases taken
  case h_2 rest queue =>
    obtain ⟨which, main, -⟩ := phone_kept taken
    exact h.runs queue nofun which main (ran_note queue nofun c getPhone p)
  case h_3 rest queue =>
    obtain rfl := Option.some.inj taken
    obtain ⟨which, main, -⟩ := code_kept c { s with main := rest }
    exact h.runs queue nofun which main (ran_note queue nofun c getPhone p)
  case h_4 rest queue =>
    obtain rfl := Option.some.inj taken
    rw [note_reloadData c queue]
    have presses : { s with main := rest }.reloadData.presses = s.presses := by
      simp [CodeScreen.presses, reloadData, queue]
    exact h.keeps rfl presses rfl fun unset => ⟨(h.start unset).2.1, (h.start unset).2.2.2⟩

theorem Tracks.step (h : Tracks (s, p)) (taken : s.step c e = some t) :
    Tracks (t, note c s e p) := by
  cases e with
  | nextTo =>
    obtain rfl := Option.some.inj taken
    exact h.nextTo
  | edit text =>
    obtain rfl := Option.some.inj taken
    exact h.keeps rfl rfl rfl fun unset => ⟨(h.start unset).2.1, (h.start unset).2.2.2⟩
  | run getPhone => exact h.run taken
  | sendCodeReturn b =>
    obtain ⟨asked, taken⟩ := Option.ite_none_right_eq_some.mp taken
    obtain rfl := Option.some.inj taken
    obtain ⟨which, presses, -⟩ :=
      sendCodeReturn_kept c { s with unanswered := s.unanswered - 1 } b
    refine h.keeps which presses rfl fun unset => ?_
    exact absurd (h.start unset).2.1 (Nat.ne_of_gt asked)

/-! ### When a code is checked -/

/-- A step that is no press and makes no call checks nothing. -/
theorem checksSent_of_calls_eq (other : e ≠ .nextTo)
    (same : ∀ t, s.step c e = some t → t.calls = s.calls) : ChecksSent c (s, p) e := by
  refine ⟨fun t taken call called => ?_, fun press => absurd press other⟩
  rw [same t taken] at called
  exact absurd called (by simp)

/-- A press asks for a number exactly if nothing has failed since the press before. -/
theorem Tracks.checksSent_nextTo (h : Tracks (s, p)) :
    ChecksSent c (s, p) .nextTo ↔ p.failed = false := by
  constructor
  · rintro ⟨-, asks⟩
    by_contra failed
    have queue := asks rfl (Bool.not_eq_false _ ▸ failed)
    -- something has failed, so there was a press before
    cases which : s.which with
    | false => exact failed (h.start which).2.2.2
    | true => simp [CodeScreen.nextTo, which, async] at queue
  · intro fine
    refine ⟨fun t taken call called => ?_, fun _ failed => ?_⟩
    · have same : s.nextTo.calls = s.calls := by
        rw [CodeScreen.nextTo]
        split <;> rfl
      obtain rfl := Option.some.inj taken
      rw [same] at called
      exact absurd called (by simp)
    · exact absurd (fine.symm.trans failed) nofun

/-- The closure of a later press has a code checked. -/
theorem Tracks.checksSent_run (h : Tracks (s, p)) :
    ChecksSent c (s, p) (.run getPhone) ↔
      (s.RunsPress → p.ran = true → p.answered = true) := by
  cases queue : s.main with
  | nil =>
    refine iff_of_true (checksSent_of_calls_eq nofun fun t taken => ?_) fun press => ?_
    · simp [CodeScreen.step, queue] at taken
    · simp [RunsPress, queue] at press
  | cons block rest =>
    rw [runsPress_cons queue]
    cases block with
    | phone =>
      -- this is the closure of the first press
      have fresh (press : CodeBlock.phone ≠ .reloadData) : p.ran ≠ true := fun ran => by
        have mem : .phone ∈ s.presses := presses_cons queue press ▸ List.mem_cons_self
        exact absurd (h.later ran .phone mem) nofun
      refine iff_of_true ⟨fun t taken call called checks => ?_, nofun⟩
        fun press ran => absurd ran (fresh press)
      simp only [CodeScreen.step, queue] at taken
      obtain ⟨-, -, same | ⟨text, sent⟩⟩ := phone_kept taken
      · rw [same] at called
        exact absurd called (by simp)
      · obtain rfl : .sendCode text = call := by simpa using sent.symm.trans called
        cases checks
    | code =>
      -- the closure for the number has run before this one
      have ran : p.ran = true := by
        by_contra fresh
        obtain ⟨later, front, -⟩ :=
          h.first (h.which_of_press queue nofun) (Bool.not_eq_true _ ▸ fresh)
        rw [presses_cons queue nofun] at front
        cases front
      obtain ⟨-, -, check, made, checks⟩ := code_kept c { s with main := rest }
      have taken : s.step c (.run getPhone) = some (c.code { s with main := rest }) := by
        simp only [CodeScreen.step, queue]
      constructor
      · exact fun sent _ _ => sent.1 _ taken check made checks
      · exact fun answered => ⟨fun _ _ _ _ _ => answered nofun ran, nofun⟩
    | reloadData =>
      refine iff_of_true (checksSent_of_calls_eq nofun fun t taken => ?_)
        fun press => absurd rfl press
      simp only [CodeScreen.step, queue] at taken
      obtain rfl := Option.some.inj taken
      rfl

theorem Tracks.checksSent_iff (h : Tracks (s, p)) :
    ChecksSent c (s, p) e ↔ InOrder (s, p) e := by
  cases e with
  | nextTo => exact h.checksSent_nextTo
  | run getPhone => exact h.checksSent_run
  | edit text =>
    refine iff_of_true (checksSent_of_calls_eq nofun fun t taken => ?_) trivial
    obtain rfl := Option.some.inj taken
    rfl
  | sendCodeReturn b =>
    refine iff_of_true (checksSent_of_calls_eq nofun fun t taken => ?_) trivial
    obtain ⟨-, taken⟩ := Option.ite_none_right_eq_some.mp taken
    obtain rfl := Option.some.inj taken
    exact (sendCodeReturn_kept c { s with unanswered := s.unanswered - 1 } b).2.2

theorem tracks_watch (c : CodeScreenClass) :
    ∀ sp e tq, Tracks sp → watch (step c) (note c) sp e = some tq → Tracks tq :=
  watch_kept fun _ _ _ _ h taken => h.step taken

end Steps

/-- Codes are checked only after one was sent, and numbers are asked for again after a
failure, exactly in the runs in which no second press comes too early and none follows a
failure. -/
theorem checks_sent_iff (c : CodeScreenClass) (events : List Event) :
    EveryStep (watch (step c) (note c)) (ChecksSent c) (c.viewDidLoad, {}) events ↔
      EveryStep (watch (step c) (note c)) InOrder (c.viewDidLoad, {}) events :=
  everyStep_congr_of_invariant (tracks_watch c) (fun _ _ h => h.checksSent_iff)
    (tracks_viewDidLoad c) events

/-- "Next" is pressed twice; the first of the two closures has sent the number. -/
def pressedTwice : List Event := [.edit ["+", "7"], .nextTo, .nextTo, .run ["+", "7"]]

/-- The second closure does not wait for the reply. -/
theorem not_checks_sent :
    (¬ EveryStep (watch (step .changePhoneViewController) (note .changePhoneViewController))
      (ChecksSent .changePhoneViewController)
      (ChangePhoneViewController.viewDidLoad, {}) (pressedTwice ++ [.run ["+", "7"]])) ∧
    ¬ EveryStep (watch (step .newPhoneViewController) (note .newPhoneViewController))
      (ChecksSent .newPhoneViewController)
      (NewPhoneViewController.viewDidLoad, {}) (pressedTwice ++ [.run ["+", "7"]]) := by
  constructor <;> intro sent
  · have last := (sent.of_append (t := _) rfl).1
    exact absurd (last _ rfl (.reauth ["+", "7"]) rfl rfl) (by decide)
  · have last := (sent.of_append (t := _) rfl).1
    exact absurd (last _ rfl (.updatePhone ["+", "7"]) rfl rfl) (by decide)

end CodeScreen

end OnMap
