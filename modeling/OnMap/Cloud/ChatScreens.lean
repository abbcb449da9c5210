/-
# Chat screens and the listener of the open room

A chat screen opens a room and sets up its listener in `viewDidLoad`; it closes the
room when it is deallocated, which closures that retain it can delay past the next
screen's `viewDidLoad`, and once more when its delete button is pressed. All screens
share the messenger's one `listenerChat` and its one cached room, so a close takes
effect on whatever is open by then, and a listener that the slot has lost stays
registered for good.
-/

import OnMap.Cloud.Calls
import OnMap.Library.Transition

namespace OnMap

open Transition

variable {κ : Type}

/-- A `ChatRoomViewController`: its name, the room of the chat that it was opened for,
whether its `viewDidLoad` has set up a listener, and whether its delete button has
closed the room. -/
structure ChatScreen where
  nameOfDiscussion : String
  room : Option String
  listens : Bool
  closed : Bool := false

/-- The screen that is shown, and those dismissed and not deallocated yet. -/
structure ChatScreens where
  shown : Option ChatScreen := none
  retained : List ChatScreen := []

/-- What happens to the screens of one client; everything else that any device does. -/
inductive ScreenAction (κ : Type)
  | viewDidLoad (name : String)
  | pop
  | didClickDeleteButton
  | deinit (index : ℕ)
  | other (action : Action κ)

/-- The calls that only a chat screen makes. -/
def Event.ofScreens : Event → Bool
  | .startDiscussRoom _ | .loadDiscussionRoom | .setupObserverChatRoom | .closeDiscussRoom => true
  | _ => false

/-- One client calls methods in a row. -/
def Cloud.calls [DecidableEq κ] (s : Cloud κ) (c : κ) (events : List Event) : Option (Cloud κ) :=
  exec Cloud.step s (events.map (Action.mk c))

namespace ChatScreens

section Machine

variable [DecidableEq κ]

/-- `viewDidLoad`: `ModelChatRoom(name:)`, `loadInfoForTable` and `setupObserver`. -/
def viewDidLoad (c : κ) (sm : Cloud κ × ChatScreens) (name : String) :
    Option (Cloud κ × ChatScreens) :=
  let found := (sm.1.devices c).messenger.chatInformationArray.find? fun info => info.name == name
  -- `startDiscussRoom` asks for the room, and `loadInfoForTable` once more
  (sm.1.calls c [.startDiscussRoom name, .loadDiscussionRoom, .setupObserverChatRoom]).map fun s =>
    let listens := (s.devices c).messenger.idDiscussion.isSome
    (s, ⟨some ⟨name, found.map ChatInfo.chatLink, listens, false⟩, sm.2.retained⟩)

/-- The alert of the delete button: `deleteChat`, `closeDiscussRoom`, then the screen is
popped. -/
def didClickDeleteButton (c : κ) (sm : Cloud κ × ChatScreens) (screen : ChatScreen) :
    Option (Cloud κ × ChatScreens) :=
  (sm.1.calls c [.deleteChat screen.nameOfDiscussion, .closeDiscussRoom]).map fun s =>
    (s, ⟨none, sm.2.retained ++ [{ screen with closed := true }]⟩)

/-- A screen is pushed from the map, where no other one is shown. -/
def step (c : κ) (sm : Cloud κ × ChatScreens) : ScreenAction κ → Option (Cloud κ × ChatScreens)
  | .viewDidLoad name => if sm.2.shown.isSome then none else viewDidLoad c sm name
  | .pop => sm.2.shown.map fun screen => (sm.1, ⟨none, sm.2.retained ++ [screen]⟩)
  | .didClickDeleteButton => sm.2.shown.bind (didClickDeleteButton c sm)
  | .deinit index => (sm.2.retained[index]?).bind fun _ =>
    (sm.1.calls c [.closeDiscussRoom]).map fun s =>
      (s, { sm.2 with retained := sm.2.retained.eraseIdx index })
  | .other a =>
    if a.client = c ∧ a.event.ofScreens = true then none
    else (sm.1.step a).map fun s => (s, sm.2)

end Machine

/-- The one listener is that of the room that is shown, and none is left when all
screens are gone. -/
structure OneListener (c : κ) (sm : Cloud κ × ChatScreens) : Prop where
  shown : ∀ screen ∈ sm.2.shown, ∀ room ∈ screen.room, ∃ registration,
    (sm.1.devices c).registrations = [(registration, room)] ∧
      (sm.1.devices c).messenger.listenerChat = some registration
  silent : sm.2.shown = none → sm.2.retained = [] → (sm.1.devices c).registrations = []

/-- A screen that is deallocated leaves the room that is shown alone. -/
def SparesShown (c : κ) (sm : Cloud κ × ChatScreens) (a : ScreenAction κ)
    (t : Cloud κ × ChatScreens) : Prop :=
  ∀ index, a = .deinit index → ∀ screen ∈ sm.2.shown, screen.room ≠ none →
    (t.1.devices c).registrations = (sm.1.devices c).registrations ∧
      (t.1.devices c).messenger.currentChatRoom = (sm.1.devices c).messenger.currentChatRoom

/-- The listener discipline of one step. -/
def Disciplined [DecidableEq κ] (c : κ) (sm : Cloud κ × ChatScreens) (a : ScreenAction κ) : Prop :=
  ∀ t, step c sm a = some t → OneListener c t ∧ SparesShown c sm a t

/-- Every screen that listens is closed before the next one loads, and no screen is
deallocated while a room is shown. -/
def ClosesInTime (sm : Cloud κ × ChatScreens) : ScreenAction κ → Prop
  | .viewDidLoad _ => ∀ screen ∈ sm.2.retained, screen.listens = true → screen.closed = true
  | .deinit _ => ∀ screen ∈ sm.2.shown, screen.room = none
  | _ => True

instance (sm : Cloud κ × ChatScreens) : DecidablePred (ClosesInTime sm)
  | .viewDidLoad _ => inferInstanceAs (Decidable (∀ screen ∈ sm.2.retained, _))
  | .deinit _ => inferInstanceAs (Decidable (∀ screen ∈ sm.2.shown, screen.room = none))
  | .pop | .didClickDeleteButton | .other _ => isTrue trivial

end ChatScreens

/-! ### What the screens' calls do to the listener -/

section Calls

variable [DecidableEq κ] {s t : Cloud κ} {c : κ} {a : Action κ} {event : Event}

theorem Cloud.calls_cons {rest : List Event} (h : s.calls c (event :: rest) = some t) :
    ∃ u, s.step ⟨c, event⟩ = some u ∧ u.calls c rest = some t :=
  exec_cons_eq_some.mp h

theorem Cloud.calls_nil (h : s.calls c [] = some t) : s = t := Option.some.inj h

/-- The listeners are a matter of the chat screens. -/
theorem Cloud.step_listener (h : s.step a = some t)
    (aside : ¬ (a.client = c ∧ a.event.ofScreens = true)) :
    (t.devices c).registrations = (s.devices c).registrations ∧
      (t.devices c).messenger.listenerChat = (s.devices c).messenger.listenerChat := by
  obtain ⟨client, event⟩ := a
  by_cases acting : client = c
  · subst acting
    have taken := Cloud.step_device h
    by_cases away : event.leavesRoom = true
    · have same := Device.step_sameRoom taken away
      exact ⟨same.registrations, same.listenerChat⟩
    generalize t.devices client = d' at taken ⊢
    cases event with
    | sendMessage owner message now =>
      rw [(Device.step_of_method rfl taken).trans (Device.call_sendMessage ..)]
      exact ⟨rfl, rfl⟩
    | answerRoom index =>
      obtain ⟨_, -, rfl⟩ := Device.step_answerRoom taken
      exact ⟨rfl, rfl⟩
    | raiseRoom index =>
      obtain ⟨_, _, -, rfl⟩ := Device.step_raiseRoom taken
      exact ⟨rfl, rfl⟩
    | runRoom index =>
      obtain ⟨callback, -, rfl⟩ := Device.step_runRoom taken
      exact ⟨rfl, Device.runRoomCallback_listenerChat _ callback⟩
    | startDiscussRoom | loadDiscussionRoom | setupObserverChatRoom | closeDiscussRoom =>
      exact absurd ⟨rfl, rfl⟩ aside
    | _ => exact absurd rfl away
  · rw [Cloud.step_devices_of_ne h (Ne.symm acting)]
    exact ⟨rfl, rfl⟩

/-- A close removes the listener in the slot. -/
theorem Cloud.step_closeDiscussRoom (h : s.step ⟨c, .closeDiscussRoom⟩ = some t) :
    (t.devices c).registrations = (s.devices c).registrations.filter fun live =>
      some live.1 ≠ (s.devices c).messenger.listenerChat := by
  have after := (Device.step_of_method rfl (Cloud.step_device h)).trans
    (Device.call_closeDiscussRoom ..)
  exact congrArg Device.registrations after

/-- Loading a screen adds a listener of the room that is open by then, if any, and
fills the slot with it. -/
theorem Cloud.calls_viewDidLoad {name : String}
    (h : s.calls c [.startDiscussRoom name, .loadDiscussionRoom, .setupObserverChatRoom] = some t) :
    (∀ info, ((s.devices c).messenger.chatInformationArray.find? fun info => info.name == name) =
        some info → (t.devices c).messenger.idDiscussion = some info.chatLink) ∧
      (((t.devices c).messenger.idDiscussion = none ∧
          (t.devices c).registrations = (s.devices c).registrations) ∨
        ∃ registration room, (t.devices c).messenger.idDiscussion = some room ∧
          (t.devices c).registrations = (s.devices c).registrations ++ [(registration, room)] ∧
          (t.devices c).messenger.listenerChat = some registration) := by
  obtain ⟨started, hstart, h⟩ := Cloud.calls_cons h
  obtain ⟨asked, hask, h⟩ := Cloud.calls_cons h
  obtain ⟨_, hlisten, h⟩ := Cloud.calls_cons h
  obtain rfl := Cloud.calls_nil h
  have opens := Device.step_of_method rfl (Cloud.step_device hstart)
  have asks := Device.step_of_method rfl (Cloud.step_device hask)
  have listens := Device.step_of_method rfl (Cloud.step_device hlisten)
  -- neither opening the room nor asking for it touches the listeners
  have silent : (asked.devices c).registrations = (s.devices c).registrations := by
    obtain ⟨_, _, opened⟩ := Device.call_startDiscussRoom s.documents (s.devices c) name
    obtain ⟨_, loaded⟩ := Device.call_loadDiscussionRoom started.documents (started.devices c)
    rw [asks.trans loaded, opens.trans opened]
  have chosen (info : ChatInfo) (found : ((s.devices c).messenger.chatInformationArray.find?
      fun info => info.name == name) = some info) :
      (asked.devices c).messenger.idDiscussion = some info.chatLink := by
    rw [Device.step_idDiscussion (Cloud.step_device hask) nofun, opens, Device.call_messenger,
      FirestoreMessenger.startDiscussRoom_idDiscussion, found]
    rfl
  have kept := Device.step_idDiscussion (Cloud.step_device hlisten) nofun
  refine ⟨fun info found => kept.trans (chosen info found), ?_⟩
  rw [kept, ← silent]
  rcases Device.call_setupObserverChatRoom asked.documents (asked.devices c) with
    ⟨closed, after⟩ | ⟨room, opened, after⟩
  · exact Or.inl ⟨closed, congrArg Device.registrations (listens.trans after)⟩
  · have registered := listens.trans after
    exact Or.inr ⟨_, room, opened, congrArg Device.registrations registered,
      congrArg (fun d => d.messenger.listenerChat) registered⟩

end Calls

namespace ChatScreens

variable {sm tn : Cloud κ × ChatScreens} {c : κ} {a : ScreenAction κ}

/-- Every screen that is not deallocated yet. -/
def all (screens : ChatScreens) : List ChatScreen := screens.shown.toList ++ screens.retained

/-- There is at most one listener, the slot holds it, it is that of the room that is
shown, and some screen that has not closed it yet set it up. -/
structure Tidy (c : κ) (sm : Cloud κ × ChatScreens) : Prop where
  single : (sm.1.devices c).registrations = [] ∨ ∃ registration room,
    (sm.1.devices c).registrations = [(registration, room)] ∧
      (sm.1.devices c).messenger.listenerChat = some registration
  owed : (sm.1.devices c).registrations ≠ [] →
    ∃ screen ∈ sm.2.all, screen.listens = true ∧ screen.closed = false
  shows : ∀ screen ∈ sm.2.shown, ∀ room ∈ screen.room, ∃ registration,
    (sm.1.devices c).registrations = [(registration, room)] ∧
      (sm.1.devices c).messenger.listenerChat = some registration

theorem Tidy.oneListener (h : Tidy c sm) : OneListener c sm where
  shown := h.shows
  silent dismissed deallocated := by
    by_contra left
    obtain ⟨screen, present, -⟩ := h.owed left
    simp [all, dismissed, deallocated] at present

/-- Without listeners only the screen that is shown matters. -/
theorem Tidy.of_silent (silent : (sm.1.devices c).registrations = [])
    (shows : ∀ screen ∈ sm.2.shown, screen.room = none) : Tidy c sm where
  single := Or.inl silent
  owed left := absurd silent left
  shows screen shown room here := by
    rw [shows screen shown] at here
    cases here

section Steps

variable [DecidableEq κ]

/-- A close removes the one listener there may be. -/
theorem Tidy.silent_of_close {s t : Cloud κ} (h : Tidy c sm)
    (registrations : (s.devices c).registrations = (sm.1.devices c).registrations)
    (listenerChat : (s.devices c).messenger.listenerChat =
      (sm.1.devices c).messenger.listenerChat)
    (closes : s.step ⟨c, .closeDiscussRoom⟩ = some t) : (t.devices c).registrations = [] := by
  rw [Cloud.step_closeDiscussRoom closes, registrations, listenerChat]
  rcases h.single with silent | ⟨registration, room, live, slot⟩
  · rw [silent, List.filter_nil]
  · simp [live, slot]

/-- A screen loads after every other one has closed its room. -/
theorem Tidy.viewDidLoad (h : Tidy c sm) {name : String} (dismissed : sm.2.shown = none)
    (closed : ClosesInTime sm (.viewDidLoad name))
    (loads : ChatScreens.viewDidLoad c sm name = some tn) : Tidy c tn := by
  simp only [ChatScreens.viewDidLoad, Option.map_eq_some_iff] at loads
  obtain ⟨t, calls, rfl⟩ := loads
  have silent : (sm.1.devices c).registrations = [] := by
    by_contra left
    obtain ⟨screen, present, listens, open_⟩ := h.owed left
    have retained : screen ∈ sm.2.retained := by simpa [all, dismissed] using present
    exact Bool.false_ne_true (open_.symm.trans (closed screen retained listens))
  obtain ⟨opens, ⟨away, registrations⟩ | ⟨registration, room, opened, registrations, slot⟩⟩ :=
    Cloud.calls_viewDidLoad calls
  · refine .of_silent (registrations.trans silent) fun screen shown => ?_
    obtain rfl := Option.some.inj shown
    -- a chat of the name would have opened its room
    cases found : (sm.1.devices c).messenger.chatInformationArray.find? (·.name == name) with
    | none => rfl
    | some info => exact absurd (away.symm.trans (opens info found)) nofun
  · rw [silent, List.nil_append] at registrations
    refine ⟨Or.inr ⟨registration, room, registrations, slot⟩, fun _ => ?_, ?_⟩
    · exact ⟨_, List.mem_cons_self, by simp [opened], rfl⟩
    · intro screen shown shownRoom here
      obtain rfl := Option.some.inj shown
      obtain ⟨info, found, rfl⟩ := Option.map_eq_some_iff.mp here
      obtain rfl := Option.some.inj (opened.symm.trans (opens info found))
      exact ⟨registration, registrations, slot⟩

/-- One step of the screens, of the messenger or of another device. -/
theorem Tidy.step (h : Tidy c sm) (closed : ClosesInTime sm a)
    (taken : ChatScreens.step c sm a = some tn) : Tidy c tn := by
  cases a with
  | viewDidLoad name =>
    simp only [ChatScreens.step, Option.ite_none_left_eq_some, Option.not_isSome_iff_eq_none]
      at taken
    exact h.viewDidLoad taken.1 closed taken.2
  | pop =>
    obtain ⟨screen, shown, rfl⟩ := Option.map_eq_some_iff.mp taken
    refine { h with owed := fun left => ?_, shows := nofun }
    obtain ⟨other, present, open_⟩ := h.owed left
    refine ⟨other, ?_, open_⟩
    simpa [all, shown, or_comm] using present
  | didClickDeleteButton =>
    obtain ⟨screen, shown, clicked⟩ := Option.bind_eq_some_iff.mp taken
    obtain ⟨t, calls, rfl⟩ := Option.map_eq_some_iff.mp clicked
    -- `deleteChat`, then `closeDiscussRoom`, which leaves no listener
    obtain ⟨deleted, deletes, rest⟩ := Cloud.calls_cons calls
    obtain ⟨_, closes, rest⟩ := Cloud.calls_cons rest
    obtain rfl := Cloud.calls_nil rest
    obtain ⟨registrations, listenerChat⟩ := Cloud.step_listener (c := c) deletes fun closing =>
      Bool.false_ne_true closing.2
    exact .of_silent (h.silent_of_close registrations listenerChat closes) nofun
  | deinit index =>
    obtain ⟨screen, retained, released⟩ := Option.bind_eq_some_iff.mp taken
    obtain ⟨t, calls, rfl⟩ := Option.map_eq_some_iff.mp released
    obtain ⟨_, closes, rest⟩ := Cloud.calls_cons calls
    obtain rfl := Cloud.calls_nil rest
    exact .of_silent (h.silent_of_close rfl rfl closes) closed
  | other action =>
    simp only [ChatScreens.step, Option.ite_none_left_eq_some] at taken
    obtain ⟨aside, taken⟩ := taken
    obtain ⟨t, hstep, rfl⟩ := Option.map_eq_some_iff.mp taken
    obtain ⟨registrations, listenerChat⟩ := Cloud.step_listener hstep aside
    constructor
    · simpa only [registrations, listenerChat] using h.single
    · simpa only [registrations] using h.owed
    · simpa only [registrations, listenerChat] using h.shows

/-- In every run from the start, of any devices and of any chat screens of client `c`:
if every screen that listens is closed before the next one loads and no screen is
deallocated while a room is shown, the listener discipline holds at every step. -/
theorem listener_disciplined {actions : List (ScreenAction κ)}
    (inTime : EveryStep (ChatScreens.step c) ClosesInTime (Cloud.init, {}) actions) :
    EveryStep (ChatScreens.step c) (Disciplined c) (Cloud.init, {}) actions := by
  have start : Tidy c ((Cloud.init, {}) : Cloud κ × ChatScreens) := .of_silent rfl nofun
  refine EveryStep.of_invariant (I := Tidy c) (fun _ _ _ => Tidy.step) ?_ start inTime
  intro sm a h closed tn taken
  refine ⟨(h.step closed taken).oneListener, ?_⟩
  rintro index rfl screen shown opened
  exact absurd (closed screen shown) opened

end Steps

/-- Two chats are made, and the screen of the first is shown and dismissed. -/
def firstDismissed : List (ScreenAction Bool) :=
  [.other ⟨true, .addChat "дом" ⟨0⟩ ⟨0⟩ 0 "r1" "c1"⟩,
   .other ⟨true, .addChat "двор" ⟨0⟩ ⟨0⟩ 0 "r2" "c2"⟩,
   .viewDidLoad "дом", .pop]

/-- It is deallocated, the screen of the second is shown and deletes its chat. -/
theorem listener_disciplined_deallocated :
    EveryStep (ChatScreens.step true) (Disciplined true) (Cloud.init, {})
      (firstDismissed ++ [.deinit 0, .viewDidLoad "двор", .didClickDeleteButton, .deinit 0]) :=
  listener_disciplined (by decide +kernel)

/-- It is retained while the screen of the second loads. -/
theorem not_always_disciplined :
    ¬ ∀ actions, EveryStep (ChatScreens.step true) (Disciplined true) (Cloud.init, {}) actions := by
  intro always
  have reached : (exec (ChatScreens.step true) (Cloud.init, {}) firstDismissed).bind
      (fun sm => (ChatScreens.step true sm (.viewDidLoad "двор")).map fun tn =>
        (tn.2.shown.bind ChatScreen.room, (tn.1.devices true).registrations)) =
      some (some "r2", [(0, "r1"), (1, "r2")]) := by decide +kernel
  obtain ⟨sm, run, loaded⟩ := Option.bind_eq_some_iff.mp reached
  obtain ⟨tn, loads, values⟩ := Option.map_eq_some_iff.mp loaded
  obtain ⟨room, registrations⟩ := Prod.mk.inj values
  obtain ⟨screen, shown, here⟩ := Option.bind_eq_some_iff.mp room
  have kept := ((always (firstDismissed ++ [.viewDidLoad "двор"])).of_append run tn loads).1
  obtain ⟨registration, one, -⟩ := kept.shown screen shown "r2" here
  exact absurd (registrations.symm.trans one) (by simp)

end ChatScreens

end OnMap
