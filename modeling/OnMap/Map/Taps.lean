/-
# Taps on the pins

A tap on a pin asks the messenger whether a chat of the pin's title exists. If so the screen
of the chat is pushed; if not an alert is shown and the pin is taken off the map. So a tap
takes off pins only that no chat in the list has the name of, and the pins that are left
over when entries leave the list can be tapped away, one by one, unless a chat of the same
name has been added in the meantime: then a tap on the old pin opens the new chat.

The pins are the entries and those left over, however taps, completions, long presses and
deletions come in between.
-/

import OnMap.Library.Progress
import OnMap.Map.MapViewController

namespace OnMap

open Transition

/-- What the map screen shows on a tap. -/
inductive Presented
  | chatRoomViewController (nameOfDiscussion : String)
  | alert (message action : String)
  deriving DecidableEq, Repr

namespace MapScreen

/-- `presentDuscussionViewController` -/
def presentDuscussionViewController : Option String → List Presented
  | none => []
  | some name => [.chatRoomViewController name]

/-- `mapView(_:didSelect:)` for the view of a pin; `none` is the forced unwrapping of a
missing title. -/
def didSelect (s : MapScreen) (pin : PinChat) : Option (MapScreen × List Presented) :=
  match pin.title with
  | none => none
  | some name =>
    if s.theMessenger.chatIsExist name then some (s, presentDuscussionViewController (some name))
    else some ({ s with view := s.view.removeAnnotation pin },
      [.alert "Упс, в чат войти не удалось" "cancel"])

/-- What happens on the map screen, taps on its pins included. -/
inductive TapEvent
  | change (event : Event)
  | didSelect (index : ℕ)

/-- The map screen and what it has presented. -/
structure Tapped where
  screen : MapScreen := {}
  presented : List Presented := []

def tapStep (s : Tapped) : TapEvent → Option Tapped
  | .change event => (s.screen.step event).map fun screen => { s with screen := screen }
  | .didSelect index => do
    let pin ← s.screen.view.annotations[index]?
    let result ← s.screen.didSelect pin
    return ⟨result.1, s.presented ++ result.2⟩

/-- Title and coordinate of a pin. -/
def label (pin : PinChat) : Option String × CLLocationCoordinate2D := (pin.title, pin.coordinate)

/-- Name and place of an entry. -/
def labelOf (info : ChatInfo) : Option String × CLLocationCoordinate2D :=
  (some info.name, ⟨info.xCoordinate, info.yCoordinate⟩)

/-- Record the pins that are left over: those of entries that have left the list, until a
completion makes all pins anew or a tap takes one off. -/
def noteStale (s : Tapped) (e : TapEvent) (stale : List (Option String × CLLocationCoordinate2D)) :
    List (Option String × CLLocationCoordinate2D) :=
  let chats := s.screen.theMessenger.chatInformationArray
  match e with
  | .change (.chatsReply none) => stale ++ s.screen.listed
  | .change (.chatsReply (some _)) => []
  | .change (.chatsChange (.modified _ _)) => stale
  | .change (.chatsChange _) => []
  | .change (.didLongPressMap ..) => stale
  | .change (.deleteChat name) =>
    stale ++ ((chats.find? fun info => info.name == name).map labelOf).toList
  | .didSelect index =>
    match s.screen.view.annotations[index]? with
    | none => stale
    | some pin =>
      if chats.any fun info => some info.name == pin.title then stale else stale.erase (label pin)

/-- The pins on the map are the entries and the pins left over, and each has a title. -/
structure Covers (s : MapScreen) (stale : List (Option String × CLLocationCoordinate2D)) :
    Prop where
  pinned : s.pinned.Perm (s.listed ++ stale)
  titled : ∀ pin ∈ s.view.annotations, pin.title.isSome = true

section Steps

variable {s t : MapScreen} {stale : List (Option String × CLLocationCoordinate2D)}

theorem Covers.pinsAreChats_iff (h : s.Covers stale) : s.PinsAreChats ↔ stale = [] := by
  constructor
  · intro same
    have lengths := (h.pinned.symm.trans same).length_eq
    rw [List.length_append] at lengths
    exact List.length_eq_zero_iff.mp (by omega)
  · rintro rfl
    have same := h.pinned
    rwa [List.append_nil] at same

/-- A completion leaves nothing over. -/
theorem covers_anew {m : FirestoreMessenger} {view view' : MapViewController}
    (anew : MapViewController.completion m (some view) = some view') : Covers ⟨m, view'⟩ [] := by
  refine ⟨by rw [List.append_nil]; exact tracks_anew anew, ?_⟩
  rw [MapViewController.completion, Option.bind_some, MapViewController.setupAnotations_eq] at anew
  obtain rfl := Option.some.inj anew
  intro pin hpin
  obtain ⟨info, -, rfl⟩ := List.mem_map.mp hpin
  rfl

/-- Entries that leave the list without a completion leave their pins over. -/
theorem Covers.loses (h : s.Covers stale) {m : FirestoreMessenger} {gone : List ChatInfo}
    (left : s.theMessenger.chatInformationArray.Perm (gone ++ m.chatInformationArray)) :
    Covers { s with theMessenger := m } (stale ++ gone.map labelOf) := by
  refine ⟨?_, h.titled⟩
  have listed : s.listed.Perm (gone.map labelOf ++ listed { s with theMessenger := m }) := by
    have labels := left.map labelOf
    rwa [List.map_append] at labels
  -- the labels of what has gone move from the list to what is left over
  refine h.pinned.trans ((listed.append_right stale).trans ?_)
  rw [List.append_assoc]
  refine List.perm_append_comm.trans ?_
  rw [List.append_assoc]

theorem Covers.chatsReply (h : s.Covers stale) {reply : Option (List Dictionary)}
    {presented : List Presented} (taken : s.step (.chatsReply reply) = some t) :
    t.Covers (noteStale ⟨s, presented⟩ (.change (.chatsReply reply)) stale) := by
  cases reply with
  | some documents =>
    obtain ⟨view, anew, rfl⟩ := Option.map_eq_some_iff.mp taken
    exact covers_anew anew
  | none =>
    obtain rfl := Option.some.inj taken
    -- the whole list is gone, and every pin is left over
    exact h.loses (m := s.theMessenger.handleChatsReply none)
      (List.Perm.of_eq (List.append_nil s.theMessenger.chatInformationArray).symm)

theorem Covers.chatsChange (h : s.Covers stale) {change : DocumentChange}
    {presented : List Presented} (taken : s.step (.chatsChange change) = some t) :
    t.Covers (noteStale ⟨s, presented⟩ (.change (.chatsChange change)) stale) := by
  obtain ⟨result, closure, taken⟩ := Option.bind_eq_some_iff.mp taken
  obtain ⟨view, shown, rfl⟩ := Option.map_eq_some_iff.mp taken
  obtain ⟨m, handled, rfl⟩ := Option.map_eq_some_iff.mp closure
  cases change with
  | added | removed => exact covers_anew shown
  | modified =>
    -- the closure has no branch for a modified document
    obtain rfl := Option.some.inj handled
    obtain rfl := Option.some.inj shown
    exact h

theorem Covers.didLongPressMap (h : s.Covers stale) (name : String)
    (pressCoordinate : CLLocationCoordinate2D) (now : Date) (roomID chatID : String) :
    (s.didLongPressMap name pressCoordinate now roomID chatID).Covers stale := by
  rw [MapScreen.didLongPressMap, FirestoreMessenger.addChat]
  split
  case isTrue => exact h
  case isFalse =>
    rw [if_pos rfl]
    refine ⟨?_, fun pin hpin => ?_⟩
    · simp only [MapScreen.pinned, MapScreen.listed, MapViewController.addAnnotation,
        List.map_append, List.map_cons, List.map_nil, List.append_assoc]
      -- the new label stands before those left over in the list, and after them on the map
      refine (h.pinned.append_right _).trans ?_
      rw [List.append_assoc]
      exact List.Perm.append_left _ List.perm_append_comm
    · rcases List.mem_append.mp hpin with old | new
      · exact h.titled pin old
      · rw [List.mem_singleton.mp new]
        rfl

theorem Covers.deleteChat (h : s.Covers stale) {name : String} {presented : List Presented}
    (taken : s.step (.deleteChat name) = some t) :
    t.Covers (noteStale ⟨s, presented⟩ (.change (.deleteChat name)) stale) := by
  obtain ⟨result, deleted, rfl⟩ := Option.map_eq_some_iff.mp taken
  obtain ⟨info, found, rfl⟩ := FirestoreMessenger.deleteChat_eq_some_iff.mp deleted
  have noted : noteStale ⟨s, presented⟩ (.change (.deleteChat name)) stale =
      stale ++ [info].map labelOf := by
    rw [noteStale, found]
    rfl
  rw [noted]
  refine h.loses ?_
  -- the entry found is the one taken out
  obtain ⟨hit, before, after, list, passed⟩ := List.find?_eq_some_iff_append.mp found
  have first : ∀ other ∈ before, other.name ≠ name := fun other hother => by
    simpa using passed other hother
  rw [list, (FirestoreMessenger.first_of_name first (beq_iff_eq.mp hit)).2]
  exact List.perm_middle

/-- A tap does nothing to the pins, or takes one off that no entry has the name of. -/
theorem Covers.didSelect (h : s.Covers stale) {index : ℕ} {pin : PinChat}
    (tapped : s.view.annotations[index]? = some pin) {result : MapScreen × List Presented}
    (taken : s.didSelect pin = some result) {presented : List Presented} :
    result.1.Covers (noteStale ⟨s, presented⟩ (.didSelect index) stale) := by
  have here : pin ∈ s.view.annotations := List.mem_of_getElem? tapped
  obtain ⟨name, title⟩ := Option.isSome_iff_exists.mp (h.titled pin here)
  have named : (s.theMessenger.chatInformationArray.any fun info => some info.name == pin.title) =
      s.theMessenger.chatIsExist name := by
    rw [title, FirestoreMessenger.chatIsExist]
    refine congrArg _ (funext fun info => ?_)
    exact Option.some_beq_some
  simp only [MapScreen.didSelect, title] at taken
  rw [noteStale, tapped]
  simp only [named]
  split at taken
  case isTrue listed =>
    obtain rfl := Option.some.inj taken
    rwa [if_pos listed]
  case isFalse unlisted =>
    obtain rfl := Option.some.inj taken
    rw [if_neg unlisted]
    refine ⟨?_, fun other hother => h.titled other (List.mem_of_mem_erase hother)⟩
    have labels : s.pinned.Perm
        (label pin :: (s.view.annotations.erase pin).map label) :=
      (List.perm_cons_erase here).map label
    -- the label of the pin is no entry's, so it is among those left over
    have surplus : label pin ∈ stale := by
      refine (List.mem_append.mp (h.pinned.subset (List.mem_map_of_mem here))).resolve_left ?_
      intro entry
      obtain ⟨info, hinfo, same⟩ := List.mem_map.mp entry
      refine unlisted (FirestoreMessenger.chatIsExist_iff.mpr ⟨info, hinfo, ?_⟩)
      exact Option.some.inj ((congrArg Prod.fst same).trans title)
    refine List.Perm.cons_inv (a := label pin) (labels.symm.trans (h.pinned.trans ?_))
    exact ((List.perm_cons_erase surplus).append_left _).trans List.perm_middle

/-- Every step keeps the count of the pins. -/
theorem Covers.step {s t : Tapped} {e : TapEvent} (h : s.screen.Covers stale)
    (taken : tapStep s e = some t) : t.screen.Covers (noteStale s e stale) := by
  cases e with
  | change event =>
    obtain ⟨screen, moved, rfl⟩ := Option.map_eq_some_iff.mp taken
    cases event with
    | chatsReply reply => exact h.chatsReply moved
    | chatsChange change => exact h.chatsChange moved
    | didLongPressMap name pressCoordinate now roomID chatID =>
      obtain rfl := Option.some.inj moved
      exact h.didLongPressMap name pressCoordinate now roomID chatID
    | deleteChat name => exact h.deleteChat moved
  | didSelect index =>
    obtain ⟨pin, tapped, taken⟩ := Option.bind_eq_some_iff.mp taken
    obtain ⟨result, selected, taken⟩ := Option.bind_eq_some_iff.mp taken
    obtain rfl := Option.some.inj taken
    exact h.didSelect tapped selected

end Steps

/-! ### Tapping pins away -/

/-- A tap on a pin. -/
def IsTap : TapEvent → Prop
  | .didSelect _ => True
  | .change _ => False

/-- Some entry has the title of the pin for its name. -/
def Opens (m : FirestoreMessenger) (pin : PinChat) : Bool :=
  m.chatInformationArray.any fun info => some info.name == pin.title

section Taps

variable {s t : Tapped} {stale : List (Option String × CLLocationCoordinate2D)}

/-- A tap on a pin with a title is no trap. It presents the screen of the chat, or an alert,
and then the pin is gone. -/
theorem exists_didSelect (titled : ∀ pin ∈ s.screen.view.annotations, pin.title.isSome = true)
    {index : ℕ} {pin : PinChat} (tapped : s.screen.view.annotations[index]? = some pin) :
    ∃ t, tapStep s (.didSelect index) = some t ∧
      t.screen.theMessenger = s.screen.theMessenger ∧
      if Opens s.screen.theMessenger pin then
        t.screen.view = s.screen.view ∧
          t.presented = s.presented ++ presentDuscussionViewController pin.title
      else
        t.screen.view = s.screen.view.removeAnnotation pin ∧
          t.presented = s.presented ++ [.alert "Упс, в чат войти не удалось" "cancel"] := by
  obtain ⟨name, title⟩ := Option.isSome_iff_exists.mp (titled pin (List.mem_of_getElem? tapped))
  have named : Opens s.screen.theMessenger pin = s.screen.theMessenger.chatIsExist name := by
    rw [Opens, title, FirestoreMessenger.chatIsExist]
    exact congrArg _ (funext fun info => Option.some_beq_some)
  rw [named]
  cases listed : s.screen.theMessenger.chatIsExist name with
  | true =>
    refine ⟨⟨s.screen, s.presented ++ presentDuscussionViewController pin.title⟩, ?_, rfl, rfl, rfl⟩
    simp [tapStep, tapped, didSelect, title, listed]
  | false =>
    refine ⟨⟨{ s.screen with view := s.screen.view.removeAnnotation pin },
      s.presented ++ [.alert "Упс, в чат войти не удалось" "cancel"]⟩, ?_, rfl, rfl, rfl⟩
    simp [tapStep, tapped, didSelect, title, listed]

/-- The pins with the title of no entry can be tapped away, and no others. -/
theorem exists_tapped_away
    (titled : ∀ pin ∈ s.screen.view.annotations, pin.title.isSome = true) :
    ∃ t, Reaches tapStep IsTap s t ∧ t.screen.theMessenger = s.screen.theMessenger ∧
      t.screen.view.annotations =
        s.screen.view.annotations.filter (Opens s.screen.theMessenger) := by
  let m := s.screen.theMessenger
  let opening := s.screen.view.annotations.filter (Opens m)
  obtain ⟨t, reached, ⟨same, -, kept⟩, none⟩ := exists_reaches_work_eq_zero
    tapStep (fun u => u.screen.view.annotations.countP fun pin => !Opens m pin) (L := IsTap)
    (I := fun u => u.screen.theMessenger = m ∧
      (∀ pin ∈ u.screen.view.annotations, pin.title.isSome = true) ∧
        u.screen.view.annotations.filter (Opens m) = opening)
    (fun u ⟨same, titled, kept⟩ left => by
      obtain ⟨pin, hpin, stray⟩ := List.countP_pos_iff.mp left
      obtain ⟨index, tapped⟩ := List.getElem?_of_mem hpin
      obtain ⟨t, taken, messenger, shown⟩ := exists_didSelect titled tapped
      rw [same, if_neg (by simpa using stray)] at shown
      refine ⟨.didSelect index, t, trivial, taken, ⟨messenger.trans same, ?_, ?_⟩, ?_⟩
      · rw [shown.1]
        exact fun other hother => titled other (List.mem_of_mem_erase hother)
      · rw [shown.1, MapViewController.removeAnnotation, ← List.erase_filter, kept]
        -- the pin tapped away was not among those that open a chat
        refine List.erase_of_not_mem fun mem => ?_
        rw [(List.mem_filter.mp mem).2] at stray
        cases stray
      · have counted := List.countP_cons_of_pos (p := fun pin => !Opens m pin)
          (l := u.screen.view.annotations.erase pin) stray
        rw [shown.1, MapViewController.removeAnnotation, (List.perm_cons_erase hpin).countP_eq,
          counted]
        exact Nat.lt_succ_self _)
    ⟨rfl, titled, rfl⟩
  refine ⟨t, reached, same, ?_⟩
  refine (List.filter_eq_self.mpr fun pin hpin => ?_).symm.trans kept
  simpa using List.countP_eq_zero.mp none pin hpin

theorem covers_init : Covers {} [] := ⟨List.Perm.nil, nofun⟩

/-- The count is kept by every step. -/
theorem covers_kept (sm : Tapped × List (Option String × CLLocationCoordinate2D)) (e : TapEvent)
    (tn : Tapped × List (Option String × CLLocationCoordinate2D))
    (h : sm.1.screen.Covers sm.2) (taken : watch tapStep noteStale sm e = some tn) :
    tn.1.screen.Covers tn.2 := by
  obtain ⟨moved, noted⟩ := watch_eq_some.mp taken
  exact noted ▸ h.step moved

theorem exists_covers {events : List TapEvent} (run : exec tapStep {} events = some s) :
    ∃ stale, s.screen.Covers stale := by
  obtain ⟨stale, watched⟩ := exists_exec_watch noteStale [] run
  exact ⟨stale, exec_invariant (I := fun sm => sm.1.screen.Covers sm.2) covers_kept covers_init
    watched⟩

end Taps

/-- In every run of the map screen, the pins on the map are the entries of the list and those
left over, so every chat has its pin; and no tap traps, whatever pin it is on: it presents the
chat of the pin's title if the list has one, and otherwise takes the pin off. -/
theorem pins_cover (events : List TapEvent) :
    EveryState (watch tapStep noteStale) (fun sm =>
      sm.1.screen.pinned.Perm (sm.1.screen.listed ++ sm.2) ∧
      (sm.1.screen.PinsAreChats ↔ sm.2 = []) ∧
      ∀ (index : ℕ) pin, sm.1.screen.view.annotations[index]? = some pin →
        ∃ t, tapStep sm.1 (.didSelect index) = some t ∧
          t.screen.theMessenger = sm.1.screen.theMessenger ∧
          if Opens sm.1.screen.theMessenger pin then
            t.screen.view = sm.1.screen.view ∧
              t.presented = sm.1.presented ++ presentDuscussionViewController pin.title
          else
            t.screen.view = sm.1.screen.view.removeAnnotation pin ∧
              t.presented = sm.1.presented ++ [.alert "Упс, в чат войти не удалось" "cancel"])
      ({}, []) events :=
  EveryState.of_invariant (I := fun sm => sm.1.screen.Covers sm.2) covers_kept
    (fun _ h => ⟨h.pinned, h.pinsAreChats_iff, fun _ _ => exists_didSelect h.titled⟩) covers_init
    events

/-- In every reachable state the pins that open no chat can be tapped away, and only those.
After that the pins are the chats exactly if no pin too many has the name of a chat. -/
theorem tapped_away {s : Tapped} {events : List TapEvent}
    (run : exec tapStep {} events = some s) :
    ∃ t, Reaches tapStep IsTap s t ∧ t.screen.theMessenger = s.screen.theMessenger ∧
      t.screen.view.annotations =
        s.screen.view.annotations.filter (Opens s.screen.theMessenger) ∧
      (t.screen.PinsAreChats ↔
        (s.screen.view.annotations.filter (Opens s.screen.theMessenger)).length =
          s.screen.theMessenger.numberOfChats) := by
  obtain ⟨_, h⟩ := exists_covers run
  obtain ⟨t, reached, same, left⟩ := exists_tapped_away h.titled
  refine ⟨t, reached, same, left, ?_⟩
  obtain ⟨taps, -, tapped⟩ := reached
  obtain ⟨stale, covers⟩ := exists_covers (show exec tapStep {} (events ++ taps) = some t by
    rw [exec_append, run]
    exact tapped)
  have count := covers.pinned.length_eq
  rw [List.length_append, pinned, listed, List.length_map, List.length_map, same, left] at count
  rw [covers.pinsAreChats_iff, FirestoreMessenger.numberOfChats, ← List.length_eq_zero_iff]
  omega

/-- A chat is deleted and added again elsewhere, and another one is deleted: the second old
pin can be tapped away, the first one opens the new chat. -/
def deletedTwice : List TapEvent :=
  [.change (.didLongPressMap "дом" ⟨⟨1⟩, ⟨1⟩⟩ 1 "r1" "c1"),
   .change (.didLongPressMap "сад" ⟨⟨2⟩, ⟨2⟩⟩ 2 "r2" "c2"), .change (.deleteChat "дом"),
   .change (.deleteChat "сад"), .change (.didLongPressMap "дом" ⟨⟨3⟩, ⟨3⟩⟩ 3 "r3" "c3")]

theorem tapped_away_deletedTwice : ∃ s t, exec tapStep {} deletedTwice = some s ∧
    Reaches tapStep IsTap s t ∧ t.screen.view.annotations.length = 2 ∧
      ¬ t.screen.PinsAreChats := by
  obtain ⟨s, run, opening, chats⟩ : ∃ s, exec tapStep {} deletedTwice = some s ∧
      (s.screen.view.annotations.filter (Opens s.screen.theMessenger)).length = 2 ∧
      s.screen.theMessenger.numberOfChats = 1 := ⟨_, rfl, by decide, by decide⟩
  obtain ⟨t, reached, -, left, same⟩ := tapped_away run
  refine ⟨s, t, run, reached, by rw [left, opening], fun pins => ?_⟩
  rw [same, opening, chats] at pins
  exact absurd pins (by decide)

end MapScreen

end OnMap
