/-
# The pins on the map

The map screen shows a pin for every chat. It is given two completions by which it hears
of the chats: that of the load and that of the chats listener, and each makes all pins
anew. A chat that is created by a long press gets its pin at once. A chat that leaves the
list in another way, by `deleteChat` or by a load that fails, keeps its pin until the next
completion.

The pins are kept twice, in `annotationsArray` and on the map itself. The observer of
`annotationsArray` takes pins off the map when the array gets shorter.
-/

import OnMap.Messenger.ChatsClosures
import OnMap.Library.Transition
import Mathlib.Data.List.Perm.Basic

namespace OnMap

open Transition

structure CLLocationCoordinate2D where
  latitude : Double
  longitude : Double
  deriving DecidableEq, Repr

structure PinChat where
  title : Option String
  locationName : String
  coordinate : CLLocationCoordinate2D
  deriving DecidableEq, Repr

/-- The pins of the screen, and the annotations of `mapView` that are pins. -/
structure MapViewController where
  annotationsArray : List PinChat := []
  annotations : List PinChat := []
  deriving DecidableEq, Repr

namespace MapViewController

def addAnnotation (s : MapViewController) (pin : PinChat) : MapViewController :=
  { s with annotations := s.annotations ++ [pin] }

def removeAnnotation (s : MapViewController) (pin : PinChat) : MapViewController :=
  { s with annotations := s.annotations.erase pin }

/-- `mapView.removeAnnotations` -/
def removeAnnotations (s : MapViewController) (pins : List PinChat) : MapViewController :=
  pins.foldl removeAnnotation s

/-- The observer `didSet` of `annotationsArray`. -/
def didSet (s : MapViewController) (oldValue : List PinChat) : MapViewController :=
  if s.annotationsArray.length < oldValue.length then
    -- the first pin whose title has changed, looked for below the new length
    let moved := (oldValue.zip s.annotationsArray).find? fun pins => pins.1.title ≠ pins.2.title
    let s := match moved with
      | some pins => s.removeAnnotation pins.1
      | none => s
    -- and the last pin in any case
    match oldValue.getLast? with
    | some pin => s.removeAnnotation pin
    | none => s
  else s

def setAnnotationsArray (s : MapViewController) (pins : List PinChat) : MapViewController :=
  { s with annotationsArray := pins }.didSet s.annotationsArray

/-- The pin of a chat, made of what `getInfoAboutChat` returns. -/
def pinOf (info : String × Date × Double × Double × String) : PinChat :=
  ⟨some info.1, "беседа", ⟨info.2.2.1, info.2.2.2.1⟩⟩

/-- The loop of `setupAnotations` at one index. -/
def setupAnotation (theMessenger : FirestoreMessenger) (s : MapViewController) (i : ℕ) :
    Option MapViewController := do
  let info ← theMessenger.getInfoAboutChat i
  let pin := pinOf info
  let s := s.setAnnotationsArray (s.annotationsArray ++ [pin])
  return s.addAnnotation pin

/-- `setupAnotations`; `none` is a subscript out of range. -/
def setupAnotations (s : MapViewController) (theMessenger : FirestoreMessenger) :
    Option MapViewController :=
  let s := s.setAnnotationsArray []
  let s := s.removeAnnotations s.annotations
  (List.range theMessenger.numberOfChats).foldlM
    (fun s index => setupAnotation theMessenger s index) s

/-- The completion that `viewDidLoad` gives to the messenger. -/
def completion (theMessenger : FirestoreMessenger) (s : Option MapViewController) :
    Option MapViewController :=
  s.bind fun s => s.setupAnotations theMessenger

/-! ### Making all pins anew -/

section Lemmas

variable {s : MapViewController} {m : FirestoreMessenger}

@[simp] theorem didSet_annotationsArray (s : MapViewController) (oldValue : List PinChat) :
    (s.didSet oldValue).annotationsArray = s.annotationsArray := by
  rw [didSet]
  split
  · dsimp only
    split <;> split <;> rfl
  · rfl

@[simp] theorem setAnnotationsArray_annotationsArray (s : MapViewController)
    (pins : List PinChat) : (s.setAnnotationsArray pins).annotationsArray = pins :=
  didSet_annotationsArray ..

/-- The observer leaves the map alone when the array grows. -/
theorem setAnnotationsArray_of_le {pins : List PinChat}
    (grows : s.annotationsArray.length ≤ pins.length) :
    s.setAnnotationsArray pins = { s with annotationsArray := pins } :=
  if_neg (Nat.not_lt_of_le grows)

/-- All annotations of the map are taken off. -/
theorem removeAnnotations_self (pinned pins : List PinChat) :
    removeAnnotations ⟨pinned, pins⟩ pins = ⟨pinned, []⟩ := by
  induction pins with
  | nil => rfl
  | cons pin rest ih =>
    rw [removeAnnotations, List.foldl_cons, removeAnnotation, List.erase_cons_head]
    exact ih

/-- The pins of the chats in the list. -/
def pinsOf (chats : List ChatInfo) : List PinChat :=
  chats.map fun info => pinOf (info.name, info.timeCreate, info.xCoordinate, info.yCoordinate,
    info.chatLink)

theorem length_pinsOf (chats : List ChatInfo) : (pinsOf chats).length = chats.length :=
  List.length_map ..

/-- One round of the loop puts the pin of its chat in both places. -/
theorem setupAnotation_of_lt {i : ℕ} (bound : i < (pinsOf m.chatInformationArray).length)
    (pinned pins : List PinChat) :
    setupAnotation m ⟨pinned, pins⟩ i =
      some ⟨pinned ++ [(pinsOf m.chatInformationArray)[i]],
        pins ++ [(pinsOf m.chatInformationArray)[i]]⟩ := by
  rw [length_pinsOf] at bound
  have present : m.chatInformationArray[i]? = some m.chatInformationArray[i] :=
    List.getElem?_eq_getElem bound
  have inside : ¬ ((i : ℤ) < 0) := by omega
  have grows (pin : PinChat) : (⟨pinned, pins⟩ : MapViewController).setAnnotationsArray
      (pinned ++ [pin]) = ⟨pinned ++ [pin], pins⟩ :=
    setAnnotationsArray_of_le (by simp)
  simp [FirestoreMessenger.getInfoAboutChat, FirestoreMessenger.element, inside, present, grows,
    setupAnotation, addAnnotation, pinsOf]

/-- The loop has pinned the chats below its index. -/
theorem setupAnotation_loop {n : ℕ} (bound : n ≤ (pinsOf m.chatInformationArray).length) :
    (List.range n).foldlM (fun s index => setupAnotation m s index) {} =
      some ⟨(pinsOf m.chatInformationArray).take n, (pinsOf m.chatInformationArray).take n⟩ := by
  induction n with
  | zero => rfl
  | succ n ih =>
    have next := setupAnotation_of_lt bound ((pinsOf m.chatInformationArray).take n)
      ((pinsOf m.chatInformationArray).take n)
    rw [List.take_append_getElem bound] at next
    rw [List.range_succ, List.foldlM_append, ih (Nat.le_of_succ_le bound)]
    simp [next]

/-- Whatever was pinned before, `setupAnotations` pins exactly the chats of the list. -/
theorem setupAnotations_eq (s : MapViewController) (m : FirestoreMessenger) :
    s.setupAnotations m =
      some ⟨pinsOf m.chatInformationArray, pinsOf m.chatInformationArray⟩ := by
  have cleared : (s.setAnnotationsArray []).removeAnnotations
      (s.setAnnotationsArray []).annotations = {} := by
    have empty : (s.setAnnotationsArray []).annotationsArray = [] :=
      setAnnotationsArray_annotationsArray ..
    generalize s.setAnnotationsArray [] = left at empty ⊢
    obtain ⟨pinned, pins⟩ := left
    obtain rfl : pinned = [] := empty
    exact removeAnnotations_self [] pins
  have all := setupAnotation_loop (Nat.le_refl (pinsOf m.chatInformationArray).length)
  rw [List.take_length] at all
  rw [setupAnotations, cleared, FirestoreMessenger.numberOfChats, ← length_pinsOf]
  exact all

end Lemmas

end MapViewController

/-- The messenger of one device and its map screen. -/
structure MapScreen where
  theMessenger : FirestoreMessenger := {}
  view : MapViewController := {}

namespace MapScreen

/-- What changes the chats or the pins: the reply of a load, a document change, a chat
created by a long press, a chat deleted from its room. -/
inductive Event
  | chatsReply (reply : Option (List Dictionary))
  | chatsChange (change : DocumentChange)
  | didLongPressMap (name : String) (pressCoordinate : CLLocationCoordinate2D) (now : Date)
      (roomID chatID : String)
  | deleteChat (name : String)

/-- The closure behind the button "Create" of the long press; a refused chat gets no pin. -/
def didLongPressMap (s : MapScreen) (name : String) (pressCoordinate : CLLocationCoordinate2D)
    (now : Date) (roomID chatID : String) : MapScreen :=
  let result := s.theMessenger.addChat name pressCoordinate.latitude pressCoordinate.longitude now
    roomID chatID
  { theMessenger := result.2.1
    view := if result.1 then s.view.addAnnotation ⟨some name, "", pressCoordinate⟩ else s.view }

def step (s : MapScreen) : Event → Option MapScreen
  | .chatsReply reply =>
    let result := s.theMessenger.chatsReplyClosure MapViewController.completion (some s.view) reply
    result.2.map fun view => ⟨result.1, view⟩
  | .chatsChange change =>
    (s.theMessenger.chatsChangeClosure MapViewController.completion (some s.view) change).bind
      fun result => result.2.map fun view => ⟨result.1, view⟩
  | .didLongPressMap name pressCoordinate now roomID chatID =>
    some (s.didLongPressMap name pressCoordinate now roomID chatID)
  | .deleteChat name => (s.theMessenger.deleteChat name).map fun result =>
    { s with theMessenger := result.1 }

/-- Title and coordinate of every pin on the map. -/
def pinned (s : MapScreen) : List (Option String × CLLocationCoordinate2D) :=
  s.view.annotations.map fun pin => (pin.title, pin.coordinate)

/-- Name and place of every entry of the list. -/
def listed (s : MapScreen) : List (Option String × CLLocationCoordinate2D) :=
  s.theMessenger.chatInformationArray.map fun info =>
    (some info.name, ⟨info.xCoordinate, info.yCoordinate⟩)

/-- The pins on the map correspond to the entries of the list, by title and coordinate. -/
def PinsAreChats (s : MapScreen) : Prop := s.pinned.Perm s.listed

/-- Record whether entries have left the list since the last completion: one by `deleteChat`,
all by a load that fails. -/
def noteLost (s : MapScreen) : Event → Bool → Bool
  | .chatsReply none, lost => lost || !s.theMessenger.chatInformationArray.isEmpty
  | .chatsReply (some _), _ => false
  | .chatsChange (.modified _ _), lost => lost
  | .chatsChange _, _ => false
  | .didLongPressMap .., lost => lost
  | .deleteChat _, _ => true

section Steps

variable {s t : MapScreen} {e : Event} {lost : Bool}

/-- After a loss there are more pins than entries. -/
def Tracks : MapScreen × Bool → Prop
  | (s, false) => s.pinned.Perm s.listed
  | (s, true) => s.listed.length < s.pinned.length

theorem Tracks.pinsAreChats_iff (h : Tracks (s, lost)) : s.PinsAreChats ↔ lost = false := by
  cases lost with
  | false => exact iff_of_true h rfl
  | true =>
    refine iff_of_false (fun same => ?_) (by decide)
    exact Nat.ne_of_lt h same.length_eq.symm

theorem Tracks.congr (h : Tracks (s, lost)) (pinned : t.pinned = s.pinned)
    (listed : t.listed = s.listed) : Tracks (t, lost) := by
  cases lost <;> rwa [Tracks, pinned, listed]

/-- The completion never traps. -/
theorem exists_completion (m : FirestoreMessenger) (view : MapViewController) :
    ∃ view', MapViewController.completion m (some view) = some view' :=
  ⟨_, (Option.bind_some ..).trans (MapViewController.setupAnotations_eq view m)⟩

/-- A completion pins exactly the entries. -/
theorem tracks_anew {m : FirestoreMessenger} {view view' : MapViewController}
    (anew : MapViewController.completion m (some view) = some view') :
    Tracks (⟨m, view'⟩, false) := by
  rw [MapViewController.completion, Option.bind_some, MapViewController.setupAnotations_eq] at anew
  obtain rfl := Option.some.inj anew
  have same : pinned ⟨m, ⟨MapViewController.pinsOf m.chatInformationArray,
      MapViewController.pinsOf m.chatInformationArray⟩⟩ =
        listed ⟨m, ⟨MapViewController.pinsOf m.chatInformationArray,
          MapViewController.pinsOf m.chatInformationArray⟩⟩ := by
    rw [pinned, listed, MapViewController.pinsOf, List.map_map]
    rfl
  exact List.Perm.of_eq same

/-- Entries that leave the list without a completion leave their pins. -/
theorem Tracks.loses (h : Tracks (s, lost)) {m : FirestoreMessenger}
    (fewer : m.chatInformationArray.length < s.theMessenger.chatInformationArray.length) :
    Tracks ({ s with theMessenger := m }, true) := by
  have shorter : (listed { s with theMessenger := m }).length < s.listed.length := by
    simpa [listed] using fewer
  cases lost with
  | false => exact Nat.lt_of_lt_of_eq shorter (List.Perm.length_eq h).symm
  | true => exact Nat.lt_trans shorter h

theorem Tracks.chatsReply (h : Tracks (s, lost)) {reply : Option (List Dictionary)}
    (taken : s.step (.chatsReply reply) = some t) :
    Tracks (t, noteLost s (.chatsReply reply) lost) := by
  cases reply with
  | some documents =>
    obtain ⟨view, anew, rfl⟩ := Option.map_eq_some_iff.mp taken
    exact tracks_anew anew
  | none =>
    obtain rfl := Option.some.inj taken
    cases list : s.theMessenger.chatInformationArray with
    | nil =>
      -- nothing was listed, so nothing is lost
      have unchanged : s.theMessenger.handleChatsReply none = s.theMessenger := by
        rw [FirestoreMessenger.handleChatsReply, ← list]
      have noted : noteLost s (.chatsReply none) lost = lost := by simp [noteLost, list]
      rw [noted, FirestoreMessenger.chatsReplyClosure, unchanged]
      exact h
    | cons info rest =>
      have noted : noteLost s (.chatsReply none) lost = true := by simp [noteLost, list]
      rw [noted]
      refine h.loses ?_
      rw [list]
      exact Nat.succ_pos _

theorem Tracks.chatsChange (h : Tracks (s, lost)) {change : DocumentChange}
    (taken : s.step (.chatsChange change) = some t) :
    Tracks (t, noteLost s (.chatsChange change) lost) := by
  obtain ⟨result, closure, taken⟩ := Option.bind_eq_some_iff.mp taken
  obtain ⟨view, shown, rfl⟩ := Option.map_eq_some_iff.mp taken
  obtain ⟨m, handled, rfl⟩ := Option.map_eq_some_iff.mp closure
  cases change with
  | added | removed => exact tracks_anew shown
  | modified =>
    -- the closure has no branch for a modified document
    obtain rfl := Option.some.inj handled
    obtain rfl := Option.some.inj shown
    exact h

theorem Tracks.didLongPressMap (h : Tracks (s, lost)) (name : String)
    (pressCoordinate : CLLocationCoordinate2D) (now : Date) (roomID chatID : String) :
    Tracks (s.didLongPressMap name pressCoordinate now roomID chatID, lost) := by
  rw [MapScreen.didLongPressMap, FirestoreMessenger.addChat]
  split
  case isTrue => exact h
  case isFalse =>
    -- the entry and its pin have one title and one coordinate
    rw [if_pos rfl]
    cases lost with
    | false =>
      simp only [Tracks, pinned, listed, MapViewController.addAnnotation, List.map_append]
      exact List.Perm.append_right _ h
    | true =>
      simp only [Tracks, pinned, listed, MapViewController.addAnnotation, List.map_append,
        List.length_append]
      exact Nat.add_lt_add_right h 1

theorem Tracks.deleteChat (h : Tracks (s, lost)) {name : String}
    (taken : s.step (.deleteChat name) = some t) : Tracks (t, true) := by
  obtain ⟨result, deleted, rfl⟩ := Option.map_eq_some_iff.mp taken
  obtain ⟨info, found, rfl⟩ := FirestoreMessenger.deleteChat_eq_some_iff.mp deleted
  refine h.loses ?_
  have here := List.mem_of_find?_eq_some found
  rw [List.length_eraseP_of_mem here (List.find?_some found)]
  have some := List.length_pos_of_mem here
  omega

theorem Tracks.step (h : Tracks (s, lost)) (taken : s.step e = some t) :
    Tracks (t, noteLost s e lost) := by
  cases e with
  | chatsReply reply => exact h.chatsReply taken
  | chatsChange change => exact h.chatsChange taken
  | didLongPressMap name pressCoordinate now roomID chatID =>
    obtain rfl := Option.some.inj taken
    exact h.didLongPressMap name pressCoordinate now roomID chatID
  | deleteChat name => exact h.deleteChat taken

end Steps

/-- In every state of every run, the pins are the chats exactly if no entry has left the list
since the last completion. -/
theorem pins_are_chats_iff (events : List Event) :
    EveryState (watch step noteLost) (fun sl => sl.1.PinsAreChats ↔ sl.2 = false) ({}, false)
      events := by
  have start : Tracks ({}, false) := List.Perm.nil
  refine EveryState.of_invariant (I := Tracks) ?_ (fun _ h => h.pinsAreChats_iff) start events
  exact watch_kept fun s lost e t h taken => h.step taken

/-- The chats listener hears of a chat, and then the load of the same screen fails. -/
def loadFails : List Event :=
  [.chatsChange (.added "c1" (ChatInfo.stored ⟨"дом", 0, ⟨0⟩, ⟨0⟩, "r1", "c1"⟩)),
    .chatsReply none]

theorem not_pins_are_chats_loadFails : ∃ t, exec step {} loadFails = some t ∧ ¬ t.PinsAreChats := by
  refine ⟨_, rfl, fun same => ?_⟩
  exact absurd same.length_eq (by decide)

end MapScreen

end OnMap
