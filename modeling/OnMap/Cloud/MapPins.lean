/-
# The map of a device in the cloud

The map screen runs on one of the devices. What changes its chats or its pins are steps of
the device: a call of `addChat` or `deleteChat`, the reply of a load, a change of the chats
listener. So the pins of the device are its chats, whatever the other devices do, exactly
if no entry has left its list since the last completion.
-/

import OnMap.Cloud.Listing
import OnMap.Map.MapViewController

namespace OnMap

open Transition

/-- What a step of the device is for its map screen. -/
def Device.mapEvent (d : Device) : Event → Option MapScreen.Event
  | .addChat name xCoordinate yCoordinate now roomID chatID =>
    some (.didLongPressMap name ⟨xCoordinate, yCoordinate⟩ now roomID chatID)
  | .deleteChat name => some (.deleteChat name)
  | .runChats index => (d.chatsReplies[index]?).map .chatsReply
  | .runChange => d.changes.head?.map .chatsChange
  | _ => none

/-- The map screen of the device takes part in its steps, and its losses are recorded. -/
def noteMap {κ : Type} [DecidableEq κ] (c : κ) (s : Cloud κ) (a : Action κ)
    (map : MapViewController × Bool) : MapViewController × Bool :=
  if a.client = c then
    match (s.devices c).mapEvent a.event with
    | none => map
    | some e =>
      let screen : MapScreen := ⟨(s.devices c).messenger, map.1⟩
      (((screen.step e).map MapScreen.view).getD map.1, screen.noteLost e map.2)
  else map

/-- The map screen of the device. -/
def screenOf {κ : Type} (c : κ) (sm : Cloud κ × MapViewController × Bool) : MapScreen :=
  ⟨(sm.1.devices c).messenger, sm.2.1⟩

section Steps

variable {documents : Documents} {chatIDs : List String} {d d' : Device} {event : Event}

/-- A step that changes the chats of the device is a step of its map screen. -/
theorem Device.exists_mapStep (taken : d.step documents chatIDs event = some d')
    {e : MapScreen.Event} (shown : d.mapEvent event = some e) (view : MapViewController) :
    ∃ view', MapScreen.step ⟨d.messenger, view⟩ e = some ⟨d'.messenger, view'⟩ := by
  cases Device.moves taken with
  | @method _ result called =>
    rw [Device.call_messenger]
    cases event with
    | addChat name x y now roomID chatID =>
      obtain rfl := Option.some.inj shown
      obtain rfl := Option.some.inj called
      exact ⟨_, rfl⟩
    | deleteChat name =>
      obtain rfl := Option.some.inj shown
      have deleted : d.messenger.deleteChat name = some result := called
      exact ⟨view, by rw [MapScreen.step, deleted]; rfl⟩
    | runChats | runChange => cases called
    | _ => cases shown
  | @runChats index reply waiting =>
    simp only [Device.mapEvent, waiting, Option.map_some, Option.some.injEq] at shown
    subst shown
    cases reply with
    | none => exact ⟨view, rfl⟩
    | some documents =>
      obtain ⟨view', anew⟩ :=
        MapScreen.exists_completion (d.messenger.handleChatsReply (some documents)) view
      exact ⟨view', by rw [MapScreen.step, FirestoreMessenger.chatsReplyClosure, anew]; rfl⟩
  | @runChange change rest m' queue handled =>
    simp only [Device.mapEvent, queue, List.head?_cons, Option.map_some, Option.some.injEq] at shown
    subst shown
    obtain ⟨view', anew⟩ := MapScreen.exists_completion m' view
    rw [MapScreen.step, FirestoreMessenger.chatsChangeClosure, handled, Option.map_some,
      Option.bind_some]
    cases change with
    | added | removed =>
      exact ⟨view', congrArg (Option.map fun pins => (⟨m', pins⟩ : MapScreen)) anew⟩
    | modified => exact ⟨view, rfl⟩
  | _ => cases shown

/-- The other steps leave the chats of the device alone. -/
theorem Device.chats_of_mapEvent_eq_none (taken : d.step documents chatIDs event = some d')
    (silent : d.mapEvent event = none) :
    d'.messenger.chatInformationArray = d.messenger.chatInformationArray := by
  refine (Device.relists taken).eq_of_quiet ?_
  cases Device.moves taken with
  | method called =>
    cases event with
    | addChat | deleteChat => cases silent
    | runChats | runChange => cases called
    | _ => rfl
  | runChats waiting =>
    rw [Device.mapEvent, waiting] at silent
    cases silent
  | runChange queue =>
    rw [Device.mapEvent, queue] at silent
    cases silent
  | _ => rfl

end Steps

section Runs

variable {κ : Type} [DecidableEq κ] {c : κ} {s t : Cloud κ} {a : Action κ}
  {map : MapViewController × Bool}

/-- Every step of the cloud keeps the count of what the map of the device has lost. -/
theorem tracks_noteMap (h : MapScreen.Tracks (screenOf c (s, map), map.2))
    (taken : s.step a = some t) :
    MapScreen.Tracks (screenOf c (t, noteMap c s a map), (noteMap c s a map).2) := by
  by_cases own : a.client = c
  · subst own
    have step := Cloud.step_device taken
    cases shown : (s.devices a.client).mapEvent a.event with
    | none =>
      have same := Device.chats_of_mapEvent_eq_none step shown
      have quiet : noteMap a.client s a map = map := by
        rw [noteMap, if_pos rfl, shown]
      rw [quiet]
      exact h.congr rfl (by rw [MapScreen.listed, MapScreen.listed, screenOf, screenOf, same])
    | some e =>
      -- the completion of the map screen never traps, so the screen takes the step too
      obtain ⟨view', moved⟩ := Device.exists_mapStep step shown map.1
      have noted : noteMap a.client s a map =
          (view', MapScreen.noteLost ⟨(s.devices a.client).messenger, map.1⟩ e map.2) := by
        simp only [noteMap, if_true, shown, moved, Option.map_some, Option.getD_some]
      rw [noted]
      exact MapScreen.Tracks.step h moved
  · -- another device has taken the step
    have quiet : noteMap c s a map = map := if_neg own
    rw [quiet, screenOf, Cloud.step_devices_of_ne taken (Ne.symm own)]
    exact h

end Runs

/-- In every run of the cloud, the pins on a device's map are its chats exactly if no entry
has left its list since the last completion. -/
theorem mapPins_iff {κ : Type} [DecidableEq κ] (c : κ) (actions : List (Action κ)) :
    EveryState (watch Cloud.step (noteMap c))
      (fun sm => (screenOf c sm).PinsAreChats ↔ sm.2.2 = false) (Cloud.init, {}, false)
      actions := by
  have start : MapScreen.Tracks (screenOf c (Cloud.init, {}, false), false) := List.Perm.nil
  refine EveryState.of_invariant (I := fun sm => MapScreen.Tracks (screenOf c sm, sm.2.2)) ?_
    (fun _ h => h.pinsAreChats_iff) start actions
  exact watch_kept fun s map a t h taken => tracks_noteMap h taken

end OnMap
