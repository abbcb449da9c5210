/-
# Where a message goes

A chat screen is opened with a name and sends into the room that
`startDiscussRoom` found for it. When it finds no chat of the name, the room of
an earlier screen stays open behind the new title.
-/

import OnMap.Cloud.Calls
import OnMap.Library.Transition

namespace OnMap

open Transition

variable {κ : Type}

/-- An open chat screen: its title, the rooms of the chats of this name when it
was opened, and the room that was open before. -/
structure Screen where
  title : String
  links : List String
  before : Option String

/-- The rooms of the listed chats of a name. -/
def FirestoreMessenger.linksNamed (m : FirestoreMessenger) (name : String) : List String :=
  (m.chatInformationArray.filter fun info => info.name == name).map ChatInfo.chatLink

/-- The screen that a messenger opens for a name. -/
def FirestoreMessenger.screen (m : FirestoreMessenger) (name : String) : Screen :=
  ⟨name, m.linksNamed name, m.idDiscussion⟩

/-- Record the screen that client `c` has open. -/
def noteScreen [DecidableEq κ] (c : κ) (s : Cloud κ) (a : Action κ) (shown : Option Screen) :
    Option Screen :=
  if a.client = c then
    match a.event with
    | .startDiscussRoom name => some ((s.devices c).messenger.screen name)
    | .closeDiscussRoom => none
    | _ => shown
  else shown

/-- What client `c` sends from an open screen is written to the room of a chat
that had the screen's name when it was opened; without such a chat nothing is
written. -/
def SendsHome (c : κ) (sm : Cloud κ × Option Screen) (a : Action κ) : Prop :=
  ∀ owner message now, a = ⟨c, .sendMessage owner message now⟩ → ∀ screen ∈ sm.2,
    ∀ w ∈ (sm.1.devices c).issues a.event, ∃ link ∈ screen.links, w.path = ⟨.rooms, link⟩

/-- When client `c` sends, its screen was opened with the name of a listed chat,
or no room had been opened before. -/
def OpenedByName (c : κ) (sm : Cloud κ × Option Screen) (a : Action κ) : Prop :=
  ∀ owner message now, a = ⟨c, .sendMessage owner message now⟩ → ∀ screen ∈ sm.2,
    screen.links ≠ [] ∨ screen.before = none

/-- The open room is that of the first chat of the screen's name; when there was
none, it is the one that was open before. -/
def OpensFirst (c : κ) (sm : Cloud κ × Option Screen) : Prop :=
  ∀ screen ∈ sm.2, (sm.1.devices c).messenger.idDiscussion = screen.links.head?.or screen.before

theorem FirestoreMessenger.startDiscussRoom_linksNamed (m : FirestoreMessenger) (name : String) :
    (m.startDiscussRoom name).1.idDiscussion =
      (m.linksNamed name).head?.or m.idDiscussion := by
  rw [startDiscussRoom_idDiscussion, linksNamed, List.head?_map, List.head?_filter]

theorem OpensFirst.step [DecidableEq κ] {c : κ} {s t : Cloud κ} {shown : Option Screen}
    {a : Action κ} (h : OpensFirst c (s, shown)) (hstep : s.step a = some t) :
    OpensFirst c (t, noteScreen c s a shown) := by
  obtain ⟨client, event⟩ := a
  by_cases acting : client = c
  · subst acting
    have taken := Cloud.step_device hstep
    intro screen hscreen
    simp only [noteScreen, if_true] at hscreen
    -- only `startDiscussRoom` sets the open room, and it opens the screen
    by_cases starting : ∃ name, event = .startDiscussRoom name
    · obtain ⟨name, rfl⟩ := starting
      obtain rfl := Option.some.inj hscreen
      rw [Device.step_of_method rfl taken, Device.call_messenger]
      exact FirestoreMessenger.startDiscussRoom_linksNamed _ name
    · have kept := Device.step_idDiscussion taken fun name same => starting ⟨name, same⟩
      rw [kept]
      cases event with
      | startDiscussRoom name => exact absurd ⟨name, rfl⟩ starting
      | closeDiscussRoom => cases hscreen
      | _ => exact h screen hscreen
  · intro screen hscreen
    simp only [noteScreen, if_neg acting] at hscreen
    rw [Cloud.step_devices_of_ne hstep (Ne.symm acting)]
    exact h screen hscreen

/-- Where the open room is the first of the screen's name, a message goes home
exactly if there was such a chat, or no room to fall back to. -/
theorem OpensFirst.sendsHome_iff {c : κ} {sm : Cloud κ × Option Screen} (h : OpensFirst c sm)
    (a : Action κ) : SendsHome c sm a ↔ OpenedByName c sm a := by
  refine forall₃_congr fun owner message now => forall_congr' fun sending => ?_
  refine forall₂_congr fun screen hscreen => ?_
  subst sending
  -- the write goes to the first link, or else to the room that was open before
  rw [Device.issues_sendMessage, h screen hscreen]
  cases links : screen.links with
  | nil => cases before : screen.before <;> simp
  | cons link rest => simp [DocumentWrite.path]

/-- From any state without an open screen: in a run of any devices, every message
of client `c` goes to a room of its screen's title, exactly if at every send the
title named a listed chat when the screen was opened or no room was open before. -/
theorem sends_home_iff [DecidableEq κ] (c : κ) (s : Cloud κ) (labels : List (Action κ)) :
    EveryStep (watch Cloud.step (noteScreen c)) (SendsHome c) (s, none) labels ↔
      EveryStep (watch Cloud.step (noteScreen c)) (OpenedByName c) (s, none) labels := by
  refine everyStep_congr_of_invariant (watch_kept ?_) ?_ (I := OpensFirst c) ?_ labels
  · intro s shown a t h hstep
    exact h.step hstep
  · intro sm a h
    exact h.sendsHome_iff a
  · intro screen none
    cases none

/-- Device `true` makes two chats. Device `false` hears of both, visits the first
and closes it; the second is deleted before its screen is opened. -/
def deletedBeforeOpened : List (Action Bool) :=
  [⟨true, .addChat "дом" ⟨0⟩ ⟨0⟩ 0 "r1" "c1"⟩, ⟨true, .addChat "двор" ⟨0⟩ ⟨0⟩ 0 "r2" "c2"⟩,
   ⟨true, .applyWrite⟩, ⟨true, .applyWrite⟩, ⟨true, .applyWrite⟩,
   ⟨true, .applyWrite⟩, ⟨true, .applyWrite⟩, ⟨true, .applyWrite⟩,
   ⟨false, .setupObserverChats⟩, ⟨false, .raiseChange "c1"⟩, ⟨false, .raiseChange "c2"⟩,
   ⟨false, .runChange⟩, ⟨false, .runChange⟩,
   ⟨false, .startDiscussRoom "дом"⟩, ⟨false, .closeDiscussRoom⟩,
   ⟨true, .deleteChat "двор"⟩, ⟨true, .applyWrite⟩, ⟨true, .applyWrite⟩,
   ⟨false, .raiseChange "c2"⟩, ⟨false, .runChange⟩, ⟨false, .startDiscussRoom "двор"⟩]

/-- What is then typed under the title of the second goes to the first. -/
theorem not_always_home :
    ¬ ∀ labels, EveryStep (watch Cloud.step (noteScreen false)) (SendsHome false)
      (Cloud.init, none) labels := by
  intro always
  have reached : (exec (watch Cloud.step (noteScreen false)) (Cloud.init, none)
      deletedBeforeOpened).map (fun sm => (sm.2.map fun screen => (screen.title, screen.links),
        (sm.1.devices false).messenger.idDiscussion)) =
      some (some ("двор", []), some "r1") := by decide +kernel
  obtain ⟨⟨s, shown⟩, run, values⟩ := Option.map_eq_some_iff.mp reached
  obtain ⟨opened, room⟩ := Prod.mk.inj values
  obtain ⟨screen, hscreen, titled⟩ := Option.map_eq_some_iff.mp opened
  obtain ⟨-, links⟩ := Prod.mk.inj titled
  have home := (always (deletedBeforeOpened ++ [⟨false, .sendMessage "Аня" "привет" 1⟩])).of_append
    run "Аня" "привет" 1 rfl screen hscreen
  rw [Device.issues_sendMessage, links, show (s.devices false).messenger.idDiscussion = _ from room]
    at home
  simp at home

end OnMap
