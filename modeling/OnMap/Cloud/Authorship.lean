/-
# Every stored message has one author

A monitor logs the `sendMessage` calls of all devices in the order they were
made. Whatever happens to the three arrays of a room on the way (whole-document
overwrites, stale answers, resets), they stay aligned, and read together they
are a sublist of the log: every index is one call, and no call takes two.
-/

import Mathlib.Data.List.NodupEquivFin
import OnMap.Cloud.RoomData
import OnMap.Library.Transition

namespace OnMap

open Transition

variable {κ : Type}

/-- Log the messages handed to `sendMessage`. -/
def noteMessage (_ : Cloud κ) (a : Action κ) (calls : List Message) : List Message :=
  match a.event with
  | .sendMessage owner message now => calls ++ [⟨owner, message, now⟩]
  | _ => calls

namespace ChatRoom

/-- The room is aligned and holds messages of the log, in their order. -/
def SublistOf (calls : List Message) (room : ChatRoom) : Prop :=
  room.Aligned ∧ room.messages.Sublist calls

theorem sublistOf_empty (calls : List Message) : empty.SublistOf calls :=
  ⟨aligned_empty, List.nil_sublist _⟩

theorem SublistOf.append {calls : List Message} {room : ChatRoom} (h : room.SublistOf calls)
    (more : List Message) : room.SublistOf (calls ++ more) :=
  ⟨h.1, h.2.trans (List.sublist_append_left ..)⟩

theorem SublistOf.appending {calls : List Message} {room : ChatRoom} (h : room.SublistOf calls)
    (m : Message) : (room.appending m).SublistOf (calls ++ [m]) := by
  refine ⟨h.1.appending m, ?_⟩
  rw [h.1.messages_appending]
  exact h.2.append (List.Sublist.refl _)

/-- Index by index, the arrays of the room are owner, message and time of one
call each, and `call` gives different indexes different calls. -/
structure Authored (calls : List Message) (room : ChatRoom) : Prop where
  owners : room.ownersArray.length = room.messagesArray.length
  times : room.timesArray.length = room.messagesArray.length
  calls : ∃ call : ℕ → ℕ, Function.Injective call ∧
    ∀ index < room.messagesArray.length, ∃ m, calls[call index]? = some m ∧
      room.ownersArray[index]? = some m.owner ∧
      room.messagesArray[index]? = some m.message ∧
      room.timesArray[index]? = some m.date

theorem Aligned.exists_message {room : ChatRoom} (h : room.Aligned) {index : ℕ}
    (bound : index < room.messagesArray.length) : ∃ m, room.messages[index]? = some m :=
  ⟨_, List.getElem?_eq_getElem (h.length_messages ▸ bound)⟩

theorem SublistOf.authored {calls : List Message} {room : ChatRoom} (h : room.SublistOf calls) :
    room.Authored calls where
  owners := h.1.1
  times := h.1.2
  calls := by
    -- the order embedding of the sublist tells the call of each index
    obtain ⟨call, hcall⟩ := List.sublist_iff_exists_orderEmbedding_getElem?_eq.mp h.2
    refine ⟨call, call.injective, fun index bound => ?_⟩
    obtain ⟨m, here⟩ := h.1.exists_message bound
    exact ⟨m, (hcall index).symm.trans here, getElem?_messages.mp here⟩

end ChatRoom

variable [DecidableEq κ]

/-- One step: the log grows by the message sent, and every room stays a sublist
of it. -/
theorem sublistOf_step {s t : Cloud κ} {calls : List Message} {a : Action κ}
    (h : (RoomProperty.everywhere κ (ChatRoom.SublistOf calls)).Holds s)
    (hstep : s.step a = some t) :
    (RoomProperty.everywhere κ (ChatRoom.SublistOf (noteMessage s a calls))).Holds t := by
  have grown (room : ChatRoom) (hroom : room.SublistOf calls) :
      room.SublistOf (noteMessage s a calls) := by
    rw [noteMessage]
    split
    · exact hroom.append _
    · exact hroom
  refine h.step (RoomProperty.coherent_everywhere _) hstep
    { served := fun _ => grown
      held := fun _ _ => grown
      cache := fun _ => grown
      empty := fun _ _ _ _ _ _ _ => ChatRoom.sublistOf_empty _
      sent := fun owner message now event => ?_
      applied := fun _ _ _ _ _ _ _ _ _ => id }
  -- what is sent is the cached room, or an empty one, with the new message last
  have cached : ((s.devices a.client).messenger.currentChatRoom.getD .empty).SublistOf calls := by
    cases loaded : (s.devices a.client).messenger.currentChatRoom with
    | none => exact ChatRoom.sublistOf_empty _
    | some room => exact (h.devices a.client).cache room loaded
  simp only
  split
  · exact grown _ cached
  · rw [noteMessage, event]
    exact cached.appending _

/-- In every reachable state all room data is a sublist of the log. -/
theorem sublistOf_run {labels : List (Action κ)} {s : Cloud κ} {calls : List Message}
    (run : exec (watch Cloud.step noteMessage) (Cloud.init, []) labels = some (s, calls)) :
    (RoomProperty.everywhere κ (ChatRoom.SublistOf calls)).Holds s := by
  refine exec_invariant (I := fun sm : Cloud κ × List Message =>
    (RoomProperty.everywhere κ (ChatRoom.SublistOf sm.2)).Holds sm.1) (watch_kept ?_)
    (RoomProperty.holds_init _) run
  intro s calls a t held hstep
  exact sublistOf_step held hstep

/-- The arrays of a cached room are aligned in every run, watched or not. -/
theorem currentChatRoom_aligned {labels : List (Action κ)} {s : Cloud κ}
    (run : exec Cloud.step Cloud.init labels = some s) {c : κ} {room : ChatRoom}
    (loaded : (s.devices c).messenger.currentChatRoom = some room) : room.Aligned := by
  obtain ⟨calls, watched⟩ := exists_exec_watch noteMessage [] run
  exact (((sublistOf_run watched).devices c).cache room loaded).1

/-- In every run of any number of devices, every stored room and every cached
room pairs each message with its own author and time, no call fills two indexes
of a room, and `getInfoAboutMessage` is in range below `countMessages`. -/
theorem rooms_authored {labels : List (Action κ)} {s : Cloud κ} {calls : List Message}
    (run : exec (watch Cloud.step noteMessage) (Cloud.init, []) labels = some (s, calls)) :
    (∀ roomID data, s.documents ⟨.rooms, roomID⟩ = some data →
      ∃ room, ChatRoom.ofDictonary data = some room ∧ room.Authored calls) ∧
    (∀ c room, (s.devices c).messenger.currentChatRoom = some room → room.Authored calls) ∧
    ∀ c (index : ℕ), index < (s.devices c).messenger.countMessages →
      ∃ m ∈ calls, (s.devices c).messenger.getInfoAboutMessage index =
        some (some m.message, some m.owner, some m.date) := by
  have held := sublistOf_run run
  refine ⟨?_, ?_, ?_⟩
  · intro roomID data hdata
    obtain ⟨room, decoded, sublist⟩ := held.documents _ _ hdata rfl
    exact ⟨room, decoded, sublist.authored⟩
  · intro c room loaded
    exact ChatRoom.SublistOf.authored ((held.devices c).cache room loaded)
  · intro c index bound
    cases loaded : (s.devices c).messenger.currentChatRoom with
    | none => simp [FirestoreMessenger.countMessages, loaded] at bound
    | some room =>
      have sublist : room.SublistOf calls := (held.devices c).cache room loaded
      simp only [FirestoreMessenger.countMessages, loaded, Option.map_some,
        Option.getD_some] at bound
      obtain ⟨m, here⟩ := sublist.1.exists_message bound
      obtain ⟨owner, message, time⟩ := ChatRoom.getElem?_messages.mp here
      refine ⟨m, sublist.2.subset (List.mem_of_getElem? here), ?_⟩
      have inside : ¬ (index : ℤ) < 0 := by omega
      simp [inside, FirestoreMessenger.getInfoAboutMessage, FirestoreMessenger.element, loaded,
        owner, message, time]

/-- Device `true` makes a chat and writes into it; device `false` finds the chat,
opens it and writes over the first message. -/
def exchange : List (Action Bool) :=
  [⟨true, .addChat "чат" ⟨0⟩ ⟨0⟩ 0 "room" "chat"⟩, ⟨true, .applyWrite⟩, ⟨true, .applyWrite⟩,
   ⟨true, .applyWrite⟩, ⟨false, .setupObserverChats⟩, ⟨false, .raiseChange "chat"⟩,
   ⟨false, .runChange⟩, ⟨false, .startDiscussRoom "чат"⟩, ⟨false, .setupObserverChatRoom⟩,
   ⟨false, .raiseRoom 0⟩, ⟨false, .runRoom 0⟩, ⟨true, .startDiscussRoom "чат"⟩,
   ⟨true, .sendMessage "Аня" "привет" 1⟩, ⟨true, .applyWrite⟩,
   ⟨false, .sendMessage "Боря" "пока" 2⟩, ⟨false, .applyWrite⟩]

theorem rooms_authored_exchange :
    ∃ s calls, exec (watch Cloud.step noteMessage) (Cloud.init, []) exchange = some (s, calls) ∧
      calls = [⟨"Аня", "привет", 1⟩, ⟨"Боря", "пока", 2⟩] ∧
      ∀ c (index : ℕ), index < (s.devices c).messenger.countMessages →
        ∃ m ∈ calls, (s.devices c).messenger.getInfoAboutMessage index =
          some (some m.message, some m.owner, some m.date) := by
  have logged : (exec (watch Cloud.step noteMessage) (Cloud.init, []) exchange).map Prod.snd =
      some [⟨"Аня", "привет", 1⟩, ⟨"Боря", "пока", 2⟩] := by decide +kernel
  obtain ⟨⟨s, calls⟩, run, hcalls⟩ := Option.map_eq_some_iff.mp logged
  exact ⟨s, calls, run, hcalls, (rooms_authored run).2.2⟩

end OnMap
