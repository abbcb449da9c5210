/-
# Where the test double behaves like the messenger

The double accepts every name and opens a room whatever the name; the messenger
refuses a name that it lists, waits for the room, and sends to the room that was
opened last, also after it was closed. A list of calls tells the two apart exactly if
it lets one of these differences show.

What a list of calls comes to is read off the calls alone: which names are listed,
whether a room is open, and what was sent since.
-/

import OnMap.Messenger.MessengerMock

namespace OnMap

open Transition

/-! ### What a list of calls comes to -/

/-- The property holds of some element and of what comes before it. -/
def Somewhere {α : Type} (P : List α → α → Prop) (l : List α) : Prop :=
  ∃ before a after, l = before ++ a :: after ∧ P before a

theorem not_somewhere_nil {α : Type} {P : List α → α → Prop} : ¬ Somewhere P [] := by
  rintro ⟨before, a, after, empty, -⟩
  simp at empty

theorem somewhere_concat {α : Type} {P : List α → α → Prop} {l : List α} {a : α} :
    Somewhere P (l ++ [a]) ↔ Somewhere P l ∨ P l a := by
  constructor
  · rintro ⟨before, b, after, same, holds⟩
    rcases List.eq_nil_or_concat after with rfl | ⟨after, last, rfl⟩
    · obtain ⟨rfl, rfl⟩ := List.append_inj' same rfl |>.imp_right List.head_eq_of_cons_eq
      exact Or.inr holds
    · rw [List.concat_eq_append, ← List.cons_append, ← List.append_assoc] at same
      exact Or.inl ⟨before, b, after, (List.append_inj' same rfl).1, holds⟩
  · rintro (⟨before, b, after, rfl, holds⟩ | holds)
    · exact ⟨before, b, after ++ [a], by simp, holds⟩
    · exact ⟨l, a, [], rfl, holds⟩

namespace MessengerCall

def adds (name : String) : MessengerCall → Bool
  | .addChat nameDiscussion .. => nameDiscussion == name
  | _ => false

def deletes (name : String) : MessengerCall → Bool
  | .deleteChat other => other == name
  | _ => false

end MessengerCall

/-- More chats of the name have been added than deleted. -/
def ListsName (calls : List MessengerCall) (name : String) : Prop :=
  calls.countP (MessengerCall.deletes name) < calls.countP (MessengerCall.adds name)

/-- The call adds a name that is listed. -/
def Doubles (before : List MessengerCall) : MessengerCall → Prop
  | .addChat name .. => ListsName before name
  | _ => False

/-- The call deletes a name that is not listed. -/
def DeletesMissing (before : List MessengerCall) : MessengerCall → Prop
  | .deleteChat name => ¬ ListsName before name
  | _ => False

/-- The call opens the room of a name that is listed. -/
def FindsChat (before : List MessengerCall) : MessengerCall → Prop
  | .startDiscussRoom name => ListsName before name
  | _ => False

/-- Whether the last room opened is still open, and what was sent (owner and message)
since it was opened or closed. -/
def visit (calls : List MessengerCall) : Bool × List (String × String) :=
  calls.foldl (fun visit call =>
    match call with
    | .startDiscussRoom _ => (true, [])
    | .closeDiscussRoom => (false, [])
    | .sendMessage owner message _ => (visit.1, visit.2 ++ [(owner, message)])
    | _ => visit) (false, [])

/-- A room is open, something was sent to it and a listed chat has been opened; or no
room is open and nothing was sent since. -/
def RoomsMeet (calls : List MessengerCall) : Prop :=
  ((visit calls).1 = true ↔ (visit calls).2 ≠ []) ∧
    ((visit calls).1 = true → Somewhere FindsChat calls)

/-- What the call makes of the listed names. -/
def MessengerCall.names (names : List String) : MessengerCall → List String
  | .addChat name .. => names ++ [name]
  | .deleteChat name => names.erase name
  | _ => names

/-- The names occur as often as the calls tell. -/
def Counts (calls : List MessengerCall) (names : List String) : Prop :=
  ∀ name, names.count name + calls.countP (MessengerCall.deletes name) =
    calls.countP (MessengerCall.adds name)

section Calls

variable {calls : List MessengerCall} {call : MessengerCall} {names : List String} {name : String}

theorem Counts.listed_iff (counts : Counts calls names) : ListsName calls name ↔ name ∈ names := by
  have counted := counts name
  rw [ListsName, ← List.count_pos_iff]
  omega

theorem Counts.step (counts : Counts calls names) (found : ¬ DeletesMissing calls call) :
    Counts (calls ++ [call]) (call.names names) := by
  intro name
  have counted := counts name
  rw [List.countP_append, List.countP_append]
  cases call with
  | addChat added =>
    by_cases same : added = name
    · simp [MessengerCall.names, MessengerCall.adds, MessengerCall.deletes, same]
      omega
    · simp [MessengerCall.names, MessengerCall.adds, MessengerCall.deletes, same]
      omega
  | deleteChat deleted =>
    have listed : 0 < names.count deleted :=
      List.count_pos_iff.mpr (counts.listed_iff.mp (not_not.mp found))
    by_cases same : deleted = name
    · subst same
      simp [MessengerCall.names, MessengerCall.adds, MessengerCall.deletes]
      omega
    · simp [MessengerCall.names, MessengerCall.adds, MessengerCall.deletes, same,
        List.count_erase_of_ne (Ne.symm same)]
      omega
  | chatIsExist | startDiscussRoom | sendMessage | closeDiscussRoom => exact counted

theorem visit_concat : visit (calls ++ [call]) =
    match call with
    | .startDiscussRoom _ => (true, [])
    | .closeDiscussRoom => (false, [])
    | .sendMessage owner message _ => ((visit calls).1, (visit calls).2 ++ [(owner, message)])
    | _ => visit calls := by
  rw [visit, List.foldl_append]
  rfl

end Calls

/-! ### The double -/

/-- The room has these messages, whatever their times are. -/
def ChatRoom.Holds (room : ChatRoom) (sent : List (String × String)) : Prop :=
  room.ownersArray = sent.map Prod.fst ∧ room.messagesArray = sent.map Prod.snd

theorem ChatRoom.Holds.appending {room : ChatRoom} {sent : List (String × String)}
    (h : room.Holds sent) (owner message : String) (now : Date) :
    (room.appending ⟨owner, message, now⟩).Holds (sent ++ [(owner, message)]) := by
  simp [ChatRoom.Holds, ChatRoom.appending, h.1, h.2]

/-- The double after the calls. -/
structure MockAfter (calls : List MessengerCall) (k : MessengerMock) : Prop where
  counts : Counts calls k.names
  closed : (visit calls).1 = false → k.currentChatRoom = none
  opened : (visit calls).1 = true →
    ∃ room, k.currentChatRoom = some room ∧ room.Holds (visit calls).2

section Double

variable {calls : List MessengerCall} {call : MessengerCall} {k : MessengerMock}

theorem mockAfter_nil : MockAfter [] {} where
  counts _ := rfl
  closed _ := rfl
  opened := nofun

/-- A call that leaves the room alone. -/
theorem MockAfter.quiet (h : MockAfter calls k) {k' : MessengerMock}
    (counts : Counts (calls ++ [call]) k'.names) (same : visit (calls ++ [call]) = visit calls)
    (room : k'.currentChatRoom = k.currentChatRoom) : MockAfter (calls ++ [call]) k' where
  counts := counts
  closed closed := by
    rw [same] at closed
    rw [room, h.closed closed]
  opened opened := by
    rw [same] at opened ⊢
    rw [room]
    exact h.opened opened

/-- The double fails exactly at a deletion of a name that is not listed. -/
theorem MockAfter.respond (h : MockAfter calls k) (call : MessengerCall) :
    (DeletesMissing calls call ∧ k.respond call = none) ∨
      ¬ DeletesMissing calls call ∧ ∃ k' returned, k.respond call = some (k', returned) ∧
        k'.names = call.names k.names ∧ MockAfter (calls ++ [call]) k' := by
  have counts (found : ¬ DeletesMissing calls call) := h.counts.step found
  have visited : visit (calls ++ [call]) = _ := visit_concat
  cases call with
  | addChat name x y now roomID chatID =>
    obtain ⟨k', added, names, room⟩ := k.respond_addChat name x y now roomID chatID
    exact Or.inr ⟨id, k', _, added, names, h.quiet (names ▸ counts id) visited room⟩
  | chatIsExist => exact Or.inr ⟨id, k, _, rfl, rfl, h.quiet (counts id) visited rfl⟩
  | startDiscussRoom name =>
    refine Or.inr ⟨id, _, _, rfl, rfl, counts id, ?_, ?_⟩
    · exact fun closed => by simp [visited] at closed
    · exact fun _ => ⟨_, rfl, by simp [visited, ChatRoom.Holds]⟩
  | sendMessage owner message now =>
    refine Or.inr ⟨id, _, _, rfl, rfl, counts id, ?_, ?_⟩
    · intro closed
      rw [visited] at closed
      rw [MessengerMock.sendMessage, h.closed closed, Option.map_none]
    · intro opened
      rw [visited] at opened ⊢
      obtain ⟨room, shown, holds⟩ := h.opened opened
      exact ⟨_, by rw [MessengerMock.sendMessage, shown, Option.map_some],
        holds.appending owner message now⟩
  | closeDiscussRoom =>
    refine Or.inr ⟨id, _, _, rfl, rfl, counts id, fun _ => rfl, ?_⟩
    exact fun opened => by simp [visited] at opened
  | deleteChat name =>
    rcases k.respond_deleteChat name with ⟨absent, failed⟩ | ⟨present, k', done, names, room⟩
    · exact Or.inl ⟨fun listed => absent (h.counts.listed_iff.mp listed), failed⟩
    · have found : ¬ DeletesMissing calls (.deleteChat name) :=
        not_not.mpr (h.counts.listed_iff.mpr present)
      exact Or.inr ⟨found, k', [], done, names, h.quiet (names ▸ counts found) visited room⟩

end Double

theorem exec_replay_concat {σ : Type} (respond : σ → MessengerCall → Option (σ × List Bool))
    (state : σ × List Bool) (calls : List MessengerCall) (call : MessengerCall) :
    exec (replay respond) state (calls ++ [call]) =
      (exec (replay respond) state calls).bind fun state => replay respond state call := by
  rw [exec_append]
  congr 1
  funext state
  simp only [exec, Option.bind_fun_some]

/-- After calls that delete listed names only, the double is what the calls tell. -/
theorem mock_replay (calls : List MessengerCall) :
    (Somewhere DeletesMissing calls ∧ MessengerMock.replay calls = none) ∨
      ¬ Somewhere DeletesMissing calls ∧
        ∃ k returned, MessengerMock.replay calls = some (k, returned) ∧ MockAfter calls k := by
  induction calls using List.reverseRecOn with
  | nil => exact Or.inr ⟨not_somewhere_nil, _, _, rfl, mockAfter_nil⟩
  | append_singleton calls call ih =>
    rw [MessengerMock.replay, exec_replay_concat, ← MessengerMock.replay, somewhere_concat]
    rcases ih with ⟨missing, failed⟩ | ⟨found, k, returned, done, after⟩
    · exact Or.inl ⟨Or.inl missing, by rw [failed, Option.bind_none]⟩
    · rw [done, Option.bind_some, replay]
      rcases after.respond call with ⟨missing, failed⟩ | ⟨listed, k', more, responds, -, after'⟩
      · exact Or.inl ⟨Or.inr missing, by rw [failed, Option.map_none]⟩
      · exact Or.inr ⟨not_or.mpr ⟨found, listed⟩, k', returned ++ more,
          by rw [responds, Option.map_some], after'⟩

/-! ### The messenger without a name added twice -/

/-- The messenger and the double after calls that add no listed name: they list the same
names, and the room is sent to exactly if some listed chat has been opened. -/
structure Paired (calls : List MessengerCall) (m : FirestoreMessenger) (k : MessengerMock) :
    Prop where
  names : m.names = k.names
  mock : MockAfter calls k
  idDiscussion : m.idDiscussion.isSome = true ↔ Somewhere FindsChat calls
  unsent : (visit calls).2 = [] → m.currentChatRoom = none
  sent : (visit calls).2 ≠ [] → ∃ room, m.currentChatRoom = some room ∧ room.Aligned ∧
    (Somewhere FindsChat calls → room.Holds (visit calls).2) ∧
      (¬ Somewhere FindsChat calls → room = ChatRoom.empty)

section Paired

variable {calls : List MessengerCall} {call : MessengerCall} {m : FirestoreMessenger}
  {k : MessengerMock}

theorem paired_nil : Paired [] {} {} where
  names := rfl
  mock := mockAfter_nil
  idDiscussion := iff_of_false nofun not_somewhere_nil
  unsent _ := rfl
  sent h := absurd rfl h

/-- A call that opens, closes and fills no room. -/
theorem Paired.quiet (h : Paired calls m k) {m' : FirestoreMessenger} {k' : MessengerMock}
    (after : MockAfter (calls ++ [call]) k') (names : m'.names = k'.names)
    (same : visit (calls ++ [call]) = visit calls) (opens : ¬ FindsChat calls call)
    (idDiscussion : m'.idDiscussion = m.idDiscussion)
    (room : m'.currentChatRoom = m.currentChatRoom) : Paired (calls ++ [call]) m' k' where
  names := names
  mock := after
  idDiscussion := by
    rw [idDiscussion, somewhere_concat, or_iff_left opens]
    exact h.idDiscussion
  unsent empty := by
    rw [same] at empty
    rw [room, h.unsent empty]
  sent some := by
    rw [same] at some ⊢
    rw [room, somewhere_concat, or_iff_left opens]
    exact h.sent some

/-- The room that a message is appended to. -/
theorem Paired.room (h : Paired calls m k) : (m.currentChatRoom.getD .empty).Aligned ∧
    (Somewhere FindsChat calls → (m.currentChatRoom.getD .empty).Holds (visit calls).2) ∧
      (¬ Somewhere FindsChat calls → m.currentChatRoom.getD .empty = .empty) := by
  by_cases unsent : (visit calls).2 = []
  · rw [h.unsent unsent, unsent]
    exact ⟨ChatRoom.aligned_empty, fun _ => ⟨rfl, rfl⟩, fun _ => rfl⟩
  · obtain ⟨room, shown, rest⟩ := h.sent unsent
    rw [shown]
    exact rest

/-- A listed name opens its room; the room of any other one is the double's alone. -/
theorem Paired.startDiscussRoom (h : Paired calls m k) {k' : MessengerMock} {name : String}
    (names : k'.names = k.names) (after : MockAfter (calls ++ [.startDiscussRoom name]) k') :
    ∃ m', m.respond (.startDiscussRoom name) = some (m', []) ∧
      Paired (calls ++ [.startDiscussRoom name]) m' k' := by
  obtain ⟨m', opened, names', room, shown⟩ := m.respond_startDiscussRoom name
  have visited : visit (calls ++ [.startDiscussRoom name]) = (true, []) := visit_concat
  refine ⟨m', opened, names'.trans (h.names.trans names.symm), after, ?_, fun _ => shown, ?_⟩
  · rw [room, somewhere_concat, h.idDiscussion, FindsChat, h.mock.counts.listed_iff, h.names,
      or_comm]
  · exact fun sent => absurd (congrArg Prod.snd visited) sent

/-- Without a room the messenger makes one up; the message is in it if one was opened. -/
theorem Paired.sendMessage (h : Paired calls m k) {k' : MessengerMock} {owner message : String}
    {now : Date} (names : k'.names = k.names)
    (after : MockAfter (calls ++ [.sendMessage owner message now]) k') :
    ∃ m', m.respond (.sendMessage owner message now) = some (m', []) ∧
      Paired (calls ++ [.sendMessage owner message now]) m' k' := by
  obtain ⟨m', responds, names', room, shown⟩ := m.respond_sendMessage owner message now
  obtain ⟨aligned, holds, empty⟩ := h.room
  have visited : visit (calls ++ [.sendMessage owner message now]) = _ := visit_concat
  have opens : ¬ FindsChat calls (.sendMessage owner message now) := id
  refine ⟨m', responds, names'.trans (h.names.trans names.symm), after, ?_, ?_, fun _ => ?_⟩
  · rw [room, somewhere_concat, or_iff_left opens]
    exact h.idDiscussion
  · exact fun unsent => by simp [visited] at unsent
  · rw [shown, somewhere_concat, or_iff_left opens, visited]
    refine ⟨_, rfl, ?_, fun finds => ?_, fun finds => ?_⟩
    · split
      · exact aligned.appending _
      · exact aligned
    · rw [if_pos (h.idDiscussion.mpr finds)]
      exact (holds finds).appending owner message now
    · rw [if_neg fun some => finds (h.idDiscussion.mp some)]
      exact empty finds

theorem Paired.closeDiscussRoom (h : Paired calls m k) {k' : MessengerMock}
    (names : k'.names = k.names) (after : MockAfter (calls ++ [.closeDiscussRoom]) k') :
    ∃ m', m.respond .closeDiscussRoom = some (m', []) ∧
      Paired (calls ++ [.closeDiscussRoom]) m' k' := by
  have visited : visit (calls ++ [.closeDiscussRoom]) = (false, []) := visit_concat
  refine ⟨_, rfl, h.names.trans names.symm, after, ?_, fun _ => rfl, ?_⟩
  · rw [somewhere_concat]
    exact h.idDiscussion.trans (or_iff_left id).symm
  · exact fun sent => absurd (congrArg Prod.snd visited) sent

/-- Names that are not listed are added by both alike. -/
theorem Paired.respond (h : Paired calls m k) (undoubled : ¬ Doubles calls call) :
    (DeletesMissing calls call ∧ m.respond call = none ∧ k.respond call = none) ∨
      ¬ DeletesMissing calls call ∧ ∃ m' k' returned, m.respond call = some (m', returned) ∧
        k.respond call = some (k', returned) ∧ Paired (calls ++ [call]) m' k' := by
  have visited : visit (calls ++ [call]) = _ := visit_concat
  rcases h.mock.respond call with ⟨missing, failed⟩ | ⟨found, k', returned, done, names, after⟩
  · refine Or.inl ⟨missing, ?_, failed⟩
    cases call with
    | deleteChat name =>
      rcases m.respond_deleteChat name with ⟨-, failed⟩ | ⟨present, -⟩
      · exact failed
      · exact absurd (h.mock.counts.listed_iff.mpr (h.names ▸ present)) missing
    | _ => exact missing.elim
  · refine Or.inr ⟨found, ?_⟩
    cases call with
    | addChat name x y now roomID chatID =>
      obtain ⟨rfl, rfl⟩ := Prod.mk.inj (Option.some.inj done)
      rcases m.respond_addChat name x y now roomID chatID with
        ⟨present, -⟩ | ⟨-, m', added, names', room, shown⟩
      · exact absurd (h.mock.counts.listed_iff.mpr (h.names ▸ present)) undoubled
      · refine ⟨m', _, _, added, done, h.quiet after ?_ visited id room shown⟩
        rw [names', names, h.names, MessengerCall.names]
    | chatIsExist name =>
      obtain ⟨rfl, rfl⟩ := Prod.mk.inj (Option.some.inj done)
      have same : m.chatIsExist name = k.chatIsExist name := by
        rw [m.chatIsExist_eq, k.chatIsExist_eq, h.names]
      refine ⟨m, _, _, ?_, done, h.quiet after h.names visited id rfl rfl⟩
      rw [FirestoreMessenger.respond, same]
    | startDiscussRoom name =>
      obtain ⟨rfl, rfl⟩ := Prod.mk.inj (Option.some.inj done)
      obtain ⟨m', responds, paired⟩ := h.startDiscussRoom names after
      exact ⟨m', _, _, responds, done, paired⟩
    | sendMessage owner message now =>
      obtain ⟨rfl, rfl⟩ := Prod.mk.inj (Option.some.inj done)
      obtain ⟨m', responds, paired⟩ := h.sendMessage names after
      exact ⟨m', _, _, responds, done, paired⟩
    | closeDiscussRoom =>
      obtain ⟨rfl, rfl⟩ := Prod.mk.inj (Option.some.inj done)
      obtain ⟨m', responds, paired⟩ := h.closeDiscussRoom names after
      exact ⟨m', _, _, responds, done, paired⟩
    | deleteChat name =>
      rcases m.respond_deleteChat name with ⟨absent, -⟩ | ⟨-, m', deleted, names', room, shown⟩
      · exact absurd (h.mock.counts.listed_iff.mp (not_not.mp found)) (h.names ▸ absent)
      · rcases k.respond_deleteChat name with ⟨absent, -⟩ | ⟨-, k'', deleted', -, -⟩
        · exact absurd (h.mock.counts.listed_iff.mp (not_not.mp found)) absent
        · obtain ⟨rfl, rfl⟩ := Prod.mk.inj (Option.some.inj (deleted'.symm.trans done))
          refine ⟨m', _, [], deleted, deleted', h.quiet after ?_ visited id room shown⟩
          rw [names', names, h.names, MessengerCall.names]

/-- After calls that add no listed name, the two fail together or not at all. -/
theorem paired_replay (calls : List MessengerCall) (undoubled : ¬ Somewhere Doubles calls) :
    (Somewhere DeletesMissing calls ∧ FirestoreMessenger.replay calls = none) ∨
      ¬ Somewhere DeletesMissing calls ∧ ∃ m k returned,
        FirestoreMessenger.replay calls = some (m, returned) ∧
          MessengerMock.replay calls = some (k, returned) ∧ Paired calls m k := by
  induction calls using List.reverseRecOn with
  | nil => exact Or.inr ⟨not_somewhere_nil, _, _, _, rfl, rfl, paired_nil⟩
  | append_singleton calls call ih =>
    rw [somewhere_concat, not_or] at undoubled
    rw [FirestoreMessenger.replay, exec_replay_concat, ← FirestoreMessenger.replay,
      MessengerMock.replay, exec_replay_concat, ← MessengerMock.replay, somewhere_concat]
    rcases ih undoubled.1 with ⟨missing, failed⟩ | ⟨found, m, k, returned, done, done', paired⟩
    · exact Or.inl ⟨Or.inl missing, by rw [failed, Option.bind_none]⟩
    · rw [done, done', Option.bind_some, Option.bind_some, replay, replay]
      rcases paired.respond undoubled.2 with
        ⟨missing, failed, -⟩ | ⟨listed, m', k', more, responds, responds', paired'⟩
      · exact Or.inl ⟨Or.inr missing, by rw [failed, Option.map_none]⟩
      · exact Or.inr ⟨not_or.mpr ⟨found, listed⟩, m', k', returned ++ more,
          by rw [responds, Option.map_some], by rw [responds', Option.map_some], paired'⟩

/-! ### What can be asked -/

theorem isSome_element {β : Type} (elements : List β) (index : ℤ) :
    (FirestoreMessenger.element elements index).isSome = true ↔
      0 ≤ index ∧ index.toNat < elements.length := by
  rw [FirestoreMessenger.element]
  split
  · simp only [Option.isSome_none, Bool.false_eq_true, false_iff]
    omega
  · rw [Option.isSome_iff_ne_none, ne_eq, List.getElem?_eq_none_iff]
    omega

/-- Rooms with the same messages answer alike. -/
theorem getInfoAboutMessage_of_holds {room room' : ChatRoom} {sent : List (String × String)}
    (shown : m.currentChatRoom = some room) (shown' : k.currentChatRoom = some room')
    (aligned : room.Aligned) (holds : room.Holds sent) (holds' : room'.Holds sent) (index : ℤ)
    (now : Date) : (m.getInfoAboutMessage index).map (fun info => (info.1, info.2.1)) =
      (k.getInfoAboutMessage index now).map fun info => (info.1, info.2.1) := by
  have together : (FirestoreMessenger.element room.timesArray index).isSome = true ↔
      (FirestoreMessenger.element room.messagesArray index).isSome = true := by
    rw [isSome_element, isSome_element, aligned.2]
  have owners : room'.ownersArray = room.ownersArray := holds'.1.trans holds.1.symm
  have messages : room'.messagesArray = room.messagesArray := holds'.2.trans holds.2.symm
  rw [FirestoreMessenger.getInfoAboutMessage, MessengerMock.getInfoAboutMessage, shown, shown']
  simp only [owners, messages, Option.bind_eq_bind, Option.pure_def]
  cases message : FirestoreMessenger.element room.messagesArray index with
  | none => rfl
  | some text =>
    obtain ⟨time, htime⟩ := Option.isSome_iff_exists.mp (together.mpr (message ▸ rfl))
    rw [htime]
    cases FirestoreMessenger.element room.ownersArray index <;> rfl

theorem ChatRoom.Holds.length {room : ChatRoom} {sent : List (String × String)}
    (h : room.Holds sent) : room.messagesArray.length = sent.length := by
  rw [h.2, List.length_map]

/-- Where the two are alike, both show a room or neither does, and with as many messages. -/
theorem Paired.roomsMeet (h : Paired calls m k) (alike : Alike m k) : RoomsMeet calls := by
  -- asking for a message before the first one traps exactly if a room is shown
  have outside := alike.getInfoAboutMessage (-1) 0
  have both (opened : (visit calls).1 = true) : (visit calls).2 ≠ [] := by
    intro unsent
    obtain ⟨room, shown, -⟩ := h.mock.opened opened
    rw [FirestoreMessenger.getInfoAboutMessage, MessengerMock.getInfoAboutMessage, shown,
      h.unsent unsent] at outside
    cases outside
  refine ⟨⟨both, fun sent => ?_⟩, fun opened => ?_⟩
  · obtain ⟨room, shown, -⟩ := h.sent sent
    by_contra closed
    rw [FirestoreMessenger.getInfoAboutMessage, MessengerMock.getInfoAboutMessage, shown,
      h.mock.closed (Bool.not_eq_true _ ▸ closed)] at outside
    cases outside
  · by_contra missed
    obtain ⟨room, shown, -, -, empty⟩ := h.sent (both opened)
    obtain ⟨room', shown', holds'⟩ := h.mock.opened opened
    have counted := alike.countMessages
    rw [FirestoreMessenger.countMessages, MessengerMock.countMessages, shown, shown',
      Option.map_some, Option.map_some, empty missed, Option.getD_some, Option.getD_some,
      holds'.length] at counted
    exact both opened (List.eq_nil_of_length_eq_zero counted.symm)

theorem Paired.alike (h : Paired calls m k) (meets : RoomsMeet calls) : Alike m k := by
  have named : m.chatInformationArray.length = k.chatInformationArray.length := by
    simpa [FirestoreMessenger.names, MessengerMock.names] using congrArg List.length h.names
  have exist (name : String) : m.chatIsExist name = k.chatIsExist name := by
    rw [m.chatIsExist_eq, k.chatIsExist_eq, h.names]
  cases opened : (visit calls).1 with
  | false =>
    have unsent : (visit calls).2 = [] := by
      by_contra sent
      simp [meets.1.mpr sent] at opened
    have none := h.unsent unsent
    have none' := h.mock.closed opened
    refine ⟨named, exist, ?_, fun index now => ?_⟩
    · rw [FirestoreMessenger.countMessages, MessengerMock.countMessages, none, none']
    · rw [FirestoreMessenger.getInfoAboutMessage, MessengerMock.getInfoAboutMessage, none, none']
      rfl
  | true =>
    obtain ⟨room, shown, aligned, holds, -⟩ := h.sent (meets.1.mp opened)
    obtain ⟨room', shown', holds'⟩ := h.mock.opened opened
    have holds := holds (meets.2 opened)
    refine ⟨named, exist, ?_, ?_⟩
    · rw [FirestoreMessenger.countMessages, MessengerMock.countMessages, shown, shown',
        Option.map_some, Option.map_some, holds.length, holds'.length]
    · exact getInfoAboutMessage_of_holds shown shown' aligned holds holds'

/-- The two are alike if their rooms have the same messages, or both show none. -/
theorem Paired.alike_iff (h : Paired calls m k) : Alike m k ↔ RoomsMeet calls :=
  ⟨h.roomsMeet, h.alike⟩

end Paired

/-! ### A name added twice -/

/-- The messenger never lists a name more often than the double. -/
def ListsFewer (m : FirestoreMessenger) (k : MessengerMock) : Prop :=
  ∀ name, m.names.count name ≤ k.names.count name

section Doubled

variable {calls : List MessengerCall} {call : MessengerCall} {m m' : FirestoreMessenger}
  {k : MessengerMock} {returned returned' more : List Bool}

/-- What the messenger can do, the double can do. -/
theorem ListsFewer.respond (fewer : ListsFewer m k) (responds : m.respond call = some (m', more)) :
    ∃ k' more', k.respond call = some (k', more') ∧ more'.length = more.length ∧
      ListsFewer m' k' := by
  cases call with
  | addChat name x y now roomID chatID =>
    obtain ⟨k', added', names, -⟩ := k.respond_addChat name x y now roomID chatID
    refine ⟨k', _, added', ?_⟩
    rcases m.respond_addChat name x y now roomID chatID with
      ⟨-, refused⟩ | ⟨-, m'', added, names', -⟩
    · obtain ⟨rfl, rfl⟩ := Prod.mk.inj (Option.some.inj (refused.symm.trans responds))
      refine ⟨rfl, fun other => ?_⟩
      rw [names, List.count_append]
      exact Nat.le_trans (fewer other) (Nat.le_add_right ..)
    · obtain ⟨rfl, rfl⟩ := Prod.mk.inj (Option.some.inj (added.symm.trans responds))
      refine ⟨rfl, fun other => ?_⟩
      rw [names, names', List.count_append, List.count_append]
      exact Nat.add_le_add_right (fewer other) _
  | deleteChat name =>
    rcases m.respond_deleteChat name with ⟨-, failed⟩ | ⟨present, m'', deleted, names, -⟩
    · cases failed.symm.trans responds
    · obtain ⟨rfl, rfl⟩ := Prod.mk.inj (Option.some.inj (deleted.symm.trans responds))
      have listed := List.count_pos_iff.mpr present
      rcases k.respond_deleteChat name with ⟨absent, -⟩ | ⟨-, k', deleted', names', -⟩
      · exact absurd (List.count_pos_iff.mp (Nat.lt_of_lt_of_le listed (fewer name))) absent
      · refine ⟨k', [], deleted', rfl, fun other => ?_⟩
        rw [names, names', List.count_erase, List.count_erase]
        exact Nat.sub_le_sub_right (fewer other) _
  | startDiscussRoom name =>
    obtain ⟨m'', opened, names, -⟩ := m.respond_startDiscussRoom name
    obtain ⟨rfl, rfl⟩ := Prod.mk.inj (Option.some.inj (opened.symm.trans responds))
    exact ⟨_, _, rfl, rfl, fun other => names ▸ fewer other⟩
  | sendMessage owner message now =>
    obtain ⟨m'', sent, names, -⟩ := m.respond_sendMessage owner message now
    obtain ⟨rfl, rfl⟩ := Prod.mk.inj (Option.some.inj (sent.symm.trans responds))
    exact ⟨_, _, rfl, rfl, fun other => names ▸ fewer other⟩
  | chatIsExist | closeDiscussRoom =>
    obtain ⟨rfl, rfl⟩ := Prod.mk.inj (Option.some.inj responds)
    exact ⟨_, _, rfl, rfl, fewer⟩

theorem exec_replay_concat_eq_some {σ : Type}
    {respond : σ → MessengerCall → Option (σ × List Bool)} {state after : σ × List Bool} :
    exec (replay respond) state (calls ++ [call]) = some after ↔
      ∃ before returned, exec (replay respond) state calls = some (before, returned) ∧
        ∃ s more, respond before call = some (s, more) ∧ after = (s, returned ++ more) := by
  rw [exec_replay_concat, Option.bind_eq_some_iff]
  constructor
  · rintro ⟨⟨before, returned⟩, done, stepped⟩
    obtain ⟨⟨s, more⟩, responds, rfl⟩ := Option.map_eq_some_iff.mp stepped
    exact ⟨before, returned, done, s, more, responds, rfl⟩
  · rintro ⟨before, returned, done, s, more, responds, rfl⟩
    refine ⟨(before, returned), done, ?_⟩
    simp only [replay, responds, Option.map_some]

/-- Where the messenger gets through, so does the double, with as many results. -/
theorem mock_replay_of_replay (done : FirestoreMessenger.replay calls = some (m, returned)) :
    ∃ k returned', MessengerMock.replay calls = some (k, returned') ∧
      returned'.length = returned.length ∧ ListsFewer m k := by
  induction calls using List.reverseRecOn generalizing m returned with
  | nil =>
    obtain ⟨rfl, rfl⟩ := Prod.mk.inj (Option.some.inj done)
    exact ⟨_, _, rfl, rfl, fun _ => Nat.le_refl _⟩
  | append_singleton calls call ih =>
    obtain ⟨before, results, prior, m', more, responds, same⟩ := exec_replay_concat_eq_some.mp done
    obtain ⟨rfl, rfl⟩ := Prod.mk.inj same
    obtain ⟨k, results', prior', length, fewer⟩ := ih prior
    obtain ⟨k', more', responds', length', fewer'⟩ := fewer.respond responds
    refine ⟨k', results' ++ more', exec_replay_concat_eq_some.mpr
      ⟨k, results', prior', k', more', responds', rfl⟩, ?_, fewer'⟩
    rw [List.length_append, List.length_append, length, length']

/-- A name added twice is refused by the messenger only. -/
theorem returned_ne (doubled : Somewhere Doubles calls)
    (done : FirestoreMessenger.replay calls = some (m, returned))
    (done' : MessengerMock.replay calls = some (k, returned')) : returned ≠ returned' := by
  induction calls using List.reverseRecOn generalizing m k returned returned' with
  | nil => exact absurd doubled not_somewhere_nil
  | append_singleton calls call ih =>
    obtain ⟨m₀, results, prior, m', more, responds, same⟩ := exec_replay_concat_eq_some.mp done
    obtain ⟨k₀, results', prior', k', more', responds', same'⟩ :=
      exec_replay_concat_eq_some.mp done'
    obtain ⟨rfl, rfl⟩ := Prod.mk.inj same
    obtain ⟨rfl, rfl⟩ := Prod.mk.inj same'
    intro equal
    obtain ⟨k₁, results₁, again, length, -⟩ := mock_replay_of_replay prior
    obtain ⟨rfl, rfl⟩ := Prod.mk.inj (Option.some.inj (again.symm.trans prior'))
    obtain ⟨equal, last⟩ := List.append_inj equal length.symm
    by_cases earlier : Somewhere Doubles calls
    · exact ih earlier prior prior' equal
    · -- up to here the two list the same names, and this call adds one of them
      have now := (somewhere_concat.mp doubled).resolve_left earlier
      rcases paired_replay calls earlier with ⟨-, failed⟩ | ⟨-, m₂, k₂, _, reached, -, paired⟩
      · cases failed.symm.trans prior
      · obtain ⟨rfl, rfl⟩ := Prod.mk.inj (Option.some.inj (reached.symm.trans prior))
        cases call with
        | addChat name x y now' roomID chatID =>
          have listed : name ∈ m₂.names := by
            rw [paired.names]
            exact paired.mock.counts.listed_iff.mp now
          obtain ⟨k₃, added, -⟩ := k₁.respond_addChat name x y now' roomID chatID
          obtain ⟨-, rfl⟩ := Prod.mk.inj (Option.some.inj (added.symm.trans responds'))
          rcases m₂.respond_addChat name x y now' roomID chatID with
            ⟨-, refused⟩ | ⟨absent, -⟩
          · obtain ⟨-, rfl⟩ := Prod.mk.inj (Option.some.inj (refused.symm.trans responds))
            cases last
          · exact absent listed
        | _ => exact now.elim

end Doubled

/-- The double behaves like the messenger exactly on the calls that delete a name that is
not listed (both fail), and on those that add no listed name and leave the rooms alike. -/
theorem behaveAlike_iff (calls : List MessengerCall) :
    BehaveAlike calls ↔
      Somewhere DeletesMissing calls ∨ ¬ Somewhere Doubles calls ∧ RoomsMeet calls := by
  rw [BehaveAlike]
  rcases mock_replay calls with ⟨missing, failed⟩ | ⟨found, k, returned', done', -⟩
  · refine iff_of_true ?_ (Or.inl missing)
    cases done : FirestoreMessenger.replay calls with
    | none => rw [failed]; trivial
    | some after =>
      obtain ⟨k, returned', done', -⟩ := mock_replay_of_replay done
      cases failed.symm.trans done'
  · rw [or_iff_right found]
    by_cases doubled : Somewhere Doubles calls
    · refine iff_of_false ?_ fun both => both.1 doubled
      cases done : FirestoreMessenger.replay calls with
      | none => rw [done']; exact id
      | some after =>
        rw [done']
        exact fun same => returned_ne doubled done done' same.1
    · rcases paired_replay calls doubled with
        ⟨missing, -⟩ | ⟨-, m, k', returned, done, again, paired⟩
      · exact absurd missing found
      · rw [done, again, and_iff_right doubled, ← paired.alike_iff]
        exact and_iff_right rfl

/-- The same name is added twice. -/
def addedTwice : List MessengerCall :=
  [.addChat "дом" ⟨0⟩ ⟨0⟩ 0 "r1" "c1", .addChat "дом" ⟨0⟩ ⟨0⟩ 0 "r2" "c2"]

/-- The messenger refuses it the second time, the double does not. -/
theorem not_behaveAlike_addedTwice : ¬ BehaveAlike addedTwice := by
  rintro ⟨same, -⟩
  cases same

end OnMap
