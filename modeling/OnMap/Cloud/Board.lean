/-
# One board for everybody

What the users of the map share is meant to be a board of chats: a chat has a name that no
other chat has, a place, and the messages written into it in their order. Adding refuses a
name in use, deleting takes the chat of the name off with its messages, opening looks a name
up and opens nothing if no chat has it, and a message goes into the chat that its writer has
open.

The board knows nothing of documents, queues or devices. Its chats have distinct
identifiers and distinct names by construction.
-/

import OnMap.Cloud.Cloud
import Mathlib.Data.List.Nodup

namespace OnMap

/-- A chat on the board. -/
structure PostedChat where
  chatID : String
  name : String
  xCoordinate : Double
  yCoordinate : Double
  timeCreate : Date
  messages : List Message
  deriving DecidableEq, Repr

namespace PostedChat

/-- The chat with one more message. -/
def saying (p : PostedChat) (message : Message) : PostedChat :=
  { p with messages := p.messages ++ [message] }

end PostedChat

/-- The chats of the board and the chat that each user has opened last. -/
structure Board (κ : Type) where
  chats : List PostedChat
  chatIDs : (chats.map PostedChat.chatID).Nodup
  names : (chats.map PostedChat.name).Nodup
  opened : κ → Option String

namespace Board

variable {κ : Type} {b : Board κ} {p q : PostedChat}

/-- An empty board. -/
def empty (κ : Type) : Board κ := ⟨[], List.nodup_nil, List.nodup_nil, fun _ => none⟩

theorem eq_of_chatID (hp : p ∈ b.chats) (hq : q ∈ b.chats) (same : p.chatID = q.chatID) : p = q :=
  List.inj_on_of_nodup_map b.chatIDs hp hq same

theorem eq_of_name (hp : p ∈ b.chats) (hq : q ∈ b.chats) (same : p.name = q.name) : p = q :=
  List.inj_on_of_nodup_map b.names hp hq same

/-- Add a chat, unless its name or its identifier is in use. -/
def add (b : Board κ) (new : PostedChat) : Board κ :=
  if free : new.chatID ∉ b.chats.map PostedChat.chatID ∧ new.name ∉ b.chats.map PostedChat.name
  then
    { b with
      chats := b.chats ++ [new]
      chatIDs := by
        rw [List.map_append, List.map_singleton, ← List.concat_eq_append, List.nodup_concat]
        exact ⟨free.1, b.chatIDs⟩
      names := by
        rw [List.map_append, List.map_singleton, ← List.concat_eq_append, List.nodup_concat]
        exact ⟨free.2, b.names⟩ }
  else b

/-- Take the chat of the name off. -/
def delete (b : Board κ) (name : String) : Board κ :=
  { b with
    chats := b.chats.filter fun p => p.name ≠ name
    chatIDs := b.chatIDs.sublist (List.filter_sublist.map _)
    names := b.names.sublist (List.filter_sublist.map _) }

variable [DecidableEq κ]

/-- The user leaves the chat opened before, and opens that of the name if there is one. -/
def openChat (b : Board κ) (user : κ) (name : String) : Board κ :=
  { b with
    opened := Function.update b.opened user
      ((b.chats.find? fun p => p.name = name).map PostedChat.chatID) }

omit [DecidableEq κ] in
/-- The user writes into the chat that is open, if it is still on the board. -/
def say (b : Board κ) (user : κ) (message : Message) : Board κ :=
  { b with
    chats := b.chats.map fun p => if b.opened user = some p.chatID then p.saying message else p
    chatIDs := by
      rw [List.map_map]
      refine (congrArg List.Nodup (List.map_congr_left fun p _ => ?_)).mpr b.chatIDs
      simp only [Function.comp_apply]
      split <;> rfl
    names := by
      rw [List.map_map]
      refine (congrArg List.Nodup (List.map_congr_left fun p _ => ?_)).mpr b.names
      simp only [Function.comp_apply]
      split <;> rfl }

/-- What a call of the messenger is meant to do; nothing else moves the board. -/
def perform (b : Board κ) (a : Action κ) : Board κ :=
  match a.event with
  | .addChat name xCoordinate yCoordinate now _ chatID =>
    b.add ⟨chatID, name, xCoordinate, yCoordinate, now, []⟩
  | .deleteChat name => b.delete name
  | .startDiscussRoom name => b.openChat a.client name
  | .sendMessage owner message now => b.say a.client ⟨owner, message, now⟩
  | _ => b

section Members

omit [DecidableEq κ] in
theorem mem_add (new : PostedChat) : p ∈ (b.add new).chats ↔ p ∈ b.chats ∨
    p = new ∧ new.chatID ∉ b.chats.map PostedChat.chatID ∧
      new.name ∉ b.chats.map PostedChat.name := by
  rw [add]
  split
  case isTrue free => simp [free]
  case isFalse used => exact ⟨Or.inl, fun h => h.resolve_right fun last => used last.2⟩

omit [DecidableEq κ] in
theorem mem_delete {name : String} : p ∈ (b.delete name).chats ↔ p ∈ b.chats ∧ p.name ≠ name := by
  simp [delete]

omit [DecidableEq κ] in
@[simp] theorem add_opened (b : Board κ) (new : PostedChat) : (b.add new).opened = b.opened := by
  rw [add]
  split <;> rfl

omit [DecidableEq κ] in
/-- A name in use is refused. -/
theorem add_of_name_mem (hp : p ∈ b.chats) {new : PostedChat} (used : p.name = new.name) :
    b.add new = b :=
  dif_neg fun free => free.2 (used ▸ List.mem_map_of_mem hp)

theorem openChat_opened (b : Board κ) (user : κ) (name : String) :
    (b.openChat user name).opened user =
      (b.chats.find? fun p => p.name = name).map PostedChat.chatID :=
  Function.update_self ..

omit [DecidableEq κ] in
/-- Names are unique, so a chat is found under its own. -/
theorem find?_name (hp : p ∈ b.chats) : (b.chats.find? fun q => q.name = p.name) = some p := by
  have found : (b.chats.find? fun q => q.name = p.name).isSome :=
    List.find?_isSome.mpr ⟨p, hp, by simp⟩
  obtain ⟨q, hq⟩ := Option.isSome_iff_exists.mp found
  rw [hq, eq_of_name (List.mem_of_find?_eq_some hq) hp (by simpa using List.find?_some hq)]

/-- The chat of the name is opened. -/
theorem openChat_of_mem (hp : p ∈ b.chats) (user : κ) :
    (b.openChat user p.name).opened user = some p.chatID := by
  rw [openChat_opened, find?_name hp, Option.map_some]

/-- Without a chat of the name nothing is open. -/
theorem openChat_of_forall_ne {name : String} (unused : ∀ p ∈ b.chats, p.name ≠ name) (user : κ) :
    (b.openChat user name).opened user = none := by
  have absent : (b.chats.find? fun q => q.name = name) = none :=
    List.find?_eq_none.mpr fun q hq => by simpa using unused q hq
  rw [openChat_opened, absent, Option.map_none]

theorem openChat_opened_of_ne {user other : κ} (ne : other ≠ user) (b : Board κ) (name : String) :
    (b.openChat user name).opened other = b.opened other :=
  Function.update_of_ne ne ..

omit [DecidableEq κ] in
theorem mem_say {user : κ} {message : Message} : p ∈ (b.say user message).chats ↔
    ∃ q ∈ b.chats, p = if b.opened user = some q.chatID then q.saying message else q := by
  simp only [say, List.mem_map, eq_comm]

omit [DecidableEq κ] in
/-- A user who has opened nothing writes nowhere. -/
theorem say_chats_of_opened_eq_none {user : κ} (none : b.opened user = none) (message : Message) :
    (b.say user message).chats = b.chats := by
  simp [say, none]

end Members

end Board

end OnMap
