/-
# Documents that come back

What a decoder accepts is the dictionary that Firestore returns for the encoded value, as
far as the keys of the type go: no other value at one of these keys passes its cast. So
encoding and decoding are inverse on what is stored, for chats and for rooms.

This is so without numeric bridging. The decoder of the program agrees with the one without
wherever that accepts; beyond it, it takes an integer for a coordinate.
-/

import OnMap.Messenger.Documents

namespace OnMap

namespace Value

variable {value : Value}

/-! ### Casts that succeed -/

theorem asString_eq_some_iff {text : String} :
    value.asString = some text ↔ value = string text := by
  cases value <;> simp [asString]

theorem asUnbridgedDouble_eq_some_iff {number : Double} :
    value.asUnbridgedDouble = some number ↔ value = double number := by
  cases value <;> simp [asUnbridgedDouble]

theorem asTimestamp_eq_some_iff {stamp : Timestamp} :
    value.asTimestamp = some stamp ↔ value = timestamp stamp := by
  cases value <;> simp [asTimestamp]

/-- The elements of an array that is accepted are all of the type. -/
theorem mapM_eq_some_iff {β : Type} {cast : Value → Option β} {wrap : β → Value}
    (reads : ∀ element x, cast element = some x ↔ element = wrap x) {elements : List Value}
    {xs : List β} : elements.mapM cast = some xs ↔ elements = xs.map wrap := by
  induction elements generalizing xs with
  | nil => cases xs <;> simp
  | cons element rest ih =>
    rw [List.mapM_cons]
    cases xs with
    | nil =>
      refine iff_of_false (fun accepted => ?_) nofun
      obtain ⟨_, -, accepted⟩ := Option.bind_eq_some_iff.mp accepted
      obtain ⟨_, -, accepted⟩ := Option.bind_eq_some_iff.mp accepted
      cases accepted
    | cons x xs =>
      rw [List.map_cons, List.cons.injEq, ← reads, ← ih]
      constructor
      · intro accepted
        obtain ⟨first, read, accepted⟩ := Option.bind_eq_some_iff.mp accepted
        obtain ⟨others, read_rest, accepted⟩ := Option.bind_eq_some_iff.mp accepted
        obtain ⟨rfl, rfl⟩ := List.cons.inj (Option.some.inj accepted)
        exact ⟨read, read_rest⟩
      · rintro ⟨read, read_rest⟩
        rw [read, read_rest]
        rfl

theorem asArray_eq_some_iff {β : Type} {cast : Value → Option β} {wrap : β → Value}
    (reads : ∀ element x, cast element = some x ↔ element = wrap x) {xs : List β} :
    value.asArray cast = some xs ↔ value = array (xs.map wrap) := by
  cases value with
  | array elements => rw [asArray, mapM_eq_some_iff reads, array.injEq]
  | _ => simp [asArray]

end Value

namespace Dictionary

/-- The fields at some keys only. -/
def restrict (fields : Dictionary) (keys : List String) : Dictionary := fun key =>
  if key ∈ keys then fields key else none

/-- A literal is stored as the part of a dictionary that has the stored values at its keys. -/
theorem store_ofPairs (fields : Dictionary) {pairs : List (String × Value)}
    (stored : ∀ pair ∈ pairs, fields pair.1 = some pair.2.store) :
    (ofPairs pairs).store = fields.restrict (pairs.map Prod.fst) := by
  funext key
  rw [store, ofPairs, restrict]
  induction pairs with
  | nil => rfl
  | cons pair rest ih =>
    obtain ⟨first, value⟩ := pair
    have later := ih fun pair mem => stored pair (List.mem_cons_of_mem _ mem)
    by_cases same : key = first
    · subst same
      rw [List.lookup_cons_self, Option.map_some, stored (key, value) List.mem_cons_self]
      exact (if_pos List.mem_cons_self).symm
    · have other : (key == first) = false := beq_eq_false_iff_ne.mpr same
      have mem : key ∈ rest.map Prod.fst ↔ key ∈ ((first, value) :: rest).map Prod.fst := by
        simp [same]
      rw [List.lookup_cons, other]
      exact later.trans (if_congr mem rfl rfl)

end Dictionary

open Dictionary Value

/-! ### Chats -/

namespace ChatInfo

def keys : List String :=
  ["name", "timeCreate", "xCoordinate", "yCoordinate", "chatLink", "firebaseID"]

/-- `ChatInfo.init?(dictonary:)`, if there were no bridging. -/
def ofUnbridged (dictonary : Dictionary) : Option ChatInfo :=
  decode Value.asUnbridgedDouble dictonary

/-- What a chat is stored as, is what a dictionary has at the keys if it is accepted. -/
theorem stored_eq_restrict {fields : Dictionary} {info : ChatInfo}
    (accepted : ofUnbridged fields = some info) :
    info.dictonary.store = fields.restrict keys := by
  simp only [ofUnbridged, decode, Option.bind_eq_bind, Option.bind_eq_some_iff, Option.pure_def,
    Option.some.injEq] at accepted
  obtain ⟨name, ⟨_, nameAt, cast⟩, accepted⟩ := accepted
  obtain rfl := asString_eq_some_iff.mp cast
  obtain ⟨time, ⟨_, timeAt, cast⟩, accepted⟩ := accepted
  obtain rfl := asTimestamp_eq_some_iff.mp cast
  obtain ⟨x, ⟨_, xAt, cast⟩, accepted⟩ := accepted
  obtain rfl := asUnbridgedDouble_eq_some_iff.mp cast
  obtain ⟨y, ⟨_, yAt, cast⟩, accepted⟩ := accepted
  obtain rfl := asUnbridgedDouble_eq_some_iff.mp cast
  obtain ⟨link, ⟨_, linkAt, cast⟩, accepted⟩ := accepted
  obtain rfl := asString_eq_some_iff.mp cast
  obtain ⟨id, ⟨_, idAt, cast⟩, rfl⟩ := accepted
  obtain rfl := asString_eq_some_iff.mp cast
  refine store_ofPairs fields ?_
  simp only [List.mem_cons, List.not_mem_nil, or_false, forall_eq_or_imp, forall_eq]
  exact ⟨nameAt, timeAt, xAt, yAt, linkAt, idAt⟩

/-- The program reads what is accepted without bridging in the same way. -/
theorem ofDictonary_of_unbridged {fields : Dictionary} {info : ChatInfo}
    (accepted : ofUnbridged fields = some info) : ofDictonary fields = some info := by
  have bridged (value : Value) (number : Double)
      (cast : value.asUnbridgedDouble = some number) : value.asDouble = some number := by
    obtain rfl := asUnbridgedDouble_eq_some_iff.mp cast
    rfl
  simp only [ofUnbridged, decode, Option.bind_eq_bind, Option.bind_eq_some_iff] at accepted
  obtain ⟨name, nameAt, time, timeAt, x, ⟨_, xAt, xCast⟩, y, ⟨_, yAt, yCast⟩, accepted⟩ := accepted
  simp only [ofDictonary, decode, Option.bind_eq_bind, Option.bind_eq_some_iff]
  exact ⟨name, nameAt, time, timeAt, x, ⟨_, xAt, bridged _ _ xCast⟩, y,
    ⟨_, yAt, bridged _ _ yCast⟩, accepted⟩

end ChatInfo

/-! ### Rooms -/

namespace ChatRoom

def keys : List String := ["ownersArray", "messagesArray", "timesArray"]

theorem stored_eq_restrict {fields : Dictionary} {room : ChatRoom}
    (accepted : ofDictonary fields = some room) :
    room.dictonary.store = fields.restrict keys := by
  simp only [ofDictonary, Option.bind_eq_bind, Option.bind_eq_some_iff, Option.pure_def,
    Option.some.injEq] at accepted
  obtain ⟨owners, ⟨_, ownersAt, cast⟩, accepted⟩ := accepted
  obtain rfl := (asArray_eq_some_iff fun _ _ => asString_eq_some_iff).mp cast
  obtain ⟨messages, ⟨_, messagesAt, cast⟩, accepted⟩ := accepted
  obtain rfl := (asArray_eq_some_iff fun _ _ => asString_eq_some_iff).mp cast
  obtain ⟨times, ⟨_, timesAt, cast⟩, rfl⟩ := accepted
  obtain rfl := (asArray_eq_some_iff fun _ _ => asTimestamp_eq_some_iff).mp cast
  have texts (xs : List String) : (array (xs.map string)).store = array (xs.map string) := by
    rw [Value.store, storeAll_eq_map, List.map_map]
    rfl
  have stamps : (array ((times.map Timestamp.dateValue).map date)).store =
      array (times.map timestamp) := by
    rw [Value.store, storeAll_eq_map, List.map_map, List.map_map]
    rfl
  refine store_ofPairs fields ?_
  simp only [List.mem_cons, List.not_mem_nil, or_false, forall_eq_or_imp, forall_eq, texts,
    stamps]
  exact ⟨ownersAt, messagesAt, timesAt⟩

end ChatRoom

/-- What is stored of chats and rooms decodes to what was encoded, with bridging and without.
Without it, what decodes is what is stored of the decoded value, up to other keys, and the
program decodes it in the same way. -/
theorem documents_round_trip :
    (∀ info : ChatInfo, ChatInfo.ofDictonary info.dictonary.store = some info ∧
        ChatInfo.ofUnbridged info.dictonary.store = some info) ∧
      (∀ room : ChatRoom, ChatRoom.ofDictonary room.dictonary.store = some room) ∧
      (∀ fields info, ChatInfo.ofUnbridged fields = some info →
        info.dictonary.store = fields.restrict ChatInfo.keys ∧
          ChatInfo.ofDictonary fields = some info) ∧
      ∀ fields room, ChatRoom.ofDictonary fields = some room →
        room.dictonary.store = fields.restrict ChatRoom.keys :=
  ⟨fun info => ⟨ChatInfo.ofDictonary_stored info, rfl⟩, ChatRoom.ofDictonary_stored,
    fun _ _ accepted =>
      ⟨ChatInfo.stored_eq_restrict accepted, ChatInfo.ofDictonary_of_unbridged accepted⟩,
    fun _ _ accepted => ChatRoom.stored_eq_restrict accepted⟩

end OnMap
