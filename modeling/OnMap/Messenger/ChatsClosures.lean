/-
# Loader and observer of the chats

Two closures read documents of the collection `chats` into the cached list: the one
of `loadChatInfoArray` gets all documents of a query at once, the one of
`setupObserverChats` the changes of a snapshot one by one. Each tells the screen
through the `completion` that it was set up with. A completion sees the messenger as
it is at that moment and works on a state `ω` of its own.

The two closures agree on the documents that decode. The observer traps on any other
document; the loader skips it, but without any document it publishes nothing.
-/

import OnMap.Messenger.FirestoreMessenger

namespace OnMap

namespace FirestoreMessenger

variable {ω : Type} (completion : FirestoreMessenger → ω → ω)

/-- The closure of `loadChatInfoArray`; an error clears the list and returns before the
completion. -/
def chatsReplyClosure (m : FirestoreMessenger) (w : ω) :
    Option (List Dictionary) → FirestoreMessenger × ω
  | none => (m.handleChatsReply none, w)
  | some documents =>
    let m' := m.handleChatsReply (some documents)
    (m', completion m' w)

/-- The closure of `setupObserverChats` at one document change. -/
def chatsChangeClosure (m : FirestoreMessenger) (w : ω) (change : DocumentChange) :
    Option (FirestoreMessenger × ω) :=
  (m.handleChatsChange change).map fun m' =>
    match change with
    | .added _ _ | .removed _ _ => (m', completion m' w)
    | .modified _ _ => (m', w)

/-- The closure of `setupObserverChats` at the changes of one snapshot. -/
def chatsSnapshotClosure (m : FirestoreMessenger) (w : ω) (changes : List DocumentChange) :
    Option (FirestoreMessenger × ω) :=
  changes.foldlM (fun mw change => chatsChangeClosure completion mw.1 mw.2 change) (m, w)

/-! ### A load that replaces the list -/

/-- Record a call of the completion. -/
def noteCall (m : FirestoreMessenger) (calls : List FirestoreMessenger) :
    List FirestoreMessenger :=
  calls ++ [m]

/-- The reply leaves the decodable documents in their order, and calls the completion
once. -/
def LoadReplaces (m : FirestoreMessenger) (documents : List Dictionary) : Prop :=
  let result := chatsReplyClosure noteCall m [] (some documents)
  result.1.chatInformationArray = documents.filterMap ChatInfo.ofDictonary ∧
    result.2.length = 1

/-- What the reply leaves: an empty result leaves the list as it was. -/
theorem handleChatsReply_chatInformationArray (m : FirestoreMessenger)
    (documents : List Dictionary) :
    (m.handleChatsReply (some documents)).chatInformationArray =
      if documents = [] then m.chatInformationArray
      else documents.filterMap ChatInfo.ofDictonary := by
  split
  case isTrue empty => rw [empty, handleChatsReply_nil]
  case isFalse nonempty => rw [handleChatsReply_of_ne_nil nonempty]

/-- A successful load replaces the list exactly if it brings a document or the list was
empty. -/
theorem load_replaces_iff (m : FirestoreMessenger) (documents : List Dictionary) :
    LoadReplaces m documents ↔ documents ≠ [] ∨ m.chatInformationArray = [] := by
  have published : (chatsReplyClosure noteCall m [] (some documents)).1.chatInformationArray =
      if documents = [] then m.chatInformationArray
      else documents.filterMap ChatInfo.ofDictonary :=
    handleChatsReply_chatInformationArray m documents
  have once : (chatsReplyClosure noteCall m [] (some documents)).2.length = 1 := rfl
  rw [LoadReplaces, published]
  constructor
  · rintro ⟨replaced, -⟩
    by_cases empty : documents = []
    · rw [if_pos empty, empty] at replaced
      exact Or.inr replaced
    · exact Or.inl empty
  · intro loads
    refine ⟨?_, once⟩
    by_cases empty : documents = []
    · rw [if_pos empty, empty, loads.resolve_left (not_not.mpr empty)]
      rfl
    · exact if_neg empty

/-- The last chat has been deleted from the collection; the list still shows it. -/
theorem not_load_replaces_empty :
    ¬ LoadReplaces { chatInformationArray := [⟨"дом", 0, ⟨0⟩, ⟨0⟩, "r1", "c1"⟩] } [] := by
  rintro ⟨replaced, -⟩
  cases replaced

/-! ### Loader and observer -/

/-- The documents, as the changes of a first snapshot, leave the list that the loader
makes of them, which is that of the decodable documents in their order. -/
def ReadsAlike (m : FirestoreMessenger) (documents : List (String × Dictionary)) : Prop :=
  let empty := { m with chatInformationArray := [] }
  let changes := documents.map fun document => DocumentChange.added document.1 document.2
  ∃ result, chatsSnapshotClosure noteCall empty [] changes = some result ∧
    result.1.chatInformationArray =
      (chatsReplyClosure noteCall empty [] (some (documents.map Prod.snd))).1.chatInformationArray ∧
    result.1.chatInformationArray = documents.filterMap fun document =>
      ChatInfo.ofDictonary document.2

/-- The observer comes through a list of added documents exactly if all of them decode,
and then it has appended them all. -/
theorem chatsSnapshotClosure_added (m : FirestoreMessenger) (w : ω)
    (documents : List (String × Dictionary)) :
    (chatsSnapshotClosure completion m w
        (documents.map fun document => .added document.1 document.2)).map Prod.fst =
      if ∀ document ∈ documents, (ChatInfo.ofDictonary document.2).isSome then
        some { m with chatInformationArray := m.chatInformationArray ++
          documents.filterMap fun document => ChatInfo.ofDictonary document.2 }
      else none := by
  rw [chatsSnapshotClosure]
  induction documents generalizing m w with
  | nil => simp
  | cons document rest ih =>
    cases decoded : ChatInfo.ofDictonary document.2 with
    | none => simp [chatsChangeClosure, handleChatsChange, decoded]
    | some info =>
      have first : chatsChangeClosure completion m w (.added document.1 document.2) =
          some ({ m with chatInformationArray := m.chatInformationArray ++ [info] },
            completion { m with chatInformationArray := m.chatInformationArray ++ [info] } w) := by
        simp [chatsChangeClosure, handleChatsChange, decoded]
      rw [List.map_cons, List.foldlM_cons, first]
      refine (ih _ _).trans ?_
      have all : (∀ other ∈ rest, (ChatInfo.ofDictonary other.2).isSome) ↔
          ∀ other ∈ document :: rest, (ChatInfo.ofDictonary other.2).isSome := by
        simp [decoded]
      rw [if_congr all rfl rfl]
      simp only [List.filterMap_cons, decoded, List.append_assoc, List.singleton_append]

/-- Loader and observer make the same list of the same documents exactly if all of them
decode. -/
theorem reads_alike_iff (m : FirestoreMessenger) (documents : List (String × Dictionary)) :
    ReadsAlike m documents ↔
      ∀ document ∈ documents, (ChatInfo.ofDictonary document.2).isSome := by
  have observed := chatsSnapshotClosure_added noteCall { m with chatInformationArray := [] } []
    documents
  constructor
  · rintro ⟨result, passed, -⟩
    by_contra undecodable
    rw [if_neg undecodable, passed] at observed
    cases observed
  · intro decodable
    rw [if_pos decodable, List.nil_append] at observed
    obtain ⟨result, passed, list⟩ := Option.map_eq_some_iff.mp observed
    refine ⟨result, passed, ?_, by rw [list]⟩
    have loaded := handleChatsReply_chatInformationArray { m with chatInformationArray := [] }
      (documents.map Prod.snd)
    refine Eq.trans ?_ loaded.symm
    rw [list]
    split
    case isTrue empty => rw [List.map_eq_nil_iff.mp empty, List.filterMap_nil]
    case isFalse => rw [List.filterMap_map]; rfl

/-- A document of `chats` without the field `name`, before a well-formed one. -/
theorem not_reads_alike_nameless :
    ¬ ReadsAlike {} [("c1", .ofPairs [("chatLink", .string "r1")]),
      ("c2", ChatInfo.stored ⟨"дом", 0, ⟨0⟩, ⟨0⟩, "r2", "c2"⟩)] := by
  rintro ⟨result, passed, -⟩
  cases passed

end FirestoreMessenger

end OnMap
