/-
# How the list of chats changes

Four events touch the cached list: `addChat` and `deleteChat` by the user, the
answer to `loadChatInfoArray`, and the changes of the chats listener. A new entry
is the user's own chat or was delivered by a closure.
-/

import OnMap.Cloud.Calls
import OnMap.Cloud.Provenance
import Mathlib.Data.Fintype.Defs

namespace OnMap

variable {κ : Type}

/-- The events that can change the list of chats. -/
def Event.relists : Event → Bool
  | .addChat .. | .deleteChat _ | .runChats _ | .runChange => true
  | _ => false

namespace Device

variable {documents : Documents} {chatIDs : List String} {d d' : Device} {event : Event}

/-- What an event does to the list of chats. -/
inductive Relists (d : Device) : Event → List ChatInfo → Prop
  | keeps {event : Event} (quiet : event.relists = false) :
      Relists d event d.messenger.chatInformationArray
  | refuses {name : String} {x y : Double} {now : Date} {roomID chatID : String}
      (used : d.messenger.chatIsExist name = true) :
      Relists d (.addChat name x y now roomID chatID) d.messenger.chatInformationArray
  | adds {name : String} {x y : Double} {now : Date} {roomID chatID : String}
      (unused : d.messenger.chatIsExist name = false) :
      Relists d (.addChat name x y now roomID chatID)
        (d.messenger.chatInformationArray ++ [⟨name, now, x, y, roomID, chatID⟩])
  | deletes {name : String} {info : ChatInfo}
      (found : d.messenger.chatInformationArray.find? (fun info => info.name == name) =
        some info) :
      Relists d (.deleteChat name)
        (d.messenger.chatInformationArray.eraseP fun info => info.name == name)
  | fails {index : ℕ} (waiting : d.chatsReplies[index]? = some none) :
      Relists d (.runChats index) []
  | loadsNothing {index : ℕ} (waiting : d.chatsReplies[index]? = some (some [])) :
      Relists d (.runChats index) d.messenger.chatInformationArray
  | loads {index : ℕ} {documents : List Dictionary}
      (waiting : d.chatsReplies[index]? = some (some documents)) (nonempty : documents ≠ []) :
      Relists d (.runChats index) (documents.filterMap ChatInfo.ofDictonary)
  | appends {chatID : String} {data : Dictionary} {rest : List DocumentChange} {info : ChatInfo}
      (queue : d.changes = .added chatID data :: rest)
      (decoded : ChatInfo.ofDictonary data = some info) :
      Relists d .runChange (d.messenger.chatInformationArray ++ [info])
  | modifies {chatID : String} {data : Dictionary} {rest : List DocumentChange}
      (queue : d.changes = .modified chatID data :: rest) :
      Relists d .runChange d.messenger.chatInformationArray
  | removes {chatID : String} {data : Dictionary} {rest : List DocumentChange}
      (queue : d.changes = .removed chatID data :: rest) :
      Relists d .runChange (FirestoreMessenger.removeNamed
        ((ChatInfo.ofDictonary data).map ChatInfo.name) d.messenger.chatInformationArray)

/-- What a step does to the list is said once, here. -/
theorem relists (h : d.step documents chatIDs event = some d') :
    Relists d event d'.messenger.chatInformationArray := by
  cases moves h with
  | method called once =>
    rw [call_messenger]
    cases event with
    | addChat name x y now roomID chatID =>
      obtain rfl := Option.some.inj called
      rw [FirestoreMessenger.addChat]
      split
      case isTrue used => exact .refuses used
      case isFalse unused => exact .adds (by simpa using unused)
    | deleteChat name =>
      obtain ⟨info, found, rfl⟩ := FirestoreMessenger.deleteChat_eq_some_iff.mp called
      exact .deletes found
    | loadDiscussionRoom =>
      obtain rfl := Option.some.inj called
      rw [FirestoreMessenger.loadDiscussionRoom]
      split <;> exact .keeps rfl
    | setupObserverChatRoom =>
      obtain rfl := Option.some.inj called
      rw [FirestoreMessenger.setupObserverChatRoom]
      split <;> exact .keeps rfl
    | startDiscussRoom name =>
      obtain rfl := Option.some.inj called
      rw [FirestoreMessenger.startDiscussRoom, FirestoreMessenger.loadDiscussionRoom]
      split <;> exact .keeps rfl
    | sendMessage owner message now =>
      obtain rfl := Option.some.inj called
      rw [FirestoreMessenger.sendMessage]
      split <;> exact .keeps rfl
    | setupObserverChats | loadChatInfoArray | closeDiscussRoom =>
      obtain rfl := Option.some.inj called
      exact .keeps rfl
    | _ => cases called
  | applyWrite | answerRoom | answerChats | failChats | raiseRoom => exact .keeps rfl
  | raiseChange =>
    -- the change waits in the queue until its closure runs
    rw [raise_messenger]
    exact .keeps rfl
  | runRoom waiting =>
    simp only [runRoomCallback_chatInformationArray]
    exact .keeps rfl
  | @runChats index reply waiting =>
    -- an error empties the list, an empty answer leaves it
    cases reply with
    | none => exact .fails waiting
    | some documents =>
      by_cases empty : documents = []
      · subst empty
        exact .loadsNothing waiting
      · rw [FirestoreMessenger.handleChatsReply_of_ne_nil empty]
        exact .loads waiting empty
  | runChange queue handled =>
    obtain ⟨chats, rfl, ⟨_, _, _, rfl, decoded, rfl⟩ | ⟨_, _, rfl, rfl⟩ | ⟨_, _, rfl, rfl⟩⟩ :=
      FirestoreMessenger.handleChatsChange_eq_some handled
    · exact .appends queue decoded
    · exact .modifies queue
    · exact .removes queue

theorem Relists.eq_of_quiet {chats : List ChatInfo} (h : Relists d event chats)
    (quiet : event.relists = false) : chats = d.messenger.chatInformationArray := by
  cases h with
  | keeps => rfl
  | _ => cases quiet

/-- The chats that a closure turns into entries when it runs. -/
def delivered (d : Device) : Event → List ChatInfo
  | .runChange =>
    match d.changes with
    | .added _ data :: _ => (ChatInfo.ofDictonary data).toList
    | _ => []
  | .runChats index =>
    match d.chatsReplies[index]? with
    | some (some documents) => documents.filterMap ChatInfo.ofDictonary
    | _ => []
  | _ => []

/-- An entry was there before, has just been delivered, or is of the user's new
chat. -/
theorem Relists.mem {chats : List ChatInfo} (h : Relists d event chats) {info : ChatInfo}
    (listed : info ∈ chats) :
    info ∈ d.messenger.chatInformationArray ∨ info ∈ d.delivered event ∨
      d.messenger.chatIsExist info.name = false ∧ event =
        .addChat info.name info.xCoordinate info.yCoordinate info.timeCreate info.chatLink
          info.firebaseID := by
  cases h with
  | keeps | refuses | loadsNothing | modifies => exact Or.inl listed
  | fails => cases listed
  | adds unused =>
    rcases List.mem_append.mp listed with old | new
    · exact Or.inl old
    · rw [List.mem_singleton.mp new]
      exact Or.inr (Or.inr ⟨unused, rfl⟩)
  | deletes => exact Or.inl (List.mem_of_mem_eraseP listed)
  | loads waiting nonempty =>
    refine Or.inr (Or.inl ?_)
    rwa [delivered, waiting]
  | appends queue decoded =>
    rcases List.mem_append.mp listed with old | new
    · exact Or.inl old
    · refine Or.inr (Or.inl ?_)
      simpa only [delivered, queue, decoded, Option.toList_some] using new
  | removes => exact Or.inl ((FirestoreMessenger.removeNamed_sublist _ _).subset listed)

end Device

/-- What a closure delivers is a version of a created chat. -/
theorem Provenance.delivered {s : Cloud κ} (h : Provenance s) (c : κ) {event : Event}
    {info : ChatInfo} (delivered : info ∈ (s.devices c).delivered event) :
    ∃ m ∈ s.created, m.Version info := by
  have entry (chatID : String) (data : Dictionary)
      (seen : ((origin κ).inventory s.created).seen c ⟨.chats, chatID⟩ data)
      (decoded : ChatInfo.ofDictonary data = some info) : ∃ m ∈ s.created, m.Version info := by
    obtain ⟨m, hm, version, -⟩ :=
      (origin_coherent.inventory s.created).entry_of_seen c chatID data info seen decoded
    exact ⟨m, hm, version⟩
  cases event with
  | runChange =>
    simp only [Device.delivered] at delivered
    split at delivered
    case h_1 chatID data rest queue =>
      exact entry chatID data
        ((h.data.devices c).changes (.added chatID data) (queue ▸ List.mem_cons_self))
        (Option.mem_toList.mp delivered)
    case h_2 => cases delivered
  | runChats index =>
    simp only [Device.delivered] at delivered
    split at delivered
    case h_1 documents waiting =>
      obtain ⟨data, hdata, decoded⟩ := List.mem_filterMap.mp delivered
      obtain ⟨chatID, seen⟩ :=
        (h.data.devices c).replies documents (List.mem_of_getElem? waiting) data hdata
      exact entry chatID data seen decoded
    case h_2 => cases delivered
  | _ => cases delivered

/-! ### Nothing under way -/

/-- Every write has been applied, every change of a chats document has been told
and handled, and no answer is waiting. -/
structure Cloud.Quiet (s : Cloud κ) : Prop where
  settled : s.Settled
  told : ∀ c, ∀ told ∈ (s.devices c).reported,
    ∀ chatID, told chatID = s.documents ⟨.chats, chatID⟩
  changes : ∀ c, (s.devices c).changes = []
  queries : ∀ c, (s.devices c).queries = 0
  replies : ∀ c, (s.devices c).chatsReplies = []

/-- What a listener has been told need only be compared on created chats, after
decoding. -/
theorem Provenance.told_eq {s : Cloud κ} (h : Provenance s) {c : κ}
    {told : String → Option Dictionary} (listening : (s.devices c).reported = some told)
    (same : ∀ m ∈ s.created, (told m.chatID).bind ChatInfo.ofDictonary =
      (s.documents m.chatPath).bind ChatInfo.ofDictonary) (chatID : String) :
    told chatID = s.documents ⟨.chats, chatID⟩ := by
  -- either side is missing or holds a stored version, which decoding tells apart
  have known {data : Option Dictionary} (made : ∀ d ∈ data, Made s.created (fun _ _ => True)
      ⟨.chats, chatID⟩ d) : data = none ∨ ∃ m ∈ s.created, m.chatID = chatID ∧
        ∃ info : ChatInfo, data = some info.stored := by
    cases data with
    | none => exact Or.inl rfl
    | some d =>
      obtain ⟨m, hm, id, info, -, rfl, -⟩ := made d rfl
      exact Or.inr ⟨m, hm, id, info, rfl⟩
  have first := known ((h.data.devices c).reported told listening chatID)
  have second := known (h.data.documents ⟨.chats, chatID⟩)
  rcases first with missing | ⟨m, hm, rfl, info, shown⟩
  · rcases second with gone | ⟨m, hm, rfl, info, stored⟩
    · rw [missing, gone]
    · -- a stored version that the listener has not told would decode
      have decoded := same m hm
      rw [missing, Creation.chatPath, stored, Option.bind_some, ChatInfo.ofDictonary_stored]
        at decoded
      cases decoded
  · have decoded := same m hm
    rcases second with gone | ⟨-, -, -, info', stored⟩
    · rw [shown, Creation.chatPath, gone, Option.bind_some, ChatInfo.ofDictonary_stored] at decoded
      cases decoded
    · rw [shown, Creation.chatPath, stored, Option.bind_some, Option.bind_some,
        ChatInfo.ofDictonary_stored, ChatInfo.ofDictonary_stored, Option.some.injEq] at decoded
      rw [shown, stored, decoded]

/-- `Quiet`, as far as it can be decided: the listeners' documents are compared as
in `told_eq`. -/
def Cloud.Still (s : Cloud κ) : Prop :=
  ∀ c, (s.devices c).pending = [] ∧ (s.devices c).changes = [] ∧ (s.devices c).queries = 0 ∧
    (s.devices c).chatsReplies = [] ∧ ∀ told ∈ (s.devices c).reported, ∀ m ∈ s.created,
      (told m.chatID).bind ChatInfo.ofDictonary =
        (s.documents m.chatPath).bind ChatInfo.ofDictonary

instance [Fintype κ] (s : Cloud κ) : Decidable s.Still :=
  inferInstanceAs (Decidable (∀ _, _ ∧ _ ∧ _ ∧ _ ∧ ∀ told ∈ _, ∀ m ∈ _, _ = _))

theorem Provenance.quiet_of_still {s : Cloud κ} (h : Provenance s) (still : s.Still) :
    s.Quiet where
  settled c := (still c).1
  told c told listening := h.told_eq listening ((still c).2.2.2.2 told listening)
  changes c := (still c).2.1
  queries c := (still c).2.2.1
  replies c := (still c).2.2.2.1

end OnMap
