/-
# Lists that follow their listener

A document is listed when some entry has its link. The list of a device follows the
feed of its chats listener as long as no entry is lost that is still needed and none
is left behind: `KeepsList` is the condition on the device's own steps, with one
lemma for each of the four events that write to the list.
-/

import OnMap.Cloud.Listener

namespace OnMap

open Feed

variable {κ : Type}

/-! ### Which documents are listed -/

/-- How many entries have the link. -/
def entriesOf (chats : List ChatInfo) (link : String) : ℕ :=
  chats.countP fun info => info.chatLink = link

theorem entriesOf_pos {chats : List ChatInfo} {link : String} :
    0 < entriesOf chats link ↔ ∃ info ∈ chats, info.chatLink = link := by
  simp [entriesOf, List.countP_pos_iff]

theorem entriesOf_append (chats more : List ChatInfo) (link : String) :
    entriesOf (chats ++ more) link = entriesOf chats link + entriesOf more link :=
  List.countP_append

theorem entriesOf_singleton (info : ChatInfo) (link : String) :
    entriesOf [info] link = if info.chatLink = link then 1 else 0 := by
  simp [entriesOf, List.countP_singleton]

/-- Without the first entry of a name, its link has one entry less. -/
theorem entriesOf_eraseP {chats : List ChatInfo} {p : ChatInfo → Bool} {first : ChatInfo}
    (found : chats.find? p = some first) (link : String) :
    entriesOf chats link =
      entriesOf (chats.eraseP p) link + if first.chatLink = link then 1 else 0 := by
  -- no entry before the first one of the name is touched
  obtain ⟨hit, before, after, rfl, others⟩ := List.find?_eq_some_iff_append.mp found
  have erased : (before ++ first :: after).eraseP p = before ++ after := by
    rw [List.eraseP_append_right, List.eraseP_cons_of_pos hit]
    exact fun info hinfo => by simpa using others info hinfo
  rw [erased, entriesOf_append, entriesOf_append, ← List.singleton_append, entriesOf_append,
    entriesOf_singleton]
  omega

/-- Some entry has the link of the chat created for this document. -/
def Listed (created : List (Creation κ)) (chats : List ChatInfo) (chatID : String) : Prop :=
  ∃ m ∈ created, m.chatID = chatID ∧ 0 < entriesOf chats m.roomID

instance (created : List (Creation κ)) (chats : List ChatInfo) (chatID : String) :
    Decidable (Listed created chats chatID) :=
  inferInstanceAs (Decidable (∃ m ∈ created, m.chatID = chatID ∧ _ < _))

theorem Listed.mono {created : List (Creation κ)} {chats more : List ChatInfo} {chatID : String}
    (h : Listed created chats chatID) (fewer : ∀ link, entriesOf chats link ≤ entriesOf more link) :
    Listed created more chatID := by
  obtain ⟨m, hm, same, listed⟩ := h
  exact ⟨m, hm, same, lt_of_lt_of_le listed (fewer _)⟩

theorem Provenance.listed_iff {s : Cloud κ} (origins : Provenance s) {m : Creation κ}
    (hm : m ∈ s.created) (chats : List ChatInfo) :
    Listed s.created chats m.chatID ↔ 0 < entriesOf chats m.roomID := by
  refine ⟨fun ⟨m', hm', same, listed⟩ => ?_, fun listed => ⟨m, hm, rfl, listed⟩⟩
  rwa [← origins.eq_of_chatID hm' hm same]

/-- What has been told belongs to a created chat. -/
theorem Provenance.exists_of_tells {s : Cloud κ} (origins : Provenance s) {c : κ} {chatID : String}
    (told : (s.devices c).tells chatID = true) : ∃ m ∈ s.created, m.chatID = chatID := by
  obtain ⟨data, shown⟩ := Option.isSome_iff_exists.mp told
  obtain ⟨reported, listening, here⟩ := Option.bind_eq_some_iff.mp shown
  obtain ⟨m, hm, same, -⟩ := (origins.data.devices c).reported reported listening chatID data here
  exact ⟨m, hm, same⟩

namespace Cloud

/-- The list of device `c` follows its chats listener. -/
def FollowsChats (s : Cloud κ) (c : κ) : Prop :=
  (s.devices c).Feeds (Listed s.created (s.devices c).messenger.chatInformationArray)

/-- The list can lose the entry: it has another one of the same document, or the
document is gone, or its appearance is still to be handled. -/
def Spare (s : Cloud κ) (c : κ) (info : ChatInfo) : Prop :=
  2 ≤ entriesOf (s.devices c).messenger.chatInformationArray info.chatLink ∨
    ∀ m ∈ s.created, m.roomID = info.chatLink → (s.devices c).tells m.chatID = false ∨
      Announces DocumentChange.word (s.devices c).changes m.chatID true

instance (s : Cloud κ) (c : κ) (info : ChatInfo) : Decidable (s.Spare c info) :=
  inferInstanceAs (Decidable (_ ≤ _ ∨ ∀ m ∈ s.created, m.roomID = _ → _ = false ∨ Announces ..))

/-- A removed document takes its own entry with it, the only one; or it has none, and
the entry of the same name that goes instead is spare. -/
def RemovesOwn (s : Cloud κ) (c : κ) (removed : ChatInfo) : Prop :=
  let chats := (s.devices c).messenger.chatInformationArray
  ∀ info ∈ chats.find? fun info => info.name == removed.name,
    if info.chatLink = removed.chatLink then entriesOf chats removed.chatLink = 1
    else entriesOf chats removed.chatLink = 0 ∧ s.Spare c info

instance (s : Cloud κ) (c : κ) (removed : ChatInfo) : Decidable (s.RemovesOwn c removed) := by
  unfold RemovesOwn
  infer_instance

/-- The reply has the documents that the listener has told and whose closure has run,
and no document that it has not told of. -/
def RepliesAsTold (s : Cloud κ) (c : κ) (reply : List ChatInfo) : Prop :=
  ∀ m ∈ s.created,
    (Listed s.created reply m.chatID → (s.devices c).tells m.chatID = true ∨
      Announces DocumentChange.word (s.devices c).changes m.chatID false) ∧
    ((s.devices c).tells m.chatID = true →
      Announces DocumentChange.word (s.devices c).changes m.chatID true ∨
        Listed s.created reply m.chatID)

instance (s : Cloud κ) (c : κ) (reply : List ChatInfo) : Decidable (s.RepliesAsTold c reply) :=
  inferInstanceAs (Decidable (∀ m ∈ s.created,
    (Listed .. → _ = true ∨ Announces ..) ∧ (_ = true → Announces .. ∨ Listed ..)))

/-- The acting device's list keeps following its listener: chats are added after the
listener has been set up, `deleteChat` finds an entry with the identifier of its
document, replies bring what has been told, and removals take out their own entry. -/
def KeepsList (s : Cloud κ) (a : Action κ) : Prop :=
  match a.event with
  | .addChat .. => (s.devices a.client).reported.isSome = true
  | .deleteChat name => ∀ info ∈ (s.devices a.client).messenger.chatInformationArray.find?
      (fun info => info.name == name),
        info.firebaseID ≠ FirestoreMessenger.placeholderID ∨ s.Spare a.client info
  | .runChats index =>
    match (s.devices a.client).chatsReplies[index]? with
    | some (some documents) =>
      documents ≠ [] → s.RepliesAsTold a.client (documents.filterMap ChatInfo.ofDictonary)
    | some none => s.RepliesAsTold a.client []
    | none => True
  | .runChange =>
    match (s.devices a.client).changes with
    | .removed _ data :: _ =>
      ∀ removed ∈ ChatInfo.ofDictonary data, s.RemovesOwn a.client removed
    | _ => True
  | _ => True

instance (s : Cloud κ) (a : Action κ) : Decidable (s.KeepsList a) := by
  unfold KeepsList
  split
  · infer_instance
  · infer_instance
  · split <;> infer_instance
  · split <;> infer_instance
  · infer_instance

section Step

variable [DecidableEq κ] {s t : Cloud κ} {a : Action κ} {c : κ}

/-- A new chat has no entries yet. -/
theorem listed_created (hstep : s.step a = some t) {chats : List ChatInfo}
    (known : ∀ info ∈ chats, ∃ m ∈ s.created, m.Version info) :
    Listed t.created chats = Listed s.created chats := by
  funext chatID
  refine propext ⟨?_, fun ⟨m, hm, same⟩ => ⟨m, step_created_subset hstep hm, same⟩⟩
  rintro ⟨m, hm, same, listed⟩
  refine ⟨m, ?_, same, listed⟩
  obtain ⟨info, hinfo, link⟩ := entriesOf_pos.mp listed
  rcases step_created_cases hstep with ⟨-, unchanged⟩ | ⟨new, creates, added⟩
  · rwa [← unchanged]
  · -- the link of an entry would be the new chat's, which is fresh
    rw [added] at hm
    refine (List.mem_append.mp hm).resolve_right fun last => ?_
    rw [List.mem_singleton.mp last] at link
    obtain ⟨m', hm', version⟩ := known info hinfo
    exact ((creates.fresh hstep).1 m' hm').2 (version.chatLink.symm.trans link)

/-- Events that are not about the list feed the listener at most. -/
theorem feeds_of_quiet {documents : Documents} {chatIDs : List String} {d d' : Device}
    {event : Event} {listed : String → Prop} (h : d.Feeds listed)
    (taken : d.step documents chatIDs event = some d') (quiet : event.relists = false) :
    d'.Feeds listed := by
  cases Device.moves taken with
  | method called once =>
    cases event with
    | setupObserverChats =>
      obtain rfl := Option.some.inj called
      -- the new listener has told nothing, like the missing one before
      have silent : d.tells = fun _ => false := by
        funext chatID
        rw [Device.tells, once rfl]
        rfl
      have same : (d.call documents d.messenger.setupObserverChats).tells = d.tells := by
        rw [silent]
        rfl
      rw [Device.Feeds, same]
      exact h
    | addChat | deleteChat => cases quiet
    | loadChatInfoArray =>
      obtain rfl := Option.some.inj called
      exact h.call documents (by simp [FirestoreMessenger.loadChatInfoArray])
    | closeDiscussRoom =>
      obtain rfl := Option.some.inj called
      refine h.call documents ?_
      simp [FirestoreMessenger.closeDiscussRoom, FirestoreMessenger.deleteObserverChatRoom]
    | startDiscussRoom name =>
      obtain rfl := Option.some.inj called
      refine h.call documents ?_
      rw [FirestoreMessenger.startDiscussRoom, FirestoreMessenger.loadDiscussionRoom]
      split <;> simp
    | loadDiscussionRoom =>
      obtain rfl := Option.some.inj called
      refine h.call documents ?_
      rw [FirestoreMessenger.loadDiscussionRoom]
      split <;> simp
    | setupObserverChatRoom =>
      obtain rfl := Option.some.inj called
      refine h.call documents ?_
      rw [FirestoreMessenger.setupObserverChatRoom]
      split <;> simp
    | sendMessage owner message now =>
      obtain rfl := Option.some.inj called
      refine h.call documents ?_
      rw [FirestoreMessenger.sendMessage]
      split <;> simp
    | _ => cases called
  | raiseChange => exact h.raise documents _
  | runChats => cases quiet
  | runChange => cases quiet
  | _ => exact h

/-- The user's own chat is listed, and told of at once. -/
theorem FollowsChats.addChat (h : s.FollowsChats a.client) (origins : Provenance s)
    {m : Creation κ} (creates : s.Creates a m)
    (listening : (s.devices a.client).reported.isSome = true) (hstep : s.step a = some t) :
    t.FollowsChats a.client := by
  let chats := (s.devices a.client).messenger.chatInformationArray
  let result : FirestoreMessenger × List FirestoreCall :=
    ({ (s.devices a.client).messenger with chatInformationArray := chats ++ [m.corrected] },
      m.writes.map .write)
  have called : (s.devices a.client).method a.event = some result := by
    rw [creates.event]
    simp [Device.method, FirestoreMessenger.addChat, creates.unused, result, chats,
      Creation.writes, Creation.roomPath, Creation.chatPath, Creation.placeholder,
      Creation.corrected]
  have reached := Device.step_of_method called (step_device hstep)
  have feeds : (t.devices a.client).Feeds (Listed t.created chats) := by
    rw [listed_created hstep fun _ => origins.version_of_entry, reached]
    exact Device.Feeds.call h s.documents (by simp [result])
  have told : (t.devices a.client).tells m.chatID = true := by
    rw [reached]
    refine Device.perform_write_tells (w := .setData m.chatPath m.corrected.dictonary)
      s.documents ?_ rfl
    rw [Device.perform_write_reported, Device.perform_write_reported]
    exact listening
  rw [FollowsChats, reached, Device.call_messenger, ← reached]
  -- the list has one entry more, and the feed tells of its document
  refine feeds.relist (fun chatID listed => ?_) fun chatID here => ?_
  · obtain ⟨m', hm', rfl, some_entry⟩ := listed
    rw [entriesOf_append, entriesOf_singleton] at some_entry
    by_cases own : m' = m
    · exact Or.inl (own ▸ told)
    · have origins' := origins.step hstep
      have other : m.corrected.chatLink ≠ m'.roomID := fun link =>
        own (origins'.eq_of_roomID hm' (creates.mem_created hstep) link.symm)
      rw [if_neg other, Nat.add_zero] at some_entry
      exact feeds.known m'.chatID ⟨m', hm', rfl, some_entry⟩
  · refine (feeds.complete chatID here).imp_right fun old => old.mono fun link => ?_
    rw [entriesOf_append]
    omega

/-- The user's own deletion is told at once. -/
theorem FollowsChats.deleteChat (h : s.FollowsChats a.client) (origins : Provenance s)
    (guard : s.KeepsList a) {name : String} (event : a.event = .deleteChat name)
    (hstep : s.step a = some t) : t.FollowsChats a.client := by
  let chats := (s.devices a.client).messenger.chatInformationArray
  have same : t.created = s.created := by rw [step_created hstep, createdAfter, event]
  have taken := step_device hstep
  rw [event] at taken
  obtain ⟨result, called, -⟩ := Option.map_eq_some_iff.mp taken
  obtain ⟨first, found, rfl⟩ := FirestoreMessenger.deleteChat_eq_some_iff.mp called
  have calls : (s.devices a.client).method (.deleteChat name) = some _ := called
  have reached := Device.step_of_method calls taken
  have feeds : (t.devices a.client).Feeds (Listed s.created chats) := by
    rw [reached]
    exact Device.Feeds.call h s.documents (by simp)
  have left : (t.devices a.client).messenger.chatInformationArray =
      chats.eraseP fun info => info.name == name := by
    rw [reached, Device.call_messenger]
  have told (chatID : String) : (t.devices a.client).tells chatID =
      ((s.devices a.client).tells chatID && chatID != first.firebaseID) := by
    rw [reached]
    exact Device.deleteChat_tells ..
  have one_less (link : String) : entriesOf chats link =
      entriesOf (chats.eraseP fun info => info.name == name) link +
        if first.chatLink = link then 1 else 0 := entriesOf_eraseP found link
  simp only [KeepsList, event] at guard
  rw [FollowsChats, same, left]
  -- only the entry taken out can be missed, and only if its document is still told of
  refine feeds.relist (fun chatID listed => ?_) fun chatID here => ?_
  · refine feeds.known chatID (listed.mono fun link => ?_)
    rw [one_less]
    omega
  · refine or_iff_not_imp_left.mpr fun later => ?_
    obtain ⟨m, hm, rfl, some_entry⟩ := (feeds.complete chatID here).resolve_left later
    rw [one_less] at some_entry
    refine ⟨m, hm, rfl, ?_⟩
    by_cases own : first.chatLink = m.roomID
    · have version := origins.version_of_link (List.mem_of_find?_eq_some found) hm own
      rw [told, Bool.and_eq_true, bne_iff_ne] at here
      rcases guard first found with finished | another | elsewhere
      · -- the document that is still told of would be the deleted one
        rw [version.eq_corrected finished] at here
        exact absurd rfl here.2
      · rw [one_less, own, if_pos rfl] at another
        omega
      · rcases elsewhere m hm own.symm with gone | soon
        · rw [gone] at here
          cases here.1
        · refine absurd ?_ later
          rw [reached]
          exact Device.call_announces s.documents soon _
    · rwa [if_neg own, Nat.add_zero] at some_entry

/-- An answer to `loadChatInfoArray` replaces the list by what has been told. -/
theorem FollowsChats.runChats (h : s.FollowsChats a.client) (origins : Provenance s)
    (guard : s.KeepsList a) {index : ℕ} (event : a.event = .runChats index)
    (hstep : s.step a = some t) : t.FollowsChats a.client := by
  have same : t.created = s.created := by rw [step_created hstep, createdAfter, event]
  have taken := step_device hstep
  rw [event] at taken
  have relisted := Device.relists taken
  have kept : (t.devices a.client).tells = (s.devices a.client).tells ∧
      (t.devices a.client).changes = (s.devices a.client).changes := by
    generalize t.devices a.client = d' at taken ⊢
    cases Device.moves taken with
    | method called => cases called
    | runChats waiting => exact ⟨rfl, rfl⟩
  rw [FollowsChats, Device.Feeds, same, kept.1, kept.2]
  have replaced (reply : List ChatInfo) (as_told : s.RepliesAsTold a.client reply) :
      (s.devices a.client).Feeds (Listed s.created reply) := by
    refine h.relist ?_ fun chatID here => ?_
    · rintro _ ⟨m, hm, rfl, listed⟩
      exact (as_told m hm).1 ⟨m, hm, rfl, listed⟩
    · obtain ⟨m, hm, rfl⟩ := origins.exists_of_tells here
      exact (as_told m hm).2 here
  simp only [KeepsList, event] at guard
  generalize (t.devices a.client).messenger.chatInformationArray = chats at relisted ⊢
  cases relisted with
  | keeps quiet => cases quiet
  | fails waiting =>
    -- an error empties the list, as an answer without documents would not
    rw [waiting] at guard
    exact replaced [] guard
  | loadsNothing => exact h
  | loads waiting nonempty =>
    rw [waiting] at guard
    exact replaced _ (guard nonempty)

omit [DecidableEq κ] in
/-- What remains listed when the first entry of a name is taken out for a removed
document. -/
theorem RemovesOwn.listed (origins : Provenance s) {m : Creation κ} (hm : m ∈ s.created)
    {removed : ChatInfo} (version : m.Version removed) (own : s.RemovesOwn c removed) :
    let chats := (s.devices c).messenger.chatInformationArray
    let left := chats.eraseP fun info => info.name == removed.name
    ¬ Listed s.created left m.chatID ∧
      ∀ m' ∈ s.created, m' ≠ m → Listed s.created chats m'.chatID →
        Listed s.created left m'.chatID ∨ (s.devices c).tells m'.chatID = false ∨
          Announces DocumentChange.word (s.devices c).changes m'.chatID true := by
  intro chats left
  -- the closure looks for the first entry of the removed document's name
  cases found : chats.find? fun info => info.name == removed.name with
  | none =>
    -- no entry has the name, so none is of the document
    have absent := List.find?_eq_none.mp found
    have same : left = chats := List.eraseP_of_forall_not absent
    rw [same]
    refine ⟨fun listed => ?_, fun m' _ _ listed => Or.inl listed⟩
    obtain ⟨info, hinfo, link⟩ := entriesOf_pos.mp ((origins.listed_iff hm chats).mp listed)
    refine absent info hinfo ?_
    rw [beq_iff_eq, (origins.version_of_link hinfo hm link).name, version.name]
  | some first =>
    have goes := own first found
    have one_less (link : String) : entriesOf chats link = entriesOf left link +
        if first.chatLink = link then 1 else 0 := entriesOf_eraseP found link
    have still {m' : Creation κ} (hm' : m' ∈ s.created) (apart : first.chatLink ≠ m'.roomID)
        (listed : Listed s.created chats m'.chatID) : Listed s.created left m'.chatID := by
      rw [origins.listed_iff hm', one_less, if_neg apart] at listed
      exact (origins.listed_iff hm' left).mpr listed
    rw [version.chatLink] at goes
    by_cases takes : first.chatLink = m.roomID
    · -- the entry that goes is the document's own, its only one
      rw [if_pos takes, one_less, if_pos takes] at goes
      refine ⟨fun listed => ?_, fun m' hm' other listed => Or.inl (still hm' ?_ listed)⟩
      · have remains := (origins.listed_iff hm left).mp listed
        omega
      · exact fun link => other (origins.eq_of_roomID hm' hm (link.symm.trans takes))
    · -- another entry of the name goes, and it is spare
      rw [if_neg takes, one_less, if_neg takes] at goes
      refine ⟨fun listed => ?_, fun m' hm' other listed => ?_⟩
      · have remains := (origins.listed_iff hm left).mp listed
        omega
      · by_cases takes' : first.chatLink = m'.roomID
        · rcases goes.2 with another | elsewhere
          · change 2 ≤ entriesOf chats first.chatLink at another
            rw [one_less, takes', if_pos rfl] at another
            exact Or.inl ((origins.listed_iff hm' left).mpr (by omega))
          · exact Or.inr (elsewhere m' hm' takes'.symm)
        · exact Or.inl (still hm' takes' listed)

section RunChange

variable {chatID : String} {data : Dictionary} {rest : List DocumentChange}

omit [DecidableEq κ] in
/-- The closure appends the entry of a document that appeared. -/
theorem FollowsChats.append (h : s.FollowsChats c) (origins : Provenance s)
    (queue : (s.devices c).changes = .added chatID data :: rest) {info : ChatInfo}
    (decoded : ChatInfo.ofDictonary data = some info) :
    Tracks DocumentChange.word (s.devices c).tells rest
      (Listed s.created ((s.devices c).messenger.chatInformationArray ++ [info])) := by
  rw [FollowsChats, Device.Feeds, queue] at h
  obtain ⟨m, hm, rfl, _, version, rfl, -⟩ :=
    (origins.data.devices c).changes _ (queue ▸ List.mem_cons_self)
  rw [ChatInfo.ofDictonary_stored, Option.some.injEq] at decoded
  subst decoded
  refine h.handle ?_ (by simp) ?_ fun chatID listed _ => Or.inl (listed.mono fun link => ?_)
  · -- only the document that appeared is new in the list
    rintro _ ⟨m', hm', rfl, listed⟩
    rw [entriesOf_append, entriesOf_singleton] at listed
    by_cases own : m' = m
    · exact Or.inr (by simp [own])
    · rw [version.chatLink, if_neg fun link => own (origins.eq_of_roomID hm' hm link.symm)]
        at listed
      exact Or.inl ⟨m', hm', rfl, listed⟩
  · intro chatID appeared
    obtain ⟨rfl, -⟩ := DocumentChange.word_added_eq_some.mp appeared
    refine ⟨m, hm, rfl, ?_⟩
    rw [entriesOf_append, entriesOf_singleton, if_pos version.chatLink]
    omega
  · rw [entriesOf_append]
    omega

omit [DecidableEq κ] in
/-- The closure removes the first entry of the name of a document that disappeared. -/
theorem FollowsChats.remove (h : s.FollowsChats c) (origins : Provenance s)
    (queue : (s.devices c).changes = .removed chatID data :: rest)
    (own : ∀ removed ∈ ChatInfo.ofDictonary data, s.RemovesOwn c removed) :
    Tracks DocumentChange.word (s.devices c).tells rest
      (Listed s.created (FirestoreMessenger.removeNamed
        ((ChatInfo.ofDictonary data).map ChatInfo.name)
        (s.devices c).messenger.chatInformationArray)) := by
  rw [FollowsChats, Device.Feeds, queue] at h
  obtain ⟨m, hm, rfl, info, version, rfl, -⟩ :=
    (origins.data.devices c).changes _ (queue ▸ List.mem_cons_self)
  have removes := own info (ChatInfo.ofDictonary_stored info)
  obtain ⟨none_left, others⟩ := removes.listed origins hm version
  rw [ChatInfo.ofDictonary_stored, Option.map_some, FirestoreMessenger.removeNamed_some]
  refine h.handle (fun chatID listed => Or.inl (listed.mono fun link => ?_)) ?_ (by simp) ?_
  · exact List.Sublist.countP_le (List.eraseP_sublist ..)
  · intro chatID disappeared
    obtain ⟨rfl, -⟩ := DocumentChange.word_removed_eq_some.mp disappeared
    exact none_left
  · rintro _ ⟨m', hm', rfl, listed⟩ stays
    have other : m' ≠ m := fun eq => stays (by simp [eq])
    rcases others m' hm' other ⟨m', hm', rfl, listed⟩ with still | absent | soon
    · exact Or.inl still
    · exact Or.inr (Or.inl absent)
    · -- what is about to be told of is not the change that is handled now
      rw [queue] at soon
      exact Or.inr (Or.inr (soon.of_cons.resolve_left (by simp)))

end RunChange

/-- The oldest change is handled. -/
theorem FollowsChats.runChange (h : s.FollowsChats a.client) (origins : Provenance s)
    (guard : s.KeepsList a) (event : a.event = .runChange) (hstep : s.step a = some t) :
    t.FollowsChats a.client := by
  have same : t.created = s.created := by rw [step_created hstep, createdAfter, event]
  have taken := step_device hstep
  rw [event] at taken
  have relisted := Device.relists taken
  obtain ⟨change, rest, queue, changes, tells⟩ : ∃ change rest,
      (s.devices a.client).changes = change :: rest ∧ (t.devices a.client).changes = rest ∧
        (t.devices a.client).tells = (s.devices a.client).tells := by
    generalize t.devices a.client = d' at taken ⊢
    cases Device.moves taken with
    | method called => cases called
    | runChange queue handled => exact ⟨_, _, queue, rfl, rfl⟩
  rw [FollowsChats, Device.Feeds, same, changes, tells]
  simp only [KeepsList, event] at guard
  generalize (t.devices a.client).messenger.chatInformationArray = chats at relisted ⊢
  cases relisted with
  | keeps quiet => cases quiet
  | appends now decoded =>
    obtain ⟨rfl, rfl⟩ := List.cons.inj (queue.symm.trans now)
    exact h.append origins queue decoded
  | modifies now =>
    obtain ⟨rfl, rfl⟩ := List.cons.inj (queue.symm.trans now)
    rw [FollowsChats, Device.Feeds, queue] at h
    -- a modification tells of no appearance and of no removal
    refine h.handle (fun _ => Or.inl) ?_ ?_ fun _ listed _ => Or.inl listed
    · simp [DocumentChange.word]
    · simp [DocumentChange.word]
  | removes now =>
    obtain ⟨rfl, rfl⟩ := List.cons.inj (queue.symm.trans now)
    rw [queue] at guard
    exact h.remove origins queue guard

/-- Every step keeps the list of device `c` following its listener, when its own steps
meet the condition. -/
theorem FollowsChats.step (h : s.FollowsChats c) (origins : Provenance s)
    (guard : a.client = c → s.KeepsList a) (hstep : s.step a = some t) : t.FollowsChats c := by
  by_cases acting : a.client = c
  · subst acting
    have taken := step_device hstep
    by_cases quiet : a.event.relists = false
    · rw [FollowsChats, (Device.relists taken).eq_of_quiet quiet,
        listed_created hstep fun _ => origins.version_of_entry]
      exact feeds_of_quiet h taken quiet
    · cases event : a.event with
      | addChat name x y now roomID chatID =>
        cases used : (s.devices a.client).messenger.chatIsExist name with
        | false =>
          have listening := guard rfl
          simp only [KeepsList, event] at listening
          exact h.addChat origins (m := ⟨a.client, name, x, y, now, roomID, chatID⟩)
            ⟨rfl, event, used⟩ listening hstep
        | true =>
          -- a refused chat changes nothing
          rw [event] at taken
          have same : t.devices a.client = s.devices a.client := by
            rw [Device.step_of_method rfl taken, FirestoreMessenger.addChat, if_pos used]
            rfl
          rw [FollowsChats, same, listed_created hstep fun _ => origins.version_of_entry]
          exact h
      | deleteChat name => exact h.deleteChat origins (guard rfl) event hstep
      | runChats index => exact h.runChats origins (guard rfl) event hstep
      | runChange => exact h.runChange origins (guard rfl) event hstep
      | _ => simp [event, Event.relists] at quiet
  · -- another device's step creates a chat at most
    rw [FollowsChats, step_devices_of_ne hstep (Ne.symm acting),
      listed_created hstep fun _ => origins.version_of_entry]
    exact h

omit [DecidableEq κ] in
theorem followsChats_init (c : κ) : (init : Cloud κ).FollowsChats c :=
  Tracks.init _ _ fun _ ⟨_, hm, _⟩ => by cases hm

end Step

/-- The device has received all snapshots: its listener has told the stored documents,
and every change has been handled. -/
def UpToDate (s : Cloud κ) (c : κ) : Prop :=
  (s.devices c).changes = [] ∧ ∃ told, (s.devices c).reported = some told ∧
    ∀ chatID, told chatID = s.documents ⟨.chats, chatID⟩

theorem Quiet.upToDate {s : Cloud κ} (h : s.Quiet) {c : κ}
    (listening : (s.devices c).reported.isSome = true) : s.UpToDate c := by
  obtain ⟨told, reported⟩ := Option.isSome_iff_exists.mp listening
  exact ⟨h.changes c, told, reported, h.told c told reported⟩

/-- The list of an up-to-date device lists the stored documents. -/
theorem FollowsChats.listed_iff {s : Cloud κ} {c : κ} (h : s.FollowsChats c)
    (upToDate : s.UpToDate c) (chatID : String) :
    Listed s.created (s.devices c).messenger.chatInformationArray chatID ↔
      (s.documents ⟨.chats, chatID⟩).isSome = true := by
  obtain ⟨handled, told, listening, agree⟩ := upToDate
  rw [FollowsChats, Device.Feeds, handled] at h
  rw [h.listed_iff, Device.tells, listening, Option.bind_some, agree]

end Cloud

end OnMap
