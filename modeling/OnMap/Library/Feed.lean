/-
# A listing kept by a feed of changes

A source has keys that appear and disappear. A feed tells of this by changes, which
wait in a queue; whoever handles them keeps a listing of the keys. A change tells
that a key appeared, that it disappeared, or nothing about it.

The listing follows the feed when every listed key is present or about to be told
gone, and every present key is listed or about to be told of. Then the two agree
whenever the queue is empty.
-/

import Mathlib.Data.List.Basic

namespace Feed

variable {ι χ : Type*} {word : χ → ι → Option Bool}

/-- Some change of the queue tells this of the key. -/
def Announces (word : χ → ι → Option Bool) (queue : List χ) (i : ι) (b : Bool) : Prop :=
  ∃ c ∈ queue, word c i = some b

instance (queue : List χ) (i : ι) (b : Bool) :
    Decidable (Announces word queue i b) :=
  inferInstanceAs (Decidable (∃ c ∈ queue, _ = _))

/-- What the queue tells last of a key. -/
def lastWord (word : χ → ι → Option Bool) (queue : List χ) (i : ι) : Option Bool :=
  queue.foldr (fun c later => later.or (word c i)) none

section LastWord

variable {c : χ} {queue : List χ} {i : ι} {b : Bool}

@[simp] theorem lastWord_nil (word : χ → ι → Option Bool) (i : ι) : lastWord word [] i = none := rfl

@[simp] theorem lastWord_cons :
    lastWord word (c :: queue) i = (lastWord word queue i).or (word c i) := rfl

theorem lastWord_concat :
    lastWord word (queue ++ [c]) i = (word c i).or (lastWord word queue i) := by
  induction queue with
  | nil => simp
  | cons d queue ih => rw [List.cons_append, lastWord_cons, ih, lastWord_cons, Option.or_assoc]

theorem announces_of_lastWord (last : lastWord word queue i = some b) :
    Announces word queue i b := by
  induction queue with
  | nil => cases last
  | cons c queue ih =>
    rcases Option.or_eq_some_iff.mp last with later | ⟨-, first⟩
    · obtain ⟨d, hd, tells⟩ := ih later
      exact ⟨d, List.mem_cons_of_mem _ hd, tells⟩
    · exact ⟨c, List.mem_cons_self, first⟩

theorem Announces.of_cons (h : Announces word (c :: queue) i b) :
    word c i = some b ∨ Announces word queue i b := by
  obtain ⟨d, hd, tells⟩ := h
  rcases List.mem_cons.mp hd with rfl | later
  · exact Or.inl tells
  · exact Or.inr ⟨d, later, tells⟩

theorem Announces.concat (h : Announces word queue i b) (c : χ) :
    Announces word (queue ++ [c]) i b := by
  obtain ⟨d, hd, tells⟩ := h
  exact ⟨d, List.mem_append_left _ hd, tells⟩

theorem announces_concat (tells : word c i = some b) : Announces word (queue ++ [c]) i b :=
  ⟨c, List.mem_append_right _ (List.mem_singleton_self _), tells⟩

end LastWord

/-- The listing follows the feed: `present` is what has been told, `queue` what is
not handled yet. -/
structure Tracks (word : χ → ι → Option Bool) (present : ι → Bool) (queue : List χ)
    (listed : ι → Prop) : Prop where
  told : ∀ i b, lastWord word queue i = some b → present i = b
  known : ∀ i, listed i → present i = true ∨ Announces word queue i false
  complete : ∀ i, present i = true → Announces word queue i true ∨ listed i

namespace Tracks

variable {present present' : ι → Bool} {c : χ} {queue : List χ} {listed listed' : ι → Prop}

theorem init (word : χ → ι → Option Bool) (listed : ι → Prop) (empty : ∀ i, ¬ listed i) :
    Tracks word (fun _ => false) [] listed where
  told _ _ last := by cases last
  known i here := absurd here (empty i)
  complete _ here := by cases here

/-- The feed tells one more change. -/
theorem tell (h : Tracks word present queue listed)
    (tells : ∀ i, present' i = (word c i).getD (present i)) :
    Tracks word present' (queue ++ [c]) listed where
  told i b last := by
    rw [lastWord_concat] at last
    rw [tells]
    -- the last word is the new change's, if it tells of the key at all
    rcases Option.or_eq_some_iff.mp last with new | ⟨silent, old⟩
    · rw [new, Option.getD_some]
    · rw [silent, Option.getD_none]
      exact h.told i b old
  known i here := by
    rw [tells]
    cases new : word c i with
    | none => exact (h.known i here).imp id fun old => old.concat c
    | some b =>
      cases b with
      | true => exact Or.inl rfl
      | false => exact Or.inr (announces_concat new)
  complete i here := by
    rw [tells] at here
    cases new : word c i with
    | none =>
      rw [new, Option.getD_none] at here
      exact (h.complete i here).imp (fun old => old.concat c) id
    | some b =>
      rw [new, Option.getD_some] at here
      exact Or.inl (announces_concat (here ▸ new))

/-- The oldest change is handled. Keys that leave the listing without being told gone
must be gone, or about to be told of. -/
theorem handle (h : Tracks word present (c :: queue) listed)
    (before : ∀ i, listed' i → listed i ∨ word c i = some true)
    (gone : ∀ i, word c i = some false → ¬ listed' i)
    (added : ∀ i, word c i = some true → listed' i)
    (kept : ∀ i, listed i → word c i ≠ some false →
      listed' i ∨ present i = false ∨ Announces word queue i true) :
    Tracks word present queue listed' where
  told i b last := h.told i b (by rw [lastWord_cons, last, Option.some_or])
  known i here := by
    rcases before i here with old | new
    · -- a key told gone by this change is not listed any more
      rcases h.known i old with there | soon
      · exact Or.inl there
      · exact Or.inr (soon.of_cons.resolve_left fun now => gone i now here)
    · -- a new key is present unless a later change tells it gone
      cases last : lastWord word queue i with
      | none => exact Or.inl (h.told i true (by rw [lastWord_cons, last, new, Option.none_or]))
      | some b =>
        cases b with
        | true => exact Or.inl (h.told i true (by rw [lastWord_cons, last, Option.some_or]))
        | false => exact Or.inr (announces_of_lastWord last)
  complete i here := by
    rcases h.complete i here with soon | old
    -- what was about to be told of still is, or is listed now
    · exact soon.of_cons.symm.imp id (added i)
    · by_cases now : word c i = some false
      · -- present although told gone, so a later change tells of it again
        cases last : lastWord word queue i with
        | none =>
          have absent := h.told i false (by rw [lastWord_cons, last, now, Option.none_or])
          rw [absent] at here
          cases here
        | some b =>
          have same := h.told i b (by rw [lastWord_cons, last, Option.some_or])
          exact Or.inl (announces_of_lastWord (by rw [last, ← same, here]))
      · rcases kept i old now with still | absent | soon
        · exact Or.inr still
        · rw [absent] at here
          cases here
        · exact Or.inl soon

/-- The listing is replaced. -/
theorem relist (h : Tracks word present queue listed)
    (known : ∀ i, listed' i → present i = true ∨ Announces word queue i false)
    (complete : ∀ i, present i = true → Announces word queue i true ∨ listed' i) :
    Tracks word present queue listed' := ⟨h.told, known, complete⟩

/-- When every change has been handled, exactly the present keys are listed. -/
theorem listed_iff (h : Tracks word present [] listed) (i : ι) :
    listed i ↔ present i = true := by
  have none (b : Bool) : ¬ Announces word [] i b := fun ⟨_, hc, _⟩ => by cases hc
  exact ⟨fun here => (h.known i here).resolve_right (none _),
    fun here => (h.complete i here).resolve_left (none _)⟩

end Tracks

end Feed
