/-
# Documents under writes that are still on their way

A collection of documents is a partial map. A write replaces one document or
removes it, whatever was there before. A replica reads the shared documents
through its own queue of writes that have not been applied yet; this is the
overlay of the queue on the documents.
-/

import Mathlib.Data.List.Basic
import Mathlib.Logic.Function.Basic

namespace Overlay

variable {ι δ : Type*} [DecidableEq ι]

/-- A write puts a whole document under its key, or removes the key when it
carries nothing. -/
structure Write (ι δ : Type*) where
  key : ι
  value : Option δ

/-- The documents after one write. -/
def Write.apply (w : Write ι δ) (docs : ι → Option δ) : ι → Option δ :=
  Function.update docs w.key w.value

@[simp] theorem Write.apply_key (w : Write ι δ) (docs : ι → Option δ) :
    w.apply docs w.key = w.value := Function.update_self ..

theorem Write.apply_of_ne {w : Write ι δ} {i : ι} (h : w.key ≠ i) (docs : ι → Option δ) :
    w.apply docs i = docs i := Function.update_of_ne (Ne.symm h) ..

theorem Write.apply_apply_of_key_eq (w : Write ι δ) {i : ι} (h : w.key = i)
    (docs : ι → Option δ) : w.apply docs i = w.value := by
  subst h
  exact w.apply_key docs

/-- The documents as seen through a queue of writes, oldest first. -/
def overlay (docs : ι → Option δ) (queue : List (Write ι δ)) : ι → Option δ :=
  queue.foldl (fun docs w => w.apply docs) docs

variable {docs docs' : ι → Option δ} {queue : List (Write ι δ)} {w : Write ι δ} {i : ι} {d : δ}

/-- Applying the oldest write of the queue does not change what its owner sees. -/
@[simp] theorem overlay_cons : overlay docs (w :: queue) = overlay (w.apply docs) queue := rfl

theorem overlay_append (first second : List (Write ι δ)) :
    overlay docs (first ++ second) = overlay (overlay docs first) second :=
  List.foldl_append ..

/-- A new write is seen by its owner at once. -/
theorem overlay_concat : overlay docs (queue ++ [w]) = w.apply (overlay docs queue) :=
  overlay_append queue [w]

/-- A key that no queued write touches shows the shared document. -/
theorem overlay_of_forall_ne (untouched : ∀ w ∈ queue, w.key ≠ i) :
    overlay docs queue i = docs i := by
  induction queue generalizing docs with
  | nil => rfl
  | cons w queue ih =>
    rw [overlay_cons, ih fun v hv => untouched v (List.mem_cons_of_mem _ hv),
      Write.apply_of_ne (untouched w List.mem_cons_self)]

/-- The overlay shows under a key what depends on the shared document there only. -/
theorem overlay_congr (same : docs i = docs' i) : overlay docs queue i = overlay docs' queue i := by
  induction queue generalizing docs docs' with
  | nil => exact same
  | cons w queue ih =>
    rw [overlay_cons, overlay_cons]
    refine ih ?_
    by_cases hw : w.key = i
    · rw [w.apply_apply_of_key_eq hw, w.apply_apply_of_key_eq hw]
    · rw [Write.apply_of_ne hw, Write.apply_of_ne hw, same]

/-- What the overlay shows is the shared document or comes from a queued write. -/
theorem overlay_eq_or_mem (docs : ι → Option δ) (queue : List (Write ι δ)) (i : ι) :
    overlay docs queue i = docs i ∨ ∃ w ∈ queue, w.key = i ∧ overlay docs queue i = w.value := by
  induction queue generalizing docs with
  | nil => exact Or.inl rfl
  | cons w queue ih =>
    rcases @ih (w.apply docs) with shared | ⟨v, hv, hkey, hvalue⟩
    · by_cases hw : w.key = i
      · refine Or.inr ⟨w, List.mem_cons_self, hw, ?_⟩
        rw [overlay_cons, shared, w.apply_apply_of_key_eq hw]
      · rw [overlay_cons, shared, Write.apply_of_ne hw]
        exact Or.inl rfl
    · exact Or.inr ⟨v, List.mem_cons_of_mem _ hv, hkey, hvalue⟩

/-- A property of the shared document and of every queued document under a key
holds of what the overlay shows there. -/
theorem overlay_induction {P : δ → Prop} (shared : ∀ d, docs i = some d → P d)
    (queued : ∀ w ∈ queue, w.key = i → ∀ d, w.value = some d → P d)
    (shown : overlay docs queue i = some d) : P d := by
  rcases overlay_eq_or_mem docs queue i with h | ⟨w, hw, hkey, h⟩
  · exact shared d (h.symm.trans shown)
  · exact queued w hw hkey d (h.symm.trans shown)

/-- A write changes of what the overlay shows only its own key, and only if the queue
does not touch it. -/
theorem overlay_apply_cases (w : Write ι δ) (docs : ι → Option δ) (queue : List (Write ι δ))
    (i : ι) :
    overlay (w.apply docs) queue i = overlay docs queue i ∨
      w.key = i ∧ overlay (w.apply docs) queue i = w.value := by
  by_cases touched : w.key = i
  · induction queue generalizing docs with
    | nil => exact Or.inr ⟨touched, w.apply_apply_of_key_eq touched docs⟩
    | cons v queue ih =>
      rw [overlay_cons, overlay_cons]
      by_cases again : v.key = i
      · left
        apply overlay_congr
        rw [v.apply_apply_of_key_eq again, v.apply_apply_of_key_eq again]
      · -- the two writes are to different keys, so their order does not matter
        have swapped : overlay (v.apply (w.apply docs)) queue i =
            overlay (w.apply (v.apply docs)) queue i := by
          apply overlay_congr
          rw [Write.apply_of_ne again, w.apply_apply_of_key_eq touched,
            w.apply_apply_of_key_eq touched]
        rw [swapped]
        exact ih (v.apply docs)
  · left
    apply overlay_congr
    rw [Write.apply_of_ne touched]

/-- A property of the documents holds however many writes of the queue have been
applied. -/
def Throughout (P : (ι → Option δ) → Prop) (docs : ι → Option δ) (queue : List (Write ι δ)) :
    Prop :=
  ∀ applied, applied <+: queue → P (overlay docs applied)

section Throughout

variable {P : (ι → Option δ) → Prop}

theorem Throughout.shared (h : Throughout P docs queue) : P docs := h [] List.nil_prefix

theorem Throughout.cons (shared : P docs) (rest : Throughout P (w.apply docs) queue) :
    Throughout P docs (w :: queue) := by
  intro applied first
  rcases List.prefix_cons_iff.mp first with rfl | ⟨later, rfl, hlater⟩
  · exact shared
  · exact rest later hlater

theorem Throughout.tail (h : Throughout P docs (w :: queue)) :
    Throughout P (w.apply docs) queue := fun applied first =>
  h (w :: applied) (List.cons_prefix_cons.mpr ⟨rfl, first⟩)

theorem Throughout.append {more : List (Write ι δ)} (h : Throughout P docs queue)
    (later : Throughout P (overlay docs queue) more) : Throughout P docs (queue ++ more) := by
  rintro applied ⟨rest, split⟩
  rcases List.append_eq_append_iff.mp split with ⟨left, hqueue, -⟩ | ⟨taken, rfl, hmore⟩
  · exact h applied ⟨left, hqueue.symm⟩
  · rw [overlay_append]
    exact later taken ⟨rest, hmore.symm⟩

end Throughout

end Overlay
