/-
# Runs that come to an end

Some labels of a machine work off what is under way, and a count of the work that is left
bounds how long they can go on. When some of them is enabled as long as work is left, the
machine can always be brought to a state without work, by these labels alone.

`Reaches` says that a state can be brought to another by labels of one kind; goals that stay
once they are met can be met one after the other.
-/

import OnMap.Library.Transition
import Mathlib.Data.Nat.Notation

namespace Transition

variable {σ α ι : Type*} {step : σ → α → Option σ} {I : σ → Prop} {L : α → Prop} {s t u : σ}

/-- Labels of the kind `L` lead from `s` to `t`. -/
def Reaches (step : σ → α → Option σ) (L : α → Prop) (s t : σ) : Prop :=
  ∃ labels, (∀ a ∈ labels, L a) ∧ exec step s labels = some t

namespace Reaches

theorem refl (s : σ) : Reaches step L s s := ⟨[], nofun, rfl⟩

theorem single {a : α} (kind : L a) (taken : step s a = some t) : Reaches step L s t :=
  ⟨[a], by simpa using kind, exec_cons_eq_some.mpr ⟨t, taken, rfl⟩⟩

theorem trans (first : Reaches step L s t) (second : Reaches step L t u) :
    Reaches step L s u := by
  obtain ⟨labels, kind, run⟩ := first
  obtain ⟨more, kind', run'⟩ := second
  refine ⟨labels ++ more, fun a ha => (List.mem_append.mp ha).elim (kind a) (kind' a), ?_⟩
  rw [exec_append, run]
  exact run'

theorem mono {L' : α → Prop} (weaker : ∀ a, L a → L' a) (h : Reaches step L s t) :
    Reaches step L' s t := by
  obtain ⟨labels, kind, run⟩ := h
  exact ⟨labels, fun a ha => weaker a (kind a ha), run⟩

/-- An invariant of the steps of the kind holds in what is reached. -/
theorem invariant (h : Reaches step L s t) (kept : ∀ s a t, I s → L a → step s a = some t → I t)
    (start : I s) : I t := by
  obtain ⟨labels, kind, run⟩ := h
  exact exec_invariant_of_everyStep kept start (EveryStep.of_forall_mem kind) run

end Reaches

section Work

variable (step) (work : σ → ℕ)

/-- Labels that each take off some work do not go on for longer than there is work. -/
theorem length_add_work_le (kept : ∀ s a t, I s → L a → step s a = some t → I t)
    (less : ∀ s a t, I s → L a → step s a = some t → work t < work s) {labels : List α}
    (start : I s) (kind : ∀ a ∈ labels, L a) (run : exec step s labels = some t) :
    labels.length + work t ≤ work s := by
  induction labels generalizing s with
  | nil =>
    obtain rfl := Option.some.inj run
    simp
  | cons a rest ih =>
    obtain ⟨u, taken, later⟩ := exec_cons_eq_some.mp run
    have now : L a := kind a List.mem_cons_self
    have fewer := less s a u start now taken
    have bound := ih (kept s a u start now taken)
      (fun b hb => kind b (List.mem_cons_of_mem _ hb)) later
    rw [List.length_cons]
    omega

/-- As long as work is left, a step takes some of it off; so all of it can be taken off. -/
theorem exists_reaches_work_eq_zero
    (progress : ∀ s, I s → 0 < work s → ∃ a t, L a ∧ step s a = some t ∧ I t ∧ work t < work s)
    (start : I s) : ∃ t, Reaches step L s t ∧ I t ∧ work t = 0 := by
  -- on the work that is left
  induction left : work s using Nat.strongRecOn generalizing s with
  | ind n ih =>
    rcases Nat.eq_zero_or_pos n with none | some
    · exact ⟨s, .refl s, start, left.trans none⟩
    · obtain ⟨a, u, kind, taken, kept, fewer⟩ := progress s start (left ▸ some)
      obtain ⟨t, later, holds, done⟩ := ih (work u) (left ▸ fewer) kept rfl
      exact ⟨t, (Reaches.single kind taken).trans later, holds, done⟩

end Work

/-- Goals that can each be met without losing the others can all be met. -/
theorem exists_reaches_forall_mem (step : σ → α → Option σ) {F : ι → σ → Prop}
    (meets : ∀ i s, I s → ∃ t, Reaches step L s t ∧ I t ∧ F i t ∧ ∀ j, F j s → F j t)
    (goals : List ι) (start : I s) : ∃ t, Reaches step L s t ∧ I t ∧ ∀ i ∈ goals, F i t := by
  have all : ∃ t, Reaches step L s t ∧ I t ∧ (∀ i ∈ goals, F i t) ∧ ∀ j, F j s → F j t := by
    induction goals generalizing s with
    | nil => exact ⟨s, .refl s, start, nofun, fun _ => id⟩
    | cons i rest ih =>
      obtain ⟨u, first, kept, met, others⟩ := meets i s start
      obtain ⟨t, later, holds, rest_met, still⟩ := ih kept
      refine ⟨t, first.trans later, holds, fun j hj => ?_, fun j hj => still j (others j hj)⟩
      rcases List.mem_cons.mp hj with rfl | hj
      · exact still j met
      · exact rest_met j hj
  obtain ⟨t, reached, holds, met, -⟩ := all
  exact ⟨t, reached, holds, met⟩

end Transition
