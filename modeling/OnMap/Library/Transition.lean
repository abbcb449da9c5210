/-
# Runs of a labelled machine

A machine is a partial step function on labelled steps. A run executes a list
of labels; a guard on steps restricts the runs a result is about; a monitor
records history beside the machine without ever blocking it.

The rules below carry one-step facts to whole runs. Nothing here depends on
what the states and labels are.
-/

import Mathlib.Data.Option.Basic
import Mathlib.Logic.Basic

namespace Transition

variable {σ α μ : Type*} {step : σ → α → Option σ}

/-- Execute the labels from left to right; `none` when some step is not enabled. -/
def exec (step : σ → α → Option σ) : σ → List α → Option σ
  | s, [] => some s
  | s, a :: rest => (step s a).bind fun t => exec step t rest

/-- Every step of the run meets `P`, which reads the state before the step and
its label. -/
def EveryStep (step : σ → α → Option σ) (P : σ → α → Prop) : σ → List α → Prop
  | _, [] => True
  | s, a :: rest => P s a ∧ ∀ t, step s a = some t → EveryStep step P t rest

/-- Every state of the run has `Q`, the first and the last included. -/
def EveryState (step : σ → α → Option σ) (Q : σ → Prop) : σ → List α → Prop
  | s, [] => Q s
  | s, a :: rest => Q s ∧ ∀ t, step s a = some t → EveryState step Q t rest

/-- A property of steps that can be decided can be checked along a run. -/
instance EveryStep.decidable {P : σ → α → Prop} [∀ s a, Decidable (P s a)] :
    ∀ s labels, Decidable (EveryStep step P s labels)
  | _, [] => isTrue trivial
  | s, a :: rest =>
    match taken : step s a with
    | none => decidable_of_iff (P s a) ⟨fun now => ⟨now, by simp [taken]⟩, And.left⟩
    | some t =>
      have := EveryStep.decidable (P := P) t rest
      decidable_of_iff (P s a ∧ EveryStep step P t rest) <| by
        rw [EveryStep, taken]
        simp only [Option.some.injEq, forall_eq']

theorem exec_cons_eq_some {s t : σ} {a : α} {rest : List α} :
    exec step s (a :: rest) = some t ↔ ∃ u, step s a = some u ∧ exec step u rest = some t := by
  simp only [exec, Option.bind_eq_some_iff]

/-- Running a concatenation is running its parts one after the other. -/
theorem exec_append (s : σ) (first second : List α) :
    exec step s (first ++ second) = (exec step s first).bind (exec step · second) := by
  induction first generalizing s with
  | nil => rfl
  | cons a rest ih =>
    simp only [List.cons_append, exec, Option.bind_assoc, ih]

section Invariants

variable {I : σ → Prop} {G P Q : σ → α → Prop}

/-- An invariant kept by every guarded step holds at the end of every run whose
steps all meet the guard. -/
theorem exec_invariant_of_everyStep
    (kept : ∀ s a t, I s → G s a → step s a = some t → I t)
    {s t : σ} {labels : List α} (start : I s) (guarded : EveryStep step G s labels)
    (run : exec step s labels = some t) : I t := by
  induction labels generalizing s with
  | nil =>
    obtain rfl := Option.some.inj run
    exact start
  | cons a rest ih =>
    obtain ⟨u, hstep, hrest⟩ := exec_cons_eq_some.mp run
    exact ih (kept s a u start guarded.1 hstep) (guarded.2 u hstep) hrest

/-- An invariant kept by every step holds at the end of every run. -/
theorem exec_invariant (kept : ∀ s a t, I s → step s a = some t → I t)
    {s t : σ} {labels : List α} (start : I s) (run : exec step s labels = some t) :
    I t := by
  induction labels generalizing s with
  | nil =>
    obtain rfl := Option.some.inj run
    exact start
  | cons a rest ih =>
    obtain ⟨u, hstep, hrest⟩ := exec_cons_eq_some.mp run
    exact ih (kept s a u start hstep) hrest

/-- An invariant of the guarded runs proves a fact about each of their steps. -/
theorem EveryStep.of_invariant
    (kept : ∀ s a t, I s → G s a → step s a = some t → I t)
    (fact : ∀ s a, I s → G s a → P s a)
    {s : σ} {labels : List α} (start : I s) (guarded : EveryStep step G s labels) :
    EveryStep step P s labels := by
  induction labels generalizing s with
  | nil => trivial
  | cons a rest ih =>
    refine ⟨fact s a start guarded.1, fun t hstep => ?_⟩
    exact ih (kept s a t start guarded.1 hstep) (guarded.2 t hstep)

/-- An invariant of the guarded runs proves a fact about each of their states. -/
theorem EveryState.of_guarded_invariant {R : σ → Prop}
    (kept : ∀ s a t, I s → G s a → step s a = some t → I t) (fact : ∀ s, I s → R s)
    {s : σ} {labels : List α} (start : I s) (guarded : EveryStep step G s labels) :
    EveryState step R s labels := by
  induction labels generalizing s with
  | nil => exact fact s start
  | cons a rest ih =>
    refine ⟨fact s start, fun t hstep => ?_⟩
    exact ih (kept s a t start guarded.1 hstep) (guarded.2 t hstep)

/-- An invariant proves a fact about every state of every run. -/
theorem EveryState.of_invariant {R : σ → Prop} (kept : ∀ s a t, I s → step s a = some t → I t)
    (fact : ∀ s, I s → R s) {s : σ} (start : I s) (labels : List α) :
    EveryState step R s labels := by
  induction labels generalizing s with
  | nil => exact fact s start
  | cons a rest ih => exact ⟨fact s start, fun t hstep => ih (kept s a t start hstep)⟩

/-- Two step properties that agree wherever an invariant holds agree on runs. -/
theorem everyStep_congr_of_invariant (kept : ∀ s a t, I s → step s a = some t → I t)
    (same : ∀ s a, I s → (P s a ↔ Q s a)) {s : σ} (start : I s) (labels : List α) :
    EveryStep step P s labels ↔ EveryStep step Q s labels := by
  induction labels generalizing s with
  | nil => exact Iff.rfl
  | cons a rest ih =>
    refine and_congr (same s a start) (forall_congr' fun t => forall_congr' fun hstep => ?_)
    exact ih (kept s a t start hstep)

theorem EveryState.first {R : σ → Prop} {s : σ} {labels : List α}
    (h : EveryState step R s labels) : R s := by
  cases labels with
  | nil => exact h
  | cons a rest => exact h.1

/-- What holds of every state holds at the end of any first part of the run. -/
theorem EveryState.of_append {R : σ → Prop} {s t : σ} {first rest : List α}
    (h : EveryState step R s (first ++ rest)) (run : exec step s first = some t) : R t := by
  induction first generalizing s with
  | nil =>
    obtain rfl := Option.some.inj run
    exact h.first
  | cons a first ih =>
    obtain ⟨u, hstep, hrest⟩ := exec_cons_eq_some.mp run
    exact ih (h.2 u hstep) hrest

/-- Where `P` says exactly which steps keep `R`, all states of a run have `R` exactly
if all its steps meet `P`. -/
theorem everyState_iff_everyStep {R : σ → Prop} (kept : ∀ s a t, I s → step s a = some t → I t)
    (keeps : ∀ s a, I s → R s → (P s a ↔ ∀ t, step s a = some t → R t))
    {s : σ} (start : I s) (first : R s) (labels : List α) :
    EveryState step R s labels ↔ EveryStep step P s labels := by
  induction labels generalizing s with
  | nil => exact iff_of_true first trivial
  | cons a rest ih =>
    have now := keeps s a start first
    constructor
    · rintro ⟨-, later⟩
      have next (t : σ) (hstep : step s a = some t) : R t := (later t hstep).first
      exact ⟨now.mpr next, fun t hstep =>
        (ih (kept s a t start hstep) (next t hstep)).mp (later t hstep)⟩
    · rintro ⟨meets, later⟩
      exact ⟨first, fun t hstep =>
        (ih (kept s a t start hstep) (now.mp meets t hstep)).mpr (later t hstep)⟩

/-- What holds of every step holds of the step after any first part of the run. -/
theorem EveryStep.of_append {s t : σ} {first rest : List α} {a : α}
    (h : EveryStep step P s (first ++ a :: rest)) (run : exec step s first = some t) : P t a := by
  induction first generalizing s with
  | nil =>
    obtain rfl := Option.some.inj run
    exact h.1
  | cons b first ih =>
    obtain ⟨u, hstep, hrest⟩ := exec_cons_eq_some.mp run
    exact ih (h.2 u hstep) hrest

/-- Either every step meets `P`, or the mark `J` that the first other step leaves
is there at the end. -/
theorem everyStep_or_of_exec {J : σ → Prop}
    (keptI : ∀ s a t, I s → G s a → step s a = some t → I t)
    (keptJ : ∀ s a t, J s → G s a → step s a = some t → J t)
    (marks : ∀ s a t, I s → G s a → ¬ P s a → step s a = some t → J t)
    {s t : σ} {labels : List α} (start : I s) (guarded : EveryStep step G s labels)
    (run : exec step s labels = some t) : EveryStep step P s labels ∨ J t := by
  induction labels generalizing s with
  | nil => exact Or.inl trivial
  | cons a rest ih =>
    obtain ⟨u, hstep, hrest⟩ := exec_cons_eq_some.mp run
    by_cases now : P s a
    · refine (ih (keptI s a u start guarded.1 hstep) (guarded.2 u hstep) hrest).imp_left ?_
      intro later
      refine ⟨now, fun v taken => ?_⟩
      obtain rfl := Option.some.inj (hstep.symm.trans taken)
      exact later
    · exact Or.inr (exec_invariant_of_everyStep keptJ (marks s a u start guarded.1 now hstep)
        (guarded.2 u hstep) hrest)

/-- What holds of every label holds of every step. -/
theorem EveryStep.of_forall_mem {Q : α → Prop} {s : σ} {labels : List α}
    (all : ∀ a ∈ labels, Q a) : EveryStep step (fun _ a => Q a) s labels := by
  induction labels generalizing s with
  | nil => trivial
  | cons a rest ih =>
    exact ⟨all a List.mem_cons_self, fun t _ => ih fun b hb => all b (List.mem_cons_of_mem _ hb)⟩

theorem EveryStep.and {s : σ} {labels : List α} (hP : EveryStep step P s labels)
    (hQ : EveryStep step Q s labels) :
    EveryStep step (fun s a => P s a ∧ Q s a) s labels := by
  induction labels generalizing s with
  | nil => trivial
  | cons a rest ih =>
    exact ⟨⟨hP.1, hQ.1⟩, fun t hstep => ih (hP.2 t hstep) (hQ.2 t hstep)⟩

end Invariants

section Monitor

/-! ### Monitors

A monitor keeps a record `μ` of the run. `note` reads the state before the step
and the label, so the monitor cannot influence the machine. -/

/-- The machine with a monitor beside it. -/
def watch (step : σ → α → Option σ) (note : σ → α → μ → μ) (sm : σ × μ) (a : α) :
    Option (σ × μ) :=
  (step sm.1 a).map fun t => (t, note sm.1 a sm.2)

variable {note : σ → α → μ → μ}

theorem watch_eq_some {sm tn : σ × μ} {a : α} :
    watch step note sm a = some tn ↔ step sm.1 a = some tn.1 ∧ note sm.1 a sm.2 = tn.2 := by
  simp only [watch, Option.map_eq_some_iff, Prod.ext_iff]
  constructor
  · rintro ⟨t, hstep, rfl, hnote⟩
    exact ⟨hstep, hnote⟩
  · rintro ⟨hstep, hnote⟩
    exact ⟨tn.1, hstep, rfl, hnote⟩

/-- What a step keeps, stated on the machine's step and the note. -/
theorem watch_kept {I : σ × μ → Prop}
    (kept : ∀ s m a t, I (s, m) → step s a = some t → I (t, note s a m)) :
    ∀ sm a tn, I sm → watch step note sm a = some tn → I tn := by
  rintro ⟨s, m⟩ a ⟨t, n⟩ holds taken
  obtain ⟨hstep, rfl⟩ := watch_eq_some.mp taken
  exact kept s m a t holds hstep

/-- What a guarded step keeps. -/
theorem watch_kept_of_guard {I : σ × μ → Prop} {G : σ × μ → α → Prop}
    (kept : ∀ s m a t, I (s, m) → G (s, m) a → step s a = some t → I (t, note s a m)) :
    ∀ sm a tn, I sm → G sm a → watch step note sm a = some tn → I tn := by
  rintro ⟨s, m⟩ a ⟨t, n⟩ holds guard taken
  obtain ⟨hstep, rfl⟩ := watch_eq_some.mp taken
  exact kept s m a t holds guard hstep

/-- Every run of the machine can be monitored. -/
theorem exists_exec_watch (note : σ → α → μ → μ) {s t : σ} {labels : List α} (m : μ)
    (run : exec step s labels = some t) :
    ∃ n, exec (watch step note) (s, m) labels = some (t, n) := by
  induction labels generalizing s m with
  | nil =>
    obtain rfl := Option.some.inj run
    exact ⟨m, rfl⟩
  | cons a rest ih =>
    obtain ⟨u, hstep, hrest⟩ := exec_cons_eq_some.mp run
    obtain ⟨n, hn⟩ := ih (note s a m) hrest
    exact ⟨n, exec_cons_eq_some.mpr ⟨(u, note s a m), watch_eq_some.mpr ⟨hstep, rfl⟩, hn⟩⟩

end Monitor

end Transition
