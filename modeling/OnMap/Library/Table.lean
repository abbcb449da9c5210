/-
# Tables whose last row fills the gaps

A table is a list of rows. New rows are appended; when a row is deleted, the last
row moves into its place. Deletion therefore changes the order of the rows, but
takes out one row only, and leaves the first row where it is unless it is the one
that is deleted.

What holds of every row is kept by looking at the one row that is modified or appended.
-/

import Mathlib.Algebra.GroupWithZero.Nat
import Mathlib.Data.List.Perm.Basic

namespace Table

variable {ρ : Type*} {rows : List ρ} {row : ρ} {i : ℕ}

/-- Delete the row at an index: the last row moves into the freed place. -/
def delete (rows : List ρ) (i : ℕ) : List ρ :=
  match rows.getLast? with
  | none => rows
  | some last => (rows.set i last).dropLast

@[simp] theorem delete_concat (first : List ρ) (last : ρ) (i : ℕ) :
    delete (first ++ [last]) i = ((first ++ [last]).set i last).dropLast := by
  simp [delete]

/-- Up to the order, deletion takes out the row at the index. -/
theorem perm_delete (here : rows[i]? = some row) : rows.Perm (row :: delete rows i) := by
  obtain ⟨bound, rfl⟩ := List.getElem?_eq_some_iff.mp here
  rcases List.eq_nil_or_concat rows with rfl | ⟨first, last, rfl⟩
  · exact absurd bound (Nat.not_lt_zero i)
  · simp only [List.concat_eq_append, List.length_append, List.length_singleton] at bound ⊢
    rw [delete_concat]
    rcases Nat.lt_or_eq_of_le (Nat.le_of_lt_succ bound) with inside | rfl
    · -- the last row stands where the deleted one was
      rw [List.set_append_left i last inside, List.dropLast_concat,
        List.getElem_append_left inside, List.set_eq_take_append_cons_drop, if_pos inside]
      calc first ++ [last]
        _ = first.take i ++ first[i] :: first.drop (i + 1) ++ [last] := by
          rw [List.getElem_cons_drop, List.take_append_drop]
        _ |>.Perm (last :: (first.take i ++ first[i] :: first.drop (i + 1))) :=
          List.perm_append_singleton ..
        _ |>.Perm (last :: first[i] :: (first.take i ++ first.drop (i + 1))) :=
          List.perm_middle.cons last
        _ |>.Perm (first[i] :: last :: (first.take i ++ first.drop (i + 1))) :=
          List.Perm.swap ..
        _ |>.Perm (first[i] :: (first.take i ++ last :: first.drop (i + 1))) :=
          List.perm_middle.symm.cons _
    · simp [List.perm_append_singleton]

theorem length_delete (bound : i < rows.length) : (delete rows i).length = rows.length - 1 := by
  have same := (perm_delete (List.getElem?_eq_getElem bound)).length_eq
  rw [List.length_cons] at same
  omega

theorem mem_delete_iff (here : rows[i]? = some row) {other : ρ} :
    other ∈ rows ↔ other = row ∨ other ∈ delete rows i := by
  rw [(perm_delete here).mem_iff, List.mem_cons]

theorem mem_of_mem_delete (bound : i < rows.length) {other : ρ} (h : other ∈ delete rows i) :
    other ∈ rows :=
  (mem_delete_iff (List.getElem?_eq_getElem bound)).mpr (Or.inr h)

/-- The rows counted are one less if the deleted row was one of them. -/
theorem countP_delete (here : rows[i]? = some row) (p : ρ → Bool) :
    rows.countP p = (delete rows i).countP p + if p row then 1 else 0 := by
  rw [(perm_delete here).countP_eq, List.countP_cons]

/-- The last row stands where the deleted one was. -/
theorem getElem?_delete_self (inside : i + 1 < rows.length) :
    (delete rows i)[i]? = rows.getLast? := by
  rcases List.eq_nil_or_concat rows with rfl | ⟨first, last, rfl⟩
  · exact absurd inside (Nat.not_lt_zero _)
  · simp only [List.concat_eq_append, List.length_append, List.length_singleton] at inside ⊢
    have bound : i < first.length := by omega
    rw [delete_concat, List.set_append_left i last bound, List.dropLast_concat,
      List.getElem?_set_self bound, List.getLast?_concat]

/-- The rows before the last stay where they are, but for the deleted one. -/
theorem getElem?_delete_of_ne {j : ℕ} (apart : i ≠ j) (inside : j + 1 < rows.length) :
    (delete rows i)[j]? = rows[j]? := by
  rcases List.eq_nil_or_concat rows with rfl | ⟨first, last, rfl⟩
  · exact absurd inside (Nat.not_lt_zero _)
  · simp only [List.concat_eq_append, List.length_append, List.length_singleton] at inside ⊢
    have bound : j < first.length := by omega
    rw [delete_concat, List.getElem?_dropLast, List.length_set, List.length_append,
      List.length_singleton, Nat.add_sub_cancel, if_pos bound, List.getElem?_set_ne apart]

/-- The first row stays unless it is deleted. -/
theorem head?_delete (later : 0 < i) (bound : i < rows.length) :
    (delete rows i).head? = rows.head? := by
  rw [List.head?_eq_getElem?, List.head?_eq_getElem?]
  exact getElem?_delete_of_ne (Nat.ne_of_gt later) (by omega)

/-! ### What holds of every row -/

section Forall

variable {P : ℕ → ρ → Prop}

/-- What holds of every row is checked of the row that is modified. -/
theorem forall_modify {f : ρ → ρ} (here : rows[i]? = some row)
    (others : ∀ j other, i ≠ j → rows[j]? = some other → P j other) (new : P i (f row)) :
    ∀ j other, (rows.modify i f)[j]? = some other → P j other := by
  intro j other there
  by_cases same : i = j
  · subst same
    rw [List.getElem?_modify_eq, here] at there
    obtain rfl := Option.some.inj there
    exact new
  · rw [List.getElem?_modify_ne _ _ same] at there
    exact others j other same there

/-- What holds of every row is checked of the row that is appended. -/
theorem forall_concat (all : ∀ j other, rows[j]? = some other → P j other)
    (new : P rows.length row) : ∀ j other, (rows ++ [row])[j]? = some other → P j other := by
  intro j other there
  rcases Nat.lt_or_ge j rows.length with earlier | later
  · rw [List.getElem?_append_left earlier] at there
    exact all j other there
  · rw [List.getElem?_append_right later, List.getElem?_singleton] at there
    split at there
    case isTrue last =>
      obtain rfl := Option.some.inj there
      obtain rfl : j = rows.length := by omega
      exact new
    case isFalse => cases there

end Forall

/-- A row is modified before or after all rows are looked at through `g`. -/
theorem map_modify {κ : Type*} {f : ρ → ρ} {g : ρ → κ} {f' : κ → κ}
    (same : ∀ row, g (f row) = f' (g row)) (rows : List ρ) (i : ℕ) :
    (rows.modify i f).map g = (rows.map g).modify i f' := by
  apply List.ext_getElem?
  intro j
  rw [List.getElem?_map, List.getElem?_modify, List.getElem?_modify, List.getElem?_map,
    Option.map_eq_map, Option.map_eq_map, Option.map_map, Option.map_map]
  congr 1
  funext row
  by_cases here : i = j
  · simp only [Function.comp, if_pos here, same]
  · simp only [Function.comp, if_neg here]

/-- What the rows count up to, when one is modified. -/
theorem sum_modify (here : rows[i]? = some row) (count : ρ → ℕ) (f : ρ → ρ) :
    ((rows.modify i f).map count).sum + count row = (rows.map count).sum + count (f row) := by
  induction rows generalizing i with
  | nil => cases here
  | cons first rest ih =>
    cases i with
    | zero =>
      obtain rfl := Option.some.inj here
      simp only [List.modify_zero_cons, List.map_cons, List.sum_cons]
      omega
    | succ i =>
      have later := ih here
      simp only [List.modify_succ_cons, List.map_cons, List.sum_cons]
      omega

end Table
