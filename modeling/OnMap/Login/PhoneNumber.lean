/-
# Phone numbers in a text field

A phone field shows a number with spaces, hyphens and brackets; `getRealPhone` takes them
out again. A text is the list of its `Character`s.
-/

import Mathlib.Data.List.Basic

namespace OnMap

/-- An extended grapheme cluster. -/
abbrev Character := String

abbrev Text := List Character

/-- The range `1...count`; `none` is the trap of a range that ends below its start. -/
def closedRange (count : ℕ) : Option (List ℕ) :=
  if 1 ≤ count then some (List.range' 1 count) else none

namespace UITextField

/-- Neither a space nor a hyphen nor a bracket. -/
def isKept (i : Character) : Bool := i ≠ " " ∧ i ≠ "-" ∧ i ≠ ")" ∧ i ≠ "("

/-- One round of the loop over the text, on the array `st` and the counter `kPhone`. -/
def collect (loop : Text × ℕ) (i : Character) : Text × ℕ :=
  let st := if i ≠ "+" ∧ loop.2 = 0 then loop.1 ++ ["+"] else loop.1
  (if isKept i then st ++ [i] else st, loop.2 + 1)

def getRealPhone (phone : Text) : Option Text :=
  if phone = [] then some []
  else
    let st := (phone.foldl collect ([], 0)).1
    (closedRange st.length).bind fun range =>
      range.foldlM (fun newPhone i => (st[i - 1]?).map fun c => newPhone ++ [c]) []

/-- After the first round the loop filters. -/
theorem foldl_collect (st phone : Text) (kPhone : ℕ) :
    (phone.foldl collect (st, kPhone + 1)).1 = st ++ phone.filter isKept := by
  induction phone generalizing st kPhone with
  | nil => simp
  | cons i rest ih =>
    have later : ¬ (i ≠ "+" ∧ kPhone + 1 = 0) := by simp
    rw [List.foldl_cons, collect, if_neg later, ih]
    by_cases kept : isKept i = true <;> simp [kept]

/-- The first round puts a `+` before anything else than a `+`. -/
theorem collected_cons (i : Character) (rest : Text) :
    ((i :: rest).foldl collect ([], 0)).1 =
      if i = "+" then (i :: rest).filter isKept else "+" :: (i :: rest).filter isKept := by
  rw [List.foldl_cons, collect, foldl_collect]
  by_cases plus : i = "+"
  · subst plus
    rfl
  · by_cases kept : isKept i = true <;> simp [plus, kept]

/-- So the array is never empty. -/
theorem collected_ne_nil {phone : Text} (typed : phone ≠ []) :
    (phone.foldl collect ([], 0)).1 ≠ [] := by
  obtain ⟨i, rest, rfl⟩ := List.exists_cons_of_ne_nil typed
  rw [collected_cons]
  split
  case isTrue plus =>
    rw [plus, List.filter_cons_of_pos (by decide)]
    exact List.cons_ne_nil _ _
  case isFalse => exact List.cons_ne_nil _ _

/-- The second loop copies the array. -/
theorem foldlM_append (st : Text) {n : ℕ} (bound : n ≤ st.length) :
    (List.range' 1 n).foldlM (fun newPhone i => (st[i - 1]?).map fun c => newPhone ++ [c]) [] =
      some (st.take n) := by
  induction n with
  | zero => rfl
  | succ n ih =>
    have inside : n < st.length := bound
    rw [List.range'_concat, List.foldlM_append, ih (Nat.le_of_succ_le bound)]
    simp [List.getElem?_eq_getElem inside, List.take_append_getElem inside]

/-- `getRealPhone` never traps. -/
theorem getRealPhone_eq (phone : Text) :
    getRealPhone phone = some (phone.foldl collect ([], 0)).1 := by
  rw [getRealPhone]
  split
  case isTrue empty => rw [empty]; rfl
  case isFalse typed =>
    have count := List.length_pos_iff.mpr (collected_ne_nil typed)
    simp only [closedRange, if_pos (Nat.succ_le_of_lt count), Option.bind_some]
    rw [foldlM_append _ (Nat.le_refl _), List.take_length]

end UITextField

end OnMap
