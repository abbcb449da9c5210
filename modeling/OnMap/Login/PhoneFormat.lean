/-
# Formatting a phone number

While a phone number is typed it is shown with a space, brackets and hyphens before its
third, sixth, ninth and eleventh characters. `workWithPhone` formats a text, whether it was
formatted before or not, and `getRealPhone` takes the format out again. `UILabel` has a
copy of `workWithPhone` for a number that is only shown.

What either makes of a text depends on the number in it: the characters that are kept. A
text that does not begin with a `+` gets one, so a separator before the number's own `+`
makes another number of it.
-/

import OnMap.Login.PhoneNumber
import Mathlib.Data.List.Induction
import Mathlib.Tactic.SplitIfs

namespace OnMap

namespace UITextField

/-- The separators that are put before the character at a position, counted from 1. -/
def separate (newPhone : Text) (i : ℕ) : Text :=
  let newPhone := if i = 3 then newPhone ++ [" ", "("] else newPhone
  let newPhone := if i = 6 then newPhone ++ [")", " "] else newPhone
  let newPhone := if i = 9 then newPhone ++ ["-"] else newPhone
  if i = 11 then newPhone ++ ["-"] else newPhone

/-- `none` is the trap of the range `1...st.count`. -/
def workWithPhone (phone : Text) : Option Text :=
  let st := (phone.foldl collect ([], 0)).1
  (closedRange st.length).bind fun range =>
    range.foldlM (fun newPhone i => (st[i - 1]?).map fun c => separate newPhone i ++ [c]) []

end UITextField

open UITextField

/-- The copy on `UILabel`, which returns an empty text at once. -/
def UILabel.workWithPhone (phone : Text) : Option Text :=
  if phone = [] then some []
  else
    let st := (phone.foldl collect ([], 0)).1
    (closedRange st.length).bind fun range =>
      range.foldlM (fun newPhone i => (st[i - 1]?).map fun c => separate newPhone i ++ [c]) []

/-- A number without separators: a `+` and what follows it. -/
@[ext]
structure PhoneNumber where
  digits : Text
  kept : ∀ i ∈ digits, isKept i = true

namespace PhoneNumber

/-- The number as `getRealPhone` returns it. -/
def text (n : PhoneNumber) : Text := "+" :: n.digits

/-- The number in a text: what is kept of it, apart from a `+` that the text begins with. -/
def ofText (phone : Text) : PhoneNumber where
  digits := (if phone.head? = some "+" then phone.tail else phone).filter isKept
  kept _ mem := (List.mem_filter.mp mem).2

/-- The characters from a position on, each behind its separators. -/
def spaced : ℕ → Text → Text
  | _, [] => []
  | i, c :: rest => separate [] i ++ c :: spaced (i + 1) rest

/-- The number as `workWithPhone` shows it. -/
def formatted (n : PhoneNumber) : Text := spaced 1 n.text

/-! ### Separators -/

theorem separate_eq (newPhone : Text) (i : ℕ) :
    separate newPhone i = newPhone ++ separate [] i := by
  simp only [separate]
  split <;> split <;> split <;> split <;> simp

theorem filter_separate (i : ℕ) : (separate [] i).filter isKept = [] := by
  simp only [separate]
  split <;> split <;> split <;> split <;> rfl

theorem filter_spaced (i : ℕ) (st : Text) : (spaced i st).filter isKept = st.filter isKept := by
  induction st generalizing i with
  | nil => rfl
  | cons c rest ih =>
    rw [spaced, List.filter_append, filter_separate, List.nil_append, List.filter_cons,
      List.filter_cons, ih]

theorem spaced_append (i : ℕ) (first second : Text) :
    spaced i (first ++ second) = spaced i first ++ spaced (i + first.length) second := by
  induction first generalizing i with
  | nil => rfl
  | cons c rest ih =>
    rw [List.cons_append, spaced, spaced, ih, List.append_assoc, List.cons_append,
      List.length_cons, Nat.add_comm rest.length, Nat.add_assoc]

theorem length_separate (i : ℕ) : (separate [] i).length =
    (if i = 3 then 2 else 0) + (if i = 6 then 2 else 0) + (if i = 9 then 1 else 0) +
      (if i = 11 then 1 else 0) := by
  simp only [separate]
  split <;> split <;> split <;> split <;> rfl

/-- What is put before a position is counted from that position on. -/
theorem count_succ (position width n : ℕ) : (if position ≤ n + 1 then width else 0) =
    (if position ≤ n then width else 0) + if n + 1 = position then width else 0 := by
  split_ifs <;> omega

/-- How long a formatted text is. -/
theorem length_spaced (st : Text) : (spaced 1 st).length =
    st.length + (if 3 ≤ st.length then 2 else 0) + (if 6 ≤ st.length then 2 else 0) +
      (if 9 ≤ st.length then 1 else 0) + (if 11 ≤ st.length then 1 else 0) := by
  induction st using List.reverseRecOn with
  | nil => rfl
  | append_singleton st c ih =>
    have last : (spaced (1 + st.length) [c]).length = (separate [] (st.length + 1)).length + 1 := by
      rw [spaced, spaced, List.length_append, List.length_singleton, Nat.add_comm 1]
    rw [spaced_append, List.length_append, ih, last, length_separate, List.length_append,
      List.length_singleton, count_succ 3, count_succ 6, count_succ 9, count_succ 11]
    omega

/-! ### The number in a text -/

theorem digits_of_plus {phone : Text} (plus : phone.head? = some "+") :
    (ofText phone).digits = phone.tail.filter isKept :=
  congrArg (List.filter isKept) (if_pos plus)

theorem digits_of_other {phone : Text} (other : phone.head? ≠ some "+") :
    (ofText phone).digits = phone.filter isKept :=
  congrArg (List.filter isKept) (if_neg other)

/-- The array that the first loop leaves holds the number. -/
theorem collected_eq {phone : Text} (typed : phone ≠ []) :
    (phone.foldl collect ([], 0)).1 = (ofText phone).text := by
  obtain ⟨i, rest, rfl⟩ := List.exists_cons_of_ne_nil typed
  rw [collected_cons]
  by_cases plus : i = "+"
  · subst plus
    rfl
  · have other : (i :: rest).head? ≠ some "+" := fun same => plus (Option.some.inj same)
    rw [if_neg plus, text, digits_of_other other]

/-- The second loop puts the separators in front. -/
theorem foldlM_separate (st : Text) {n : ℕ} (bound : n ≤ st.length) :
    (List.range' 1 n).foldlM
      (fun newPhone i => (st[i - 1]?).map fun c => separate newPhone i ++ [c]) [] =
        some (spaced 1 (st.take n)) := by
  induction n with
  | zero => rfl
  | succ n ih =>
    have inside : n < st.length := bound
    have short : (st.take n).length = n := List.length_take_of_le (Nat.le_of_lt inside)
    rw [List.range'_concat, List.foldlM_append, ih (Nat.le_of_succ_le bound),
      ← List.take_append_getElem inside, spaced_append, short]
    simp [List.getElem?_eq_getElem inside, spaced, separate_eq (spaced 1 _)]

theorem getRealPhone_of_ne_nil {phone : Text} (typed : phone ≠ []) :
    getRealPhone phone = some (ofText phone).text := by
  rw [getRealPhone_eq, collected_eq typed]

/-- The range is never invalid for a text that is not empty. -/
theorem workWithPhone_of_ne_nil {phone : Text} (typed : phone ≠ []) :
    workWithPhone phone = some (ofText phone).formatted := by
  have count : 1 ≤ (ofText phone).text.length := Nat.succ_pos _
  rw [workWithPhone, collected_eq typed]
  simp only [closedRange, if_pos count, Option.bind_some]
  rw [foldlM_separate _ (Nat.le_refl _), List.take_length, formatted]

theorem UILabel_workWithPhone {phone : Text} (typed : phone ≠ []) :
    UILabel.workWithPhone phone = workWithPhone phone :=
  if_neg typed

theorem filter_digits (n : PhoneNumber) : n.digits.filter isKept = n.digits :=
  List.filter_eq_self.mpr n.kept

@[simp] theorem ofText_text (n : PhoneNumber) : ofText n.text = n :=
  PhoneNumber.ext n.filter_digits

/-- The first two characters have no separators before them. -/
theorem formatted_eq (n : PhoneNumber) : n.formatted = "+" :: spaced 2 n.digits := rfl

@[simp] theorem ofText_formatted (n : PhoneNumber) : ofText n.formatted = n := by
  ext1
  have digits : (ofText n.formatted).digits = (spaced 2 n.digits).filter isKept := rfl
  rw [digits, filter_spaced, filter_digits]

theorem formatted_ne_nil (n : PhoneNumber) : n.formatted ≠ [] := List.cons_ne_nil _ _

theorem text_ne_nil (n : PhoneNumber) : n.text ≠ [] := List.cons_ne_nil _ _

theorem text_injective : Function.Injective text := Function.LeftInverse.injective ofText_text

theorem formatted_injective : Function.Injective formatted :=
  Function.LeftInverse.injective ofText_formatted

/-- A full number has eleven digits behind its `+`. -/
theorem length_formatted_eq_18_iff (n : PhoneNumber) :
    n.formatted.length = 18 ↔ n.text.length = 12 := by
  rw [formatted, length_spaced]
  split_ifs <;> omega

end PhoneNumber

open PhoneNumber

/-! ### Formatting and stripping -/

/-- Formatting and stripping a text that is not empty never trap and are inverse to each
other, on the label as in the field, and a formatted number is full exactly if the stripped
one is. -/
theorem UITextField.phone_round_trips {p : Text} (typed : p ≠ []) :
    ∃ formatted real, workWithPhone p = some formatted ∧ getRealPhone p = some real ∧
      getRealPhone formatted = some real ∧ workWithPhone real = some formatted ∧
      workWithPhone formatted = some formatted ∧ UILabel.workWithPhone p = some formatted ∧
      (formatted.length = 18 ↔ real.length = 12) := by
  let n := ofText p
  have formats : workWithPhone p = some n.formatted := workWithPhone_of_ne_nil typed
  refine ⟨n.formatted, n.text, formats, getRealPhone_of_ne_nil typed, ?_, ?_, ?_, ?_,
    n.length_formatted_eq_18_iff⟩
  · rw [getRealPhone_of_ne_nil n.formatted_ne_nil, ofText_formatted]
  · rw [workWithPhone_of_ne_nil n.text_ne_nil, ofText_text]
  · rw [workWithPhone_of_ne_nil n.formatted_ne_nil, ofText_formatted]
  · rw [UILabel_workWithPhone typed, formats]

/-- A text that starts with a hyphen, has a `+` inside and ends in a bracket. -/
theorem UITextField.phone_round_trips_hyphen :
    ∃ formatted real, workWithPhone ["-", "7", "+", "1", "("] = some formatted ∧
      getRealPhone ["-", "7", "+", "1", "("] = some real ∧
      getRealPhone formatted = some real ∧ workWithPhone real = some formatted ∧
      workWithPhone formatted = some formatted ∧
      UILabel.workWithPhone ["-", "7", "+", "1", "("] = some formatted ∧
      (formatted.length = 18 ↔ real.length = 12) :=
  phone_round_trips (List.cons_ne_nil _ _)

/-! ### Separators that are typed -/

/-- What is kept of a text is its number, with the `+` if the text begins with it. -/
theorem filter_isKept (phone : Text) : phone.filter isKept =
    if phone.head? = some "+" then (ofText phone).text else (ofText phone).digits := by
  split
  case isTrue plus =>
    obtain ⟨rest, rfl⟩ := List.head?_eq_some_iff.mp plus
    rw [text, digits_of_plus plus]
    rfl
  case isFalse other => exact (digits_of_other other).symm

/-- Two texts that keep the same characters hold the same number exactly if both of them or
none of them begins with the `+`. -/
theorem ofText_eq_iff {p q : Text} (same : p.filter isKept = q.filter isKept) :
    ofText p = ofText q ↔ (p.head? = some "+" ↔ q.head? = some "+") := by
  rw [filter_isKept p, filter_isKept q] at same
  constructor
  · intro equal
    rw [equal] at same
    by_cases first : p.head? = some "+" <;> by_cases second : q.head? = some "+"
    · exact iff_of_true first second
    · -- one more character is kept of the text with the `+` in front
      rw [if_pos first, if_neg second] at same
      exact absurd (congrArg List.length same) (Nat.succ_ne_self _)
    · rw [if_neg first, if_pos second] at same
      exact absurd (congrArg List.length same).symm (Nat.succ_ne_self _)
    · exact iff_of_false first second
  · intro both
    ext1
    by_cases first : p.head? = some "+"
    · rw [if_pos first, if_pos (both.mp first)] at same
      exact List.tail_eq_of_cons_eq same
    · rwa [if_neg first, if_neg (mt both.mpr first)] at same

/-- Two texts with the same characters apart from separators give the same number, stripped
and formatted, exactly if both of them or none of them begins with a `+`. -/
theorem UITextField.spacing_irrelevant_iff {p q : Text}
    (same : p.filter isKept = q.filter isKept) (some_kept : p.filter isKept ≠ []) :
    (getRealPhone p = getRealPhone q ∧ workWithPhone p = workWithPhone q) ↔
      (p.head? = some "+" ↔ q.head? = some "+") := by
  have first : p ≠ [] := by
    rintro rfl
    exact some_kept rfl
  have second : q ≠ [] := by
    rintro rfl
    exact some_kept same
  rw [getRealPhone_of_ne_nil first, getRealPhone_of_ne_nil second, workWithPhone_of_ne_nil first,
    workWithPhone_of_ne_nil second, Option.some_inj, Option.some_inj, text_injective.eq_iff,
    formatted_injective.eq_iff, and_self, ofText_eq_iff same]

/-- `8 (9` and `89`. -/
theorem UITextField.spacing_irrelevant_bracket :
    getRealPhone ["8", " ", "(", "9"] = getRealPhone ["8", "9"] ∧
      workWithPhone ["8", " ", "(", "9"] = workWithPhone ["8", "9"] :=
  (spacing_irrelevant_iff (by decide) (by decide)).mpr (by decide)

/-- A space before `+7` is taken for the missing `+`. -/
theorem UITextField.not_spacing_irrelevant : ¬ ∀ p q : Text,
    p.filter isKept = q.filter isKept → p.filter isKept ≠ [] →
      getRealPhone p = getRealPhone q ∧ workWithPhone p = workWithPhone q := by
  intro irrelevant
  exact absurd (irrelevant [" ", "+", "7"] ["+", "7"] (by decide) (by decide)) (by decide)

end OnMap
