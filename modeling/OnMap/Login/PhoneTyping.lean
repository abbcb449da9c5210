/-
# Typing a phone number

Four screens have a field for a phone number, and each formats the field anew after every
keystroke. The keystrokes go to the end of a text with separators in it, and a deletion may
leave separators at the end.

To the user the field is a plain buffer all the same: separators stand before characters,
never behind the last one, so the character that is deleted is the last of the number.
-/

import OnMap.Login.PhoneFormat

namespace OnMap

open UITextField PhoneNumber

/-- A text field for a phone number. -/
structure PhoneField where
  text : Text := []
  borderWidth : ℕ := 0

namespace PhoneField

/-- What the `editingChangedPhone` of every screen does to the text. -/
def editingChangedPhone (textField : PhoneField) : Option PhoneField :=
  if textField.text ≠ [] then
    (workWithPhone textField.text).map fun text => { textField with text := text }
  else some { textField with text := ["+"] }

/-- A full number is highlighted. -/
def highlight (textField : PhoneField) : PhoneField :=
  { textField with borderWidth := if textField.text.length = 18 then 1 else 0 }

end PhoneField

def LoginViewController.editingChangedPhone (textField : PhoneField) : Option PhoneField :=
  textField.editingChangedPhone.map PhoneField.highlight

def PhoneAuthViewContoller.editingChangedPhone (textField : PhoneField) : Option PhoneField :=
  textField.editingChangedPhone.map PhoneField.highlight

def ChangePhoneViewController.editingChangedPhone (textField : PhoneField) : Option PhoneField :=
  textField.editingChangedPhone

def NewPhoneViewController.editingChangedPhone (textField : PhoneField) : Option PhoneField :=
  textField.editingChangedPhone

/-- The class of a screen with a field for a phone number. -/
inductive PhoneFieldClass
  | loginViewController
  | phoneAuthViewContoller
  | changePhoneViewController
  | newPhoneViewController

namespace PhoneFieldClass

def editingChangedPhone : PhoneFieldClass → PhoneField → Option PhoneField
  | loginViewController => LoginViewController.editingChangedPhone
  | phoneAuthViewContoller => PhoneAuthViewContoller.editingChangedPhone
  | changePhoneViewController => ChangePhoneViewController.editingChangedPhone
  | newPhoneViewController => NewPhoneViewController.editingChangedPhone

end PhoneFieldClass

/-- A keystroke at the end of the text. -/
inductive Key
  | append (c : Character)
  | delete

/-- The field after a keystroke; an empty text has nothing to delete. -/
def PhoneField.press (screen : PhoneFieldClass) (textField : PhoneField) :
    Key → Option PhoneField
  | .append c => screen.editingChangedPhone { textField with text := textField.text ++ [c] }
  | .delete =>
    if textField.text = [] then none
    else screen.editingChangedPhone { textField with text := textField.text.dropLast }

/-- The keys, from the empty field on. -/
def PhoneField.typed (screen : PhoneFieldClass) (keys : List Key) : Option PhoneField :=
  keys.foldlM (press screen) {}

/-! ### The plain buffer -/

/-- The buffer after a key; `first` says that it is the very first. -/
def Key.edit (first : Bool) (b : Text) : Key → Text
  | .append c => if isKept c = false ∨ first = true ∧ c = "+" then b else b ++ [c]
  | .delete => b.dropLast

def buffer : List Key → Text
  | [] => []
  | key :: rest => rest.foldl (Key.edit false) (key.edit true [])

namespace PhoneField

variable {n : PhoneNumber} {textField : PhoneField}

/-- Every screen formats the number in the text; that of an empty text is empty. -/
theorem exists_editingChangedPhone (screen : PhoneFieldClass) (textField : PhoneField) :
    ∃ after, screen.editingChangedPhone textField = some after ∧
      after.text = (ofText textField.text).formatted := by
  have formats : textField.editingChangedPhone =
      some { textField with text := (ofText textField.text).formatted } := by
    rw [editingChangedPhone]
    split
    case isTrue typed => rw [workWithPhone_of_ne_nil typed, Option.map_some]
    case isFalse empty =>
      rw [not_not.mp empty]
      rfl
  cases screen with
  | loginViewController | phoneAuthViewContoller =>
    exact ⟨highlight _, congrArg (Option.map highlight) formats, rfl⟩
  | changePhoneViewController | newPhoneViewController => exact ⟨_, formats, rfl⟩

/-- The login screen highlights a number of eleven digits. -/
theorem highlighted_iff {after : PhoneField}
    (edited : LoginViewController.editingChangedPhone textField = some after) :
    after.borderWidth = 1 ↔ (ofText textField.text).digits.length = 11 := by
  obtain ⟨_, formats, text⟩ := exists_editingChangedPhone .loginViewController textField
  obtain rfl := Option.some.inj (edited.symm.trans formats)
  obtain ⟨shown, -, rfl⟩ := Option.map_eq_some_iff.mp edited
  have full : shown.text.length = 18 ↔ (ofText textField.text).text.length = 12 := by
    rw [← length_formatted_eq_18_iff, ← text]
    rfl
  have number : (ofText textField.text).text.length =
      (ofText textField.text).digits.length + 1 := rfl
  have width : shown.highlight.borderWidth = 1 ↔ shown.text.length = 18 := by simp [highlight]
  rw [width, full, number]
  exact Nat.succ_inj

/-- A character is typed behind the number. -/
theorem digits_append (n : PhoneNumber) (c : Character) :
    (ofText (n.formatted ++ [c])).digits = (Key.append c).edit false n.digits := by
  have behind : (ofText (n.formatted ++ [c])).digits =
      (spaced 2 n.digits ++ [c]).filter isKept := rfl
  rw [behind, List.filter_append, filter_spaced, filter_digits, Key.edit]
  cases kept : isKept c <;> simp [kept]

/-- The deleted character is the last of the number, and takes no separator with it. -/
theorem digits_delete (n : PhoneNumber) :
    (ofText n.formatted.dropLast).digits = Key.delete.edit false n.digits := by
  rw [formatted_eq, Key.edit]
  rcases List.eq_nil_or_concat n.digits with empty | ⟨front, last, digits⟩
  · -- only the `+` is left, and goes
    rw [empty]
    rfl
  · rw [List.concat_eq_append] at digits
    have shown : "+" :: spaced 2 (front ++ [last]) =
        ("+" :: (spaced 2 front ++ separate [] (2 + front.length))) ++ [last] := by
      rw [spaced_append, spaced, spaced, List.cons_append, List.append_assoc]
    have left : (ofText ("+" :: (spaced 2 front ++ separate [] (2 + front.length)))).digits =
        (spaced 2 front ++ separate [] (2 + front.length)).filter isKept := rfl
    rw [digits, shown, List.dropLast_concat, left, List.filter_append, filter_separate,
      List.append_nil, filter_spaced, List.dropLast_concat]
    refine List.filter_eq_self.mpr fun i mem => n.kept i ?_
    rw [digits]
    exact List.mem_append_left _ mem

/-- One key. -/
theorem exists_press (screen : PhoneFieldClass) (shown : textField.text = n.formatted)
    (key : Key) : ∃ after m, textField.press screen key = some after ∧
      after.text = formatted m ∧ m.digits = key.edit false n.digits := by
  cases key with
  | append c =>
    obtain ⟨after, edited, text⟩ :=
      exists_editingChangedPhone screen { textField with text := textField.text ++ [c] }
    refine ⟨after, _, edited, text, ?_⟩
    rw [shown]
    exact digits_append n c
  | delete =>
    obtain ⟨after, edited, text⟩ :=
      exists_editingChangedPhone screen { textField with text := textField.text.dropLast }
    refine ⟨after, _, ?_, text, ?_⟩
    · rw [press, if_neg (shown ▸ n.formatted_ne_nil), edited]
    · rw [shown]
      exact digits_delete n

/-- Any number of keys. -/
theorem exists_presses (screen : PhoneFieldClass) (shown : textField.text = n.formatted)
    (keys : List Key) : ∃ after m, keys.foldlM (press screen) textField = some after ∧
      after.text = formatted m ∧ m.digits = keys.foldl (Key.edit false) n.digits := by
  induction keys generalizing textField n with
  | nil => exact ⟨textField, n, rfl, shown, rfl⟩
  | cons key rest ih =>
    obtain ⟨next, m, pressed, text, digits⟩ := exists_press screen shown key
    obtain ⟨after, last, rest_pressed, text, rest_digits⟩ := ih text
    refine ⟨after, last, ?_, text, ?_⟩
    · rw [List.foldlM_cons, pressed]
      exact rest_pressed
    · rw [List.foldl_cons, ← digits, rest_digits]

/-- The first key makes a number of the empty field. -/
theorem digits_first (c : Character) :
    (ofText [c]).digits = (Key.append c).edit true [] := by
  rw [Key.edit]
  by_cases plus : c = "+"
  · rw [plus]
    rfl
  · have other : [c].head? ≠ some "+" := fun same => plus (Option.some.inj same)
    rw [digits_of_other other]
    cases kept : isKept c <;> simp [kept, plus]

/-- However a number is typed and corrected, the field is the formatted buffer, and stripping
it gives the buffer back. -/
theorem typed_is_buffer (screen : PhoneFieldClass) (c : Character) (keys : List Key) :
    ∃ after, typed screen (.append c :: keys) = some after ∧
      workWithPhone ("+" :: buffer (.append c :: keys)) = some after.text ∧
      getRealPhone after.text = some ("+" :: buffer (.append c :: keys)) := by
  obtain ⟨first, edited, text⟩ := exists_editingChangedPhone screen { text := [c] }
  obtain ⟨after, n, pressed, text, digits⟩ := exists_presses screen text keys
  have number : "+" :: buffer (.append c :: keys) = n.text := by
    rw [PhoneNumber.text, digits, digits_first, buffer]
  refine ⟨after, ?_, ?_, ?_⟩
  · rw [typed, List.foldlM_cons]
    have start : press screen {} (.append c) = some first := edited
    rw [start]
    exact pressed
  · rw [number, workWithPhone_of_ne_nil n.text_ne_nil, ofText_text, text]
  · rw [number, text, getRealPhone_of_ne_nil n.formatted_ne_nil, ofText_formatted]

end PhoneField

end OnMap
