/-
# Profiles and the local table of profiles

The database keeps a record of each user under `users`, the storage a photo. A
device keeps the profiles it has looked up in a Realm table of `Person` objects.
The first row is a sentinel with an empty identifier, which a search that finds
nothing returns.

The functions below are those of `AccountLocalStorage` on the rows of the table;
`none` is a trap: a range below its lower end or a subscript out of range.
-/

import OnMap.Firestore.Value
import OnMap.Library.Table
import Mathlib.Data.Int.DivMod

namespace OnMap

/-- An image, told by its content. A photo is stored as PNG data, which decodes to
the same image. -/
structure UIImage where
  content : String
  deriving DecidableEq, Repr

/-- `UIImage(named: "saucer")`, shown for a user without a photo. -/
def UIImage.saucer : UIImage := ⟨"saucer"⟩

/-- `Date().description`, which renders whole seconds; an instant counts
milliseconds. -/
def Date.description (now : Date) : String := toString (now / 1000)

/-! ### User records -/

/-- `value?[key] as? String ?? ""` -/
def textAt (value : Option Dictionary) (key : String) : String :=
  ((value.bind fun fields => fields key).bind Value.asString).getD ""

/-- `updateChildValues`: the named children are replaced, the others stay. -/
def updateChildValues (values : List (String × Value)) (record : Option Dictionary) :
    Option Dictionary :=
  some fun key => (values.lookup key).or (record.bind fun fields => fields key)

theorem textAt_updateChildValues_of_lookup {values : List (String × Value)} {key text : String}
    (written : values.lookup key = some (.string text)) (record : Option Dictionary) :
    textAt (updateChildValues values record) key = text := by
  simp [textAt, updateChildValues, written, Value.asString]

theorem textAt_updateChildValues_of_ne {values : List (String × Value)} {key : String}
    (unwritten : values.lookup key = none) (record : Option Dictionary) :
    textAt (updateChildValues values record) key = textAt record key := by
  simp [textAt, updateChildValues, unwritten]

/-! ### The table -/

/-- The fields of a `Person`. -/
structure Person where
  name : String := ""
  surname : String := ""
  id : String := ""
  date : String := ""
  image : Option UIImage := none
  deriving DecidableEq, Repr

/-- A row of the table; `object` tells apart two objects of the same fields. -/
structure Row where
  object : ℕ
  person : Person
  deriving DecidableEq, Repr

namespace AccountLocalStorage

/-- The row of the first `setupRealm`. -/
def sentinel (object : ℕ) : Row := ⟨object, {}⟩

/-- `checkPerson`: the first row of the identifier, or else `items[0]`. -/
def checkPerson (items : List Row) (id : String) : Option Row :=
  match items with
  -- the range `0...items.count - 1` of an empty table
  | [] => none
  | first :: _ => some ((items.find? fun row => row.person.id == id).getD first)

/-- What `addPerson` deletes from a full table: `items[1]`. -/
def evict (items : List Row) : Option (List Row) :=
  if items.length = 10 then
    if 1 < items.length then some (Table.delete items 1) else none
  else some items

def addPerson (items : List Row) (item : Row) : Option (List Row) :=
  (evict items).map fun items => items ++ [item]

/-- `updatePerson`: the first row of the identifier is deleted; the new one is added
even when there was none. -/
def updatePerson (items : List Row) (item : Row) : Option (List Row) :=
  match items with
  | [] => none
  | _ :: _ =>
    match items.findIdx? fun row => row.person.id == item.person.id with
    | some i => some (Table.delete items i ++ [item])
    | none => some (items ++ [item])

/-- How many rows have the identifier. -/
def rowsOf (items : List Row) (id : String) : ℕ := items.countP fun row => row.person.id == id

/-- The first row is the sentinel. -/
def HasSentinel (items : List Row) : Prop := ∃ row ∈ items.head?, row.person.id = ""

instance (items : List Row) : Decidable (HasSentinel items) :=
  inferInstanceAs (Decidable (∃ row ∈ items.head?, _))

section Lemmas

variable {items kept items' : List Row} {item row : Row} {id : String}

theorem rowsOf_pos : 0 < rowsOf items id ↔ ∃ row ∈ items, row.person.id = id := by
  simp [rowsOf, List.countP_pos_iff]

theorem rowsOf_concat : rowsOf (items ++ [item]) id =
    rowsOf items id + if item.person.id = id then 1 else 0 := by
  simp [rowsOf, List.countP_append, List.countP_singleton]

theorem HasSentinel.ne_nil (h : HasSentinel items) : items ≠ [] := by
  rintro rfl
  obtain ⟨row, first, -⟩ := h
  cases first

theorem HasSentinel.append (h : HasSentinel items) (more : List Row) :
    HasSentinel (items ++ more) := by
  obtain ⟨row, first, sentinel⟩ := h
  exact ⟨row, by simp [Option.mem_def.mp first], sentinel⟩

theorem HasSentinel.delete (h : HasSentinel items) {i : ℕ} (later : 0 < i)
    (bound : i < items.length) : HasSentinel (Table.delete items i) := by
  rwa [HasSentinel, Table.head?_delete later bound]

/-- A row of a non-empty identifier does not stand first. -/
theorem HasSentinel.pos (h : HasSentinel items) {i : ℕ} (here : items[i]? = some row)
    (named : row.person.id ≠ "") : 0 < i := by
  rcases Nat.eq_zero_or_pos i with rfl | later
  · obtain ⟨first, head, sentinel⟩ := h
    rw [← List.head?_eq_getElem?, Option.mem_def.mp head, Option.some.injEq] at here
    exact absurd (here ▸ sentinel) named
  · exact later

/-- A table with a sentinel can be searched. A row of another identifier than the one
asked for is the sentinel, and then no row has the identifier. -/
theorem HasSentinel.checkPerson (h : HasSentinel items) (id : String) :
    ∃ row, checkPerson items id = some row ∧ row ∈ items ∧
      (row.person.id = id ∨
        items.head? = some row ∧ row.person.id = "" ∧ rowsOf items id = 0) := by
  obtain ⟨first, head, sentinel⟩ := h
  obtain ⟨rest, rfl⟩ := List.head?_eq_some_iff.mp head
  cases found : (first :: rest).find? fun row => row.person.id == id with
  | some row =>
    refine ⟨row, by simp only [AccountLocalStorage.checkPerson, found, Option.getD_some],
      List.mem_of_find?_eq_some found, Or.inl ?_⟩
    simpa using List.find?_some found
  | none =>
    refine ⟨first, by simp only [AccountLocalStorage.checkPerson, found, Option.getD_none],
      List.mem_cons_self, Or.inr ⟨rfl, sentinel, ?_⟩⟩
    simpa [rowsOf, List.countP_eq_zero] using found

/-- `items[1]` exists in a full table. -/
theorem evict_cases (items : List Row) :
    (items.length ≠ 10 ∧ evict items = some items) ∨
      items.length = 10 ∧ ∃ row, items[1]? = some row ∧
        evict items = some (Table.delete items 1) := by
  rw [evict]
  split
  case isTrue full =>
    have bound : 1 < items.length := by omega
    exact Or.inr ⟨full, items[1], List.getElem?_eq_getElem bound, if_pos bound⟩
  case isFalse room => exact Or.inl ⟨room, rfl⟩

/-- What `addPerson` leaves of the table are old rows. -/
theorem mem_of_evict (evicted : evict items = some kept) (h : row ∈ kept) : row ∈ items := by
  rcases evict_cases items with ⟨-, same⟩ | ⟨full, first, -, same⟩
  · exact Option.some.inj (evicted.symm.trans same) ▸ h
  · rw [Option.some.inj (evicted.symm.trans same)] at h
    exact Table.mem_of_mem_delete (by omega) h

theorem HasSentinel.evict (h : HasSentinel items) (evicted : evict items = some kept) :
    HasSentinel kept := by
  rcases evict_cases items with ⟨-, same⟩ | ⟨full, first, -, same⟩
  · exact Option.some.inj (evicted.symm.trans same) ▸ h
  · rw [Option.some.inj (evicted.symm.trans same)]
    exact h.delete Nat.one_pos (by omega)

/-- The eviction makes room. -/
theorem length_evict (evicted : AccountLocalStorage.evict items = some kept) :
    kept.length = if items.length = 10 then 9 else items.length := by
  rcases evict_cases items with ⟨room, same⟩ | ⟨full, first, -, same⟩
  · rw [if_neg room, Option.some.inj (evicted.symm.trans same)]
  · rw [if_pos full, Option.some.inj (evicted.symm.trans same), Table.length_delete (by omega),
      full]

theorem addPerson_eq_some_iff : addPerson items item = some items' ↔
    ∃ kept, evict items = some kept ∧ items' = kept ++ [item] := by
  rw [addPerson, Option.map_eq_some_iff]
  exact exists_congr fun kept => and_congr_right fun _ => eq_comm

theorem exists_addPerson (items : List Row) (item : Row) :
    ∃ items', addPerson items item = some items' := by
  rcases evict_cases items with ⟨-, same⟩ | ⟨-, -, -, same⟩ <;>
    exact ⟨_, addPerson_eq_some_iff.mpr ⟨_, same, rfl⟩⟩

/-- `updatePerson` replaces the first row of the identifier; without one it only adds. -/
theorem updatePerson_cases (items : List Row) (item : Row) :
    (items = [] ∧ updatePerson items item = none) ∨
      (∃ i row, items[i]? = some row ∧ row.person.id = item.person.id ∧
        (items.find? fun row => row.person.id == item.person.id) = some row ∧
        updatePerson items item = some (Table.delete items i ++ [item])) ∨
      items ≠ [] ∧ rowsOf items item.person.id = 0 ∧
        (items.find? fun row => row.person.id == item.person.id) = none ∧
        updatePerson items item = some (items ++ [item]) := by
  cases items with
  | nil => exact Or.inl ⟨rfl, rfl⟩
  | cons first rest =>
    cases found : (first :: rest).findIdx? fun row => row.person.id == item.person.id with
    | some i =>
      obtain ⟨bound, same, before⟩ := List.findIdx?_eq_some_iff_getElem.mp found
      refine Or.inr (Or.inl ⟨i, (first :: rest)[i], List.getElem?_eq_getElem bound,
        by simpa using same, ?_, by simp only [updatePerson, found]⟩)
      rw [List.find?_eq_some_iff_getElem]
      exact ⟨same, i, bound, rfl, fun j hj => by simpa using before j hj⟩
    | none =>
      have absent := List.findIdx?_eq_none_iff.mp found
      refine Or.inr (Or.inr ⟨by simp, ?_, ?_, by simp only [updatePerson, found]⟩)
      · rw [rowsOf, List.countP_eq_zero]
        exact fun row hrow => by simp [absent row hrow]
      · rw [List.find?_eq_none]
        exact fun row hrow => by simp [absent row hrow]

theorem HasSentinel.exists_updatePerson (h : HasSentinel items) (item : Row) :
    ∃ items', updatePerson items item = some items' := by
  rcases updatePerson_cases items item with ⟨empty, -⟩ | ⟨_, _, -, -, -, same⟩ | ⟨-, -, -, same⟩
  · exact absurd empty h.ne_nil
  · exact ⟨_, same⟩
  · exact ⟨_, same⟩

end Lemmas

end AccountLocalStorage

end OnMap
