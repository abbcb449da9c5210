/-
# Field values and dictionaries

The messenger hands dictionaries of Swift values to Firestore and gets
dictionaries back. A stored `Date` comes back as a `Timestamp`; every other
value comes back as it went. Casts accept a value only when it already has the
named type, but for `as? Double`: integers and flags come back as an `NSNumber`,
which the cast accepts when a `Double` holds its number exactly.
-/

import Mathlib.Algebra.Group.Nat.Defs
import Mathlib.Data.Int.Notation
import Mathlib.Data.List.Basic

namespace OnMap

/-- A 64-bit floating point number, kept as its bits: coordinates are carried
around and never computed with. -/
structure Double where
  bits : UInt64
  deriving DecidableEq, Repr

/-- `Double(exactly:)` of an integer: the sign, the exponent and the 52 digits after
the leading one, if these are all of its digits. -/
def Double.exactly (number : ℤ) : Option Double :=
  let magnitude := number.natAbs
  let exponent := magnitude.log2
  if magnitude = 0 then some ⟨0⟩
  else if exponent ≤ 1023 ∧ magnitude * 2 ^ 52 % 2 ^ exponent = 0 then
    let sign := if number < 0 then 2 ^ 63 else 0
    let digits := magnitude * 2 ^ 52 / 2 ^ exponent - 2 ^ 52
    some ⟨.ofNat (sign + (exponent + 1023) * 2 ^ 52 + digits)⟩
  else none

/-- An instant, as `Date()` reads it from the wall clock. -/
abbrev Date := ℤ

/-- What Firestore returns for a stored `Date`. -/
structure Timestamp where
  dateValue : Date
  deriving DecidableEq, Repr

/-- A value of a document field (`Any` on the Swift side). -/
inductive Value
  | null
  | bool (flag : Bool)
  | int (number : ℤ)
  | double (number : Double)
  | string (text : String)
  | date (instant : Date)
  | timestamp (stamp : Timestamp)
  | array (elements : List Value)
  deriving Repr

namespace Value

mutual

/-- A value after a round trip through the database. -/
def store : Value → Value
  | null => null
  | bool flag => bool flag
  | int number => int number
  | double number => double number
  | string text => string text
  -- the one type that does not come back
  | date instant => timestamp ⟨instant⟩
  | timestamp stamp => timestamp stamp
  | array elements => array (storeAll elements)

/-- `store` at every element of an array. -/
def storeAll : List Value → List Value
  | [] => []
  | element :: rest => element.store :: storeAll rest

end

theorem storeAll_eq_map (elements : List Value) : storeAll elements = elements.map store := by
  induction elements with
  | nil => rfl
  | cons element rest ih => rw [storeAll, List.map_cons, ih]

/-- `as? String` -/
def asString : Value → Option String
  | string text => some text
  | _ => none

/-- `as? Double`, which bridges an `NSNumber`. -/
def asDouble : Value → Option Double
  | double number => some number
  | int number => Double.exactly number
  | bool flag => Double.exactly (if flag then 1 else 0)
  | _ => none

/-- `as? Double`, if there were no bridging. -/
def asUnbridgedDouble : Value → Option Double
  | double number => some number
  | _ => none

/-- `as? Timestamp` -/
def asTimestamp : Value → Option Timestamp
  | timestamp stamp => some stamp
  | _ => none

/-- `as? [T]`, for the cast `as? T` of the elements: one element of another
type fails the whole array. -/
def asArray {β : Type} (cast : Value → Option β) : Value → Option (List β)
  | array elements => elements.mapM cast
  | _ => none

/-- Elements written as one type are read back as that type. -/
theorem mapM_map {β γ : Type} (cast : Value → Option β) (wrap : γ → Value) (read : γ → β)
    (reads : ∀ x, cast (wrap x) = some (read x)) (xs : List γ) :
    (xs.map wrap).mapM cast = some (xs.map read) := by
  induction xs with
  | nil => rfl
  | cons x xs ih => simp [reads, ih]

theorem asArray_asString_store (texts : List String) :
    (store (array (texts.map string))).asArray asString = some texts := by
  rw [store, storeAll_eq_map, List.map_map, asArray,
    mapM_map asString (store ∘ string) id fun _ => rfl, List.map_id]

theorem asArray_asTimestamp_store (instants : List Date) :
    (store (array (instants.map date))).asArray asTimestamp =
      some (instants.map Timestamp.mk) := by
  rw [store, storeAll_eq_map, List.map_map, asArray,
    mapM_map asTimestamp (store ∘ date) Timestamp.mk fun _ => rfl]

end Value

/-- `[String : Any]` -/
abbrev Dictionary := String → Option Value

namespace Dictionary

/-- A dictionary literal. -/
def ofPairs (pairs : List (String × Value)) : Dictionary := fun key => pairs.lookup key

/-- What Firestore returns for a document set to this dictionary. -/
def store (fields : Dictionary) : Dictionary := fun key => (fields key).map Value.store

end Dictionary

end OnMap
