/-
# Pins that are removed

The observer of `annotationsArray` finds out which pin was removed by comparing titles at
equal positions, and takes the first pin that has moved off the map, and then the last pin
of the old array as well. So it is right about a removal that takes the last pin, alone or
with one other that did not stand right before it.

The one caller that shortens the array clears the whole map afterwards.
-/

import OnMap.Map.MapViewController
import Mathlib.Algebra.Order.Sub.Basic
import Mathlib.Data.Multiset.OrderedMonoid

namespace OnMap

namespace MapViewController

/-- The array has pins of different titles that are all on the map, and gets shorter by some
of them. -/
structure Shortens (s : MapViewController) (pins : List PinChat) : Prop where
  distinct : (s.annotationsArray.map PinChat.title).Nodup
  shown : ∀ pin ∈ s.annotationsArray, pin ∈ s.annotations
  kept : pins.Sublist s.annotationsArray
  fewer : pins.length < s.annotationsArray.length

/-- The pins on the map are those before without the removed ones. -/
def RemovesExactly (s : MapViewController) (pins : List PinChat) : Prop :=
  ((s.setAnnotationsArray pins).annotations : Multiset PinChat) =
    (s.annotations : Multiset PinChat) - ((s.annotationsArray : Multiset PinChat) - pins)

/-- The last pin is removed, and at most one other, which does not stand right before it. -/
def RemovesLast (s : MapViewController) (pins : List PinChat) : Prop :=
  (∀ last ∈ s.annotationsArray.getLast?, last ∉ pins) ∧
    (pins.length + 1 = s.annotationsArray.length ∨
      pins.length + 2 = s.annotationsArray.length ∧ ¬ pins.IsPrefix s.annotationsArray)

instance (s : MapViewController) (pins : List PinChat) : Decidable (s.RemovesLast pins) :=
  inferInstanceAs (Decidable (_ ∧ _))

/-- The pin that the observer takes for the removed one. -/
def moved (old pins : List PinChat) : Option (PinChat × PinChat) :=
  (old.zip pins).find? fun pair => pair.1.title ≠ pair.2.title

/-- What the observer takes off the map. -/
def taken (old pins : List PinChat) : List PinChat :=
  (moved old pins).toList.map Prod.fst ++ old.getLast?.toList

section Lemmas

variable {s : MapViewController} {old pins : List PinChat}

theorem setAnnotationsArray_annotations (fewer : pins.length < s.annotationsArray.length) :
    (s.setAnnotationsArray pins).annotations =
      s.annotations.diff (taken s.annotationsArray pins) := by
  rw [setAnnotationsArray, didSet, if_pos fewer, List.diff_eq_foldl, taken, moved]
  cases (s.annotationsArray.zip pins).find? fun pair => pair.1.title ≠ pair.2.title <;>
    cases s.annotationsArray.getLast? <;> rfl

/-- Two lists that are equal up to a first pin that was left out, or the shorter one is a
first part of the other. -/
theorem moved_cases (distinct : (old.map PinChat.title).Nodup) (kept : pins.Sublist old) :
    moved old pins = none ∧ pins.IsPrefix old ∨
      ∃ before pin after next rest, old = before ++ pin :: after ∧ pins = before ++ next :: rest ∧
        pin ≠ next ∧ moved old pins = some (pin, next) ∧ (next :: rest).Sublist after := by
  induction old generalizing pins with
  | nil => exact Or.inl ⟨rfl, List.sublist_nil.mp kept ▸ List.prefix_rfl⟩
  | cons pin after ih =>
    cases pins with
    | nil => exact Or.inl ⟨rfl, List.nil_prefix⟩
    | cons next rest =>
      by_cases same : pin = next
      · subst same
        have later := ih (List.nodup_cons.mp distinct).2 (List.cons_sublist_cons.mp kept)
        have skips : moved (pin :: after) (pin :: rest) = moved after rest := by
          rw [moved, List.zip_cons_cons, List.find?_cons]
          simp [moved]
        rw [skips]
        rcases later with ⟨none, first⟩ | ⟨before, p, a, n, r, rfl, rfl, apart, found, sub⟩
        · exact Or.inl ⟨none, (List.prefix_cons_inj pin).mpr first⟩
        · exact Or.inr ⟨pin :: before, p, a, n, r, rfl, rfl, apart, found, sub⟩
      · -- no other pin has the title of the one that was left out
        have sub : (next :: rest).Sublist after :=
          (List.sublist_cons_iff.mp kept).resolve_right fun ⟨_, heads, _⟩ =>
            same (List.cons.inj heads).1.symm
        have apart : pin.title ≠ next.title := fun titles =>
          (List.nodup_cons.mp distinct).1
            (titles ▸ List.mem_map_of_mem (sub.subset List.mem_cons_self))
        refine Or.inr ⟨[], pin, after, next, rest, rfl, rfl, same, ?_, sub⟩
        rw [moved, List.zip_cons_cons, List.find?_cons]
        simp [apart]

/-- The observer takes the last pin, and the first one that was left out if that is not among
the last. -/
theorem taken_cases (distinct : (old.map PinChat.title).Nodup) (kept : pins.Sublist old)
    (fewer : pins.length < old.length) :
    (∃ front last, old = front ++ [last] ∧ pins.IsPrefix old ∧ taken old pins = [last]) ∨
      ∃ before pin middle last next rest, old = before ++ pin :: (middle ++ [last]) ∧
        pins = before ++ next :: rest ∧ pin ≠ next ∧ (next :: rest).Sublist (middle ++ [last]) ∧
        taken old pins = [pin, last] := by
  rcases moved_cases distinct kept with
    ⟨none, first⟩ | ⟨before, pin, after, next, rest, rfl, rfl, apart, found, sub⟩
  · obtain ⟨front, last, rfl⟩ := (List.eq_nil_or_concat' old).resolve_left fun empty => by
      rw [empty] at fewer
      exact Nat.not_lt_zero _ fewer
    refine Or.inl ⟨front, last, rfl, first, ?_⟩
    rw [taken, none, List.getLast?_concat]
    rfl
  · obtain ⟨middle, last, rfl⟩ := (List.eq_nil_or_concat' after).resolve_left fun empty => by
      rw [empty] at sub
      cases sub
    refine Or.inr ⟨before, pin, middle, last, next, rest, rfl, rfl, apart, sub, ?_⟩
    rw [taken, found, ← List.cons_append, ← List.append_assoc, List.getLast?_concat]
    rfl

/-- The observer is right exactly if what it takes and what stays make up the old array. -/
theorem removesExactly_iff (h : s.Shortens pins) : s.RemovesExactly pins ↔
    (taken s.annotationsArray pins ++ pins).Perm s.annotationsArray := by
  have nodup : s.annotationsArray.Nodup := h.distinct.of_map
  have below {removed : List PinChat} (sub : removed.Sublist s.annotationsArray) :
      (removed : Multiset PinChat) ≤ s.annotations :=
    Multiset.coe_le.mpr ((nodup.sublist sub).subperm fun pin mem => h.shown pin (sub.subset mem))
  have takes : (taken s.annotationsArray pins).Sublist s.annotationsArray := by
    rcases taken_cases h.distinct h.kept h.fewer with
      ⟨front, last, old, -, taken⟩ | ⟨before, pin, middle, last, _, _, old, -, -, -, taken⟩
    · rw [taken, old]
      exact List.sublist_append_right ..
    · rw [taken, old]
      have behind : [last].Sublist (middle ++ [last]) := List.sublist_append_right ..
      exact (behind.cons_cons pin).trans (List.sublist_append_right ..)
  have stays : (pins : Multiset PinChat) ≤ s.annotationsArray :=
    Multiset.coe_le.mpr h.kept.subperm
  have removed : (s.annotationsArray : Multiset PinChat) - pins ≤ s.annotations :=
    tsub_le_self.trans (below (List.Sublist.refl _))
  rw [RemovesExactly, setAnnotationsArray_annotations h.fewer, ← Multiset.coe_sub,
    tsub_right_inj (below takes) removed, eq_tsub_iff_add_eq_of_le stays, Multiset.coe_add,
    Multiset.coe_eq_coe]

/-- The last pin is not among those that stay if it is taken. -/
theorem last_notMem {front : List PinChat} {last : PinChat} {removed : List PinChat}
    (nodup : (front ++ [last]).Nodup) (perm : (removed ++ pins).Perm (front ++ [last]))
    (mem : last ∈ removed) : last ∉ pins := by
  have apart := (List.nodup_append.mp (perm.nodup_iff.mpr nodup)).2.2
  exact fun stays => apart last mem last stays rfl

/-- All pins that stay when the last pin is removed stood before it. -/
theorem sublist_of_last_notMem {front : List PinChat} {last : PinChat}
    (kept : pins.Sublist (front ++ [last])) (gone : last ∉ pins) : pins.Sublist front := by
  obtain ⟨first, second, rfl, stays, final⟩ := List.sublist_append_iff.mp kept
  rcases List.sublist_singleton.mp final with rfl | rfl
  · rwa [List.append_nil]
  · exact absurd (List.mem_append_right _ (List.mem_singleton_self _)) gone

/-- The last pin and what stays make up the array exactly if nothing else was removed. -/
theorem last_perm_iff {front : List PinChat} {last : PinChat} (nodup : (front ++ [last]).Nodup)
    (kept : pins.Sublist (front ++ [last])) :
    ([last] ++ pins).Perm (front ++ [last]) ↔ last ∉ pins ∧ pins.length = front.length := by
  constructor
  · intro perm
    have lengths := perm.length_eq
    rw [List.length_append, List.length_append, List.length_singleton] at lengths
    refine ⟨last_notMem nodup perm (List.mem_singleton_self _), ?_⟩
    omega
  · rintro ⟨gone, lengths⟩
    have all : pins = front := (sublist_of_last_notMem kept gone).eq_of_length lengths
    rw [all]
    exact List.perm_append_comm

/-- With another pin before the last one, exactly if nothing but these two was removed. -/
theorem two_perm_iff {before middle next : List PinChat} {pin last : PinChat}
    (nodup : (before ++ pin :: middle ++ [last]).Nodup) (kept : next.Sublist (middle ++ [last])) :
    ([pin, last] ++ (before ++ next)).Perm (before ++ pin :: middle ++ [last]) ↔
      last ∉ before ++ next ∧ next.length = middle.length := by
  constructor
  · intro perm
    have lengths := perm.length_eq
    simp only [List.length_append, List.length_cons, List.length_nil] at lengths
    refine ⟨last_notMem nodup perm (List.mem_cons_of_mem _ (List.mem_singleton_self _)), ?_⟩
    omega
  · rintro ⟨gone, lengths⟩
    have behind : last ∉ next := fun mem => gone (List.mem_append_right _ mem)
    have all : next = middle := (sublist_of_last_notMem kept behind).eq_of_length lengths
    rw [all]
    calc [pin, last] ++ (before ++ middle)
      _ |>.Perm (pin :: (before ++ middle) ++ [last]) :=
        (List.perm_append_singleton ..).symm.cons pin
      _ |>.Perm (before ++ pin :: middle ++ [last]) := List.perm_middle.symm.append_right _

/-- The condition, for an array with its last pin apart. -/
theorem removesLast_iff {front : List PinChat} {last : PinChat}
    (old : s.annotationsArray = front ++ [last]) : s.RemovesLast pins ↔
      last ∉ pins ∧ (pins.length = front.length ∨
        pins.length + 1 = front.length ∧ ¬ pins.IsPrefix (front ++ [last])) := by
  have two : pins.length + 2 = front.length + 1 ↔ pins.length + 1 = front.length := Nat.succ_inj
  rw [RemovesLast, old, List.getLast?_concat, List.length_append, List.length_singleton, two]
  simp only [Option.mem_def, Option.some.injEq, forall_eq', Nat.add_right_cancel_iff]

/-- What the observer takes and what stays make up the array exactly if the last pin is
removed, with one other at most, and not the two last pins. -/
theorem taken_perm_iff (h : s.Shortens pins) :
    (taken s.annotationsArray pins ++ pins).Perm s.annotationsArray ↔ s.RemovesLast pins := by
  have nodup : s.annotationsArray.Nodup := h.distinct.of_map
  have kept := h.kept
  rcases taken_cases h.distinct h.kept h.fewer with
    ⟨front, last, old, first, taken⟩ |
    ⟨before, pin, middle, last, next, rest, old, rfl, apart, sub, taken⟩
  · rw [removesLast_iff old, taken]
    rw [old] at nodup kept first ⊢
    rw [last_perm_iff nodup kept]
    exact and_congr_right fun _ => (or_iff_left fun other => other.2 first).symm
  · have split : s.annotationsArray = before ++ pin :: middle ++ [last] := by
      rw [old, List.append_assoc, List.cons_append]
    -- the pin that was left out is not the one that stands in its place
    have not_first : ¬ (before ++ next :: rest).IsPrefix (before ++ pin :: middle ++ [last]) := by
      rw [List.append_assoc, List.prefix_append_right_inj, List.cons_append,
        List.cons_prefix_cons]
      exact fun first => apart first.1.symm
    rw [removesLast_iff split, taken]
    rw [split] at nodup ⊢
    rw [two_perm_iff nodup sub]
    refine and_congr_right fun gone => ?_
    have behind : last ∉ next :: rest := fun mem => gone (List.mem_append_right _ mem)
    have bound := (sublist_of_last_notMem sub behind).length_le
    simp only [List.length_append, List.length_cons, not_first, not_false_eq_true,
      and_true] at bound ⊢
    omega

/-- Taking pins out of the array takes exactly them off the map if and only if the last pin
is among them, with one other at most, which did not stand right before it. -/
theorem removes_exactly_iff (h : s.Shortens pins) : s.RemovesExactly pins ↔ s.RemovesLast pins :=
  (removesExactly_iff h).trans (taken_perm_iff h)

end Lemmas

/-- Three pins, in the array and on the map. -/
def threePins : MapViewController :=
  let pins : List PinChat := [⟨some "дом", "беседа", ⟨⟨0⟩, ⟨0⟩⟩⟩,
    ⟨some "парк", "беседа", ⟨⟨1⟩, ⟨0⟩⟩⟩, ⟨some "вуз", "беседа", ⟨⟨0⟩, ⟨1⟩⟩⟩]
  ⟨pins, pins⟩

theorem shortens_threePins {pins : List PinChat} (kept : pins.Sublist threePins.annotationsArray)
    (fewer : pins.length < 3) : threePins.Shortens pins :=
  ⟨by decide, fun _ mem => mem, kept, fewer⟩

theorem removes_exactly_lastPin :
    threePins.RemovesExactly (threePins.annotationsArray.take 2) :=
  (removes_exactly_iff (shortens_threePins (by decide) (by decide))).mpr (by decide)

/-- With the first pin the last one goes too. -/
theorem not_removes_exactly_firstPin :
    ¬ ∀ (s : MapViewController) (pins : List PinChat), s.Shortens pins → s.RemovesExactly pins := by
  intro exact
  have h : threePins.Shortens (threePins.annotationsArray.drop 1) :=
    shortens_threePins (by decide) (by decide)
  have perm := (removesExactly_iff h).mp (exact _ _ h)
  exact absurd perm.length_eq (by decide)

end MapViewController

end OnMap
