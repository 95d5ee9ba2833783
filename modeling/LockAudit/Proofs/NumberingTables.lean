import LockAudit.Dataflow.Numbering
import Mathlib.Logic.Function.Basic

/-!
# Numberings grow

Adding objects extends the table of a numbering at its end, so an object keeps
its number, and the number leads back to the object.  Objects that are renamed
keep their numbers as well.
-/

namespace LockAudit

namespace Numbering

variable {α β : Type}

/-- The later numbering goes on where the earlier one ends. -/
def Grows (earlier later : Numbering α) : Prop :=
  earlier.objects <+: later.objects

theorem Grows.refl (numbering : Numbering α) : numbering.Grows numbering :=
  List.prefix_rfl

theorem Grows.trans {first second third : Numbering α}
    (start : first.Grows second) (rest : second.Grows third) :
    first.Grows third :=
  List.IsPrefix.trans start rest

theorem Grows.object? {earlier later : Numbering α}
    (grows : earlier.Grows later) {object : α} {number : Nat}
    (denotes : earlier.object? number = some object) :
    later.object? number = some object := by
  obtain ⟨added, objects⟩ := grows
  obtain ⟨inRange, _⟩ := List.getElem?_eq_some_iff.mp denotes
  rw [Numbering.object?, ← objects, List.getElem?_append_left inRange]
  exact denotes

/-- The numbering of objects under other names. -/
def map (rename : α → β) (numbering : Numbering α) : Numbering β :=
  ⟨numbering.objects.map rename⟩

@[simp] theorem size_map (rename : α → β) (numbering : Numbering α) :
    (numbering.map rename).size = numbering.size :=
  List.length_map rename

variable [DecidableEq α]

theorem object?_of_number? {numbering : Numbering α} {object : α}
    {number : Nat} (numbered : numbering.number? object = some number) :
    numbering.object? number = some object := by
  obtain ⟨inRange, same, _⟩ := List.idxOf?_eq_some_iff.mp numbered
  rw [object?, List.getElem?_eq_getElem inRange, same]

theorem number?_eq_none_iff {numbering : Numbering α} {object : α} :
    numbering.number? object = none ↔ object ∉ numbering.objects := by
  simp [number?, List.idxOf?_eq_none_iff]

/-- Where no object is listed twice, numbers and objects belong together. -/
theorem number?_of_object? {numbering : Numbering α}
    (distinct : numbering.objects.Nodup) {object : α} {number : Nat}
    (denotes : numbering.object? number = some object) :
    numbering.number? object = some number := by
  cases found : numbering.number? object with
  | none =>
      exact (number?_eq_none_iff.mp found
        (List.mem_of_getElem? denotes)).elim
  | some other =>
      have alsoDenotes := object?_of_number? found
      obtain ⟨inRange, _⟩ := List.getElem?_eq_some_iff.mp denotes
      have same : number = other := (List.getElem?_inj inRange distinct).mp
        (denotes.trans alsoDenotes.symm)
      rw [same]

theorem Grows.number? {earlier later : Numbering α}
    (grows : earlier.Grows later) {object : α} {number : Nat}
    (numbered : earlier.number? object = some number) :
    later.number? object = some number := by
  obtain ⟨added, objects⟩ := grows
  have found : earlier.objects.findIdx? (· == object) = some number := numbered
  rw [Numbering.number?, ← objects, List.idxOf?, List.findIdx?_append, found]
  rfl

theorem grows_add (numbering : Numbering α) (object : α) :
    numbering.Grows (numbering.add object).2 := by
  unfold add
  split
  · exact .refl numbering
  · exact List.prefix_append _ _

theorem number?_add (numbering : Numbering α) (object : α) :
    (numbering.add object).2.number? object =
      some (numbering.add object).1 := by
  unfold add
  split
  · next number found => exact found
  · next absent =>
      have missing : numbering.objects.findIdx? (· == object) = none := absent
      simp only [number?, List.idxOf?, List.findIdx?_append, missing]
      simp [size]

/-- An object that has a number is not numbered again. -/
theorem add_of_number? {numbering : Numbering α} {object : α} {number : Nat}
    (numbered : numbering.number? object = some number) :
    numbering.add object = (number, numbering) := by
  rw [add, numbered]

theorem objects_add_of_fresh {numbering : Numbering α} {object : α}
    (fresh : object ∉ numbering.objects) :
    (numbering.add object).2.objects = numbering.objects ++ [object] := by
  rw [add, number?_eq_none_iff.mpr fresh]

/-- An object that is listed is not listed again. -/
theorem add_of_mem {numbering : Numbering α} {object : α}
    (listed : object ∈ numbering.objects) :
    (numbering.add object).2 = numbering := by
  have known : numbering.number? object ≠ none :=
    mt number?_eq_none_iff.mp (not_not_intro listed)
  obtain ⟨number, numbered⟩ := Option.ne_none_iff_exists'.mp known
  rw [add_of_number? numbered]

theorem mem_objects_add {numbering : Numbering α} {object other : α} :
    other ∈ (numbering.add object).2.objects ↔
      other ∈ numbering.objects ∨ other = object := by
  by_cases listed : object ∈ numbering.objects
  · rw [add_of_mem listed, or_iff_left_of_imp]
    intro same
    exact same ▸ listed
  · simp [objects_add_of_fresh listed]

section Renaming

variable [DecidableEq β] {rename : α → β}
  (injective : Function.Injective rename)

include injective

theorem number?_map (numbering : Numbering α) (object : α) :
    (numbering.map rename).number? (rename object) =
      numbering.number? object := by
  have same : ((· == rename object) ∘ rename) = (· == object) := by
    funext other
    simp [injective.eq_iff]
  simp only [number?, map, List.idxOf?, List.findIdx?_map, same]

theorem add_map (numbering : Numbering α) (object : α) :
    (numbering.map rename).add (rename object) =
      ((numbering.add object).1, (numbering.add object).2.map rename) := by
  simp only [add, number?_map injective, size_map]
  cases numbering.number? object with
  | some number => rfl
  | none => simp [map]

end Renaming

end Numbering

end LockAudit
