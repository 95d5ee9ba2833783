/-!
# Numberings

Objects get the numbers 0, 1, 2, … in the order in which they are first seen,
and keep them.
-/

namespace LockAudit

structure Numbering (α : Type) where
  objects : List α
  deriving DecidableEq, Repr

namespace Numbering

variable {α : Type} [DecidableEq α]

def empty : Numbering α :=
  ⟨[]⟩

instance : EmptyCollection (Numbering α) :=
  ⟨empty⟩

def size (numbering : Numbering α) : Nat :=
  numbering.objects.length

def number? (numbering : Numbering α) (object : α) : Option Nat :=
  numbering.objects.idxOf? object

def object? (numbering : Numbering α) (number : Nat) : Option α :=
  numbering.objects[number]?

/-- The number of an object, which is the next free one on first sight. -/
def add (numbering : Numbering α) (object : α) : Nat × Numbering α :=
  match numbering.number? object with
  | some number => (number, numbering)
  | none => (numbering.size, ⟨numbering.objects ++ [object]⟩)

end Numbering

end LockAudit
