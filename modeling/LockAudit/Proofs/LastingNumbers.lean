import LockAudit.Proofs.NumberingTables
import Mathlib.Data.Finset.Card

/-!
# Numbers that last

A numbering in use: objects are added, numbers are asked for, and copies are
frozen, in any order.  At any time the objects that were added have the numbers
from zero on, in the order in which they were first added, and nothing that
comes later changes them.

A numbering searches its objects for a number.  It can as well keep the numbers
in a table of their own, ordered by object; both tables then stay inverse to
each other, and nothing else is answered.
-/

namespace LockAudit

inductive NumberingAction (α : Type) where
  | add (object : α)
  | ask (object : α)
  | freeze
  deriving DecidableEq, Repr

/-- What the actions need of a numbering, however it is kept. -/
structure NumberingOperations (α Table : Type) where
  empty : Table
  add : Table → α → Nat × Table
  number? : Table → α → Option Nat
  /-- The objects alone, which can only be looked up by their numbers. -/
  freeze : Table → Numbering α

def numberingOperations {α : Type} [DecidableEq α] :
    NumberingOperations α (Numbering α) where
  empty := ∅
  add := Numbering.add
  number? := Numbering.number?
  freeze := id

/-- The objects by number, and the numbers by object. -/
structure PairedTables (α : Type) [Ord α] where
  objects : Array α
  numbers : Std.TreeMap α Nat

namespace PairedTables

variable {α : Type} [Ord α]

/-- A new object is entered into both tables. -/
def add (tables : PairedTables α) (object : α) : Nat × PairedTables α :=
  match tables.numbers[object]? with
  | some number => (number, tables)
  | none =>
      (tables.objects.size,
        ⟨tables.objects.push object,
          tables.numbers.insert object tables.objects.size⟩)

end PairedTables

def pairedOperations {α : Type} [Ord α] :
    NumberingOperations α (PairedTables α) where
  empty := ⟨#[], ∅⟩
  add := PairedTables.add
  number? tables object := tables.numbers[object]?
  freeze tables := ⟨tables.objects.toList⟩

/-- A table, the numbers that were answered for objects, and the copies that
were frozen, the oldest first. -/
structure NumberingSession (α Table : Type) where
  table : Table
  answers : List (α × Option Nat)
  copies : List (Numbering α)

namespace NumberingSession

variable {α Table : Type}

def act (operations : NumberingOperations α Table)
    (session : NumberingSession α Table) :
    NumberingAction α → NumberingSession α Table
  | .add object =>
      { session with
        table := (operations.add session.table object).2
        answers := session.answers ++
          [(object, some (operations.add session.table object).1)] }
  | .ask object =>
      { session with
        answers := session.answers ++
          [(object, operations.number? session.table object)] }
  | .freeze =>
      { session with
        copies := session.copies ++ [operations.freeze session.table] }

def run (operations : NumberingOperations α Table)
    (actions : List (NumberingAction α)) : NumberingSession α Table :=
  actions.foldl (act operations) ⟨operations.empty, [], []⟩

/-- Copies that have been frozen are kept. -/
theorem copies_foldl_act (operations : NumberingOperations α Table)
    (session : NumberingSession α Table) (actions : List (NumberingAction α)) :
    session.copies <+: (actions.foldl (act operations) session).copies := by
  induction actions generalizing session with
  | nil => exact List.prefix_rfl
  | cons action actions induction =>
      have here : session.copies <+: (session.act operations action).copies := by
        cases action with
        | add object => exact List.prefix_rfl
        | ask object => exact List.prefix_rfl
        | freeze => exact List.prefix_append _ _
      exact here.trans (induction (session.act operations action))

theorem copy_of_freeze (operations : NumberingOperations α Table)
    (before after : List (NumberingAction α)) :
    (run operations (before ++ .freeze :: after)).copies[
        (run operations before).copies.length]? =
      some (operations.freeze (run operations before).table) := by
  have kept := copies_foldl_act operations
    ((run operations before).act operations .freeze) after
  obtain ⟨later, copies⟩ := kept
  rw [run, List.foldl_append, List.foldl_cons, ← run, ← copies]
  simp [act]

end NumberingSession

/-- The objects that the actions add, in order and with repetitions. -/
def addedObjects {α : Type} (actions : List (NumberingAction α)) : List α :=
  actions.filterMap fun action =>
    match action with
    | .add object => some object
    | _ => none

section AddedObjects

variable {α : Type}

@[simp] theorem addedObjects_nil :
    addedObjects ([] : List (NumberingAction α)) = [] :=
  rfl

@[simp] theorem addedObjects_add (object : α) :
    addedObjects [.add object] = [object] :=
  rfl

@[simp] theorem addedObjects_ask (object : α) :
    addedObjects [.ask object] = [] :=
  rfl

@[simp] theorem addedObjects_freeze :
    addedObjects [(.freeze : NumberingAction α)] = [] :=
  rfl

theorem addedObjects_cons (action : NumberingAction α)
    (actions : List (NumberingAction α)) :
    addedObjects (action :: actions) =
      addedObjects [action] ++ addedObjects actions := by
  rw [← List.singleton_append]
  exact List.filterMap_append

end AddedObjects

/-- The listed objects have the numbers from zero on, one each, in the order in
which they are first listed. -/
structure NumberedInOrder {α : Type} [DecidableEq α] (listed : List α)
    (number? : α → Option Nat) (object? : Nat → Option α) : Prop where
  inverse : ∀ object number,
    number? object = some number ↔ object? number = some object
  numbered : ∀ object, (number? object).isSome = true ↔ object ∈ listed
  dense : ∀ number, (object? number).isSome = true ↔
    number < listed.toFinset.card
  ordered : ∀ first second firstNumber secondNumber,
    number? first = some firstNumber → number? second = some secondNumber →
    (firstNumber < secondNumber ↔ listed.idxOf first < listed.idxOf second)

namespace Numbering

variable {α : Type} [DecidableEq α]

/-- The numbering has the listed objects, each of them once and in the order in
which they are first listed. -/
structure Follows (numbering : Numbering α) (listed : List α) : Prop where
  distinct : numbering.objects.Nodup
  members : ∀ object, object ∈ numbering.objects ↔ object ∈ listed
  ordered : ∀ first ∈ listed, ∀ second ∈ listed,
    numbering.objects.idxOf first < numbering.objects.idxOf second ↔
      listed.idxOf first < listed.idxOf second

theorem follows_nil : (∅ : Numbering α).Follows [] where
  distinct := List.nodup_nil
  members := fun _ => Iff.rfl
  ordered := fun _ member => (List.not_mem_nil member).elim

variable {numbering : Numbering α} {listed : List α}

/-- A new object gets the next number, and all others keep theirs. -/
theorem number?_append_of_fresh {object : α}
    (fresh : numbering.number? object = none) (other : α) :
    number? ⟨numbering.objects ++ [object]⟩ other =
      if object = other then some numbering.size
      else numbering.number? other := by
  have added : numbering.add object =
      (numbering.size, ⟨numbering.objects ++ [object]⟩) := by
    rw [add, fresh]
  have newest := numbering.number?_add object
  have grows := numbering.grows_add object
  rw [added] at newest grows
  by_cases same : object = other
  · rw [if_pos same, ← same]
    exact newest
  · rw [if_neg same]
    cases found : numbering.number? other with
    | some number => exact grows.number? found
    | none =>
        rw [number?_eq_none_iff] at found ⊢
        simp [found, Ne.symm same]

/-- What stands at the end only comes after what stands before it. -/
theorem idxOf_lt_append_iff {items : List α} {last first second : α}
    (secondMember : second ∈ items ++ [last]) :
    (items ++ [last]).idxOf first < (items ++ [last]).idxOf second ↔
      first ∈ items ∧
        (second ∈ items → items.idxOf first < items.idxOf second) := by
  by_cases firstOld : first ∈ items
  · rw [List.idxOf_append_of_mem firstOld]
    by_cases secondOld : second ∈ items
    · rw [List.idxOf_append_of_mem secondOld]
      simp [firstOld, secondOld]
    · have before := List.idxOf_lt_length_iff.mpr firstOld
      rw [List.idxOf_append_of_notMem secondOld]
      simp only [firstOld, secondOld, true_and, false_implies, iff_true]
      omega
  · have within := List.idxOf_lt_length_iff.mpr secondMember
    rw [List.length_append, List.length_singleton] at within
    have after : ¬(items ++ [last]).idxOf first <
        (items ++ [last]).idxOf second := by
      rw [List.idxOf_append_of_notMem firstOld]
      omega
    simp only [after, firstOld, false_and]

theorem Follows.add (follows : numbering.Follows listed) (object : α) :
    (numbering.add object).2.Follows (listed ++ [object]) := by
  by_cases seen : object ∈ listed
  · have same : ∀ other, other ∈ listed ++ [object] ↔ other ∈ listed := by
      intro other
      rw [List.mem_append, List.mem_singleton, or_iff_left_of_imp]
      intro equal
      exact equal ▸ seen
    rw [add_of_mem ((follows.members object).mpr seen)]
    refine ⟨follows.distinct, ?_, ?_⟩
    · intro other
      rw [same, follows.members]
    · intro first firstMember second secondMember
      rw [same] at firstMember secondMember
      rw [List.idxOf_append_of_mem firstMember,
        List.idxOf_append_of_mem secondMember]
      exact follows.ordered first firstMember second secondMember
  · have fresh : object ∉ numbering.objects :=
      mt (follows.members object).mp seen
    have members : ∀ other, other ∈ numbering.objects ++ [object] ↔
        other ∈ listed ++ [object] := by
      intro other
      rw [List.mem_append, follows.members, ← List.mem_append]
    have objects := objects_add_of_fresh fresh
    refine ⟨?_, ?_, ?_⟩
    · rw [objects]
      exact List.nodup_append_comm.mp (List.nodup_cons.mpr
        ⟨fresh, follows.distinct⟩)
    · intro other
      rw [objects, members]
    · intro first _ second secondMember
      rw [objects, idxOf_lt_append_iff secondMember,
        idxOf_lt_append_iff ((members second).mpr secondMember),
        follows.members, follows.members]
      apply and_congr_right
      intro firstOld
      apply imp_congr_right
      intro secondOld
      exact follows.ordered first firstOld second secondOld

theorem Follows.size_eq (follows : numbering.Follows listed) :
    numbering.size = listed.toFinset.card := by
  have same : numbering.objects.toFinset = listed.toFinset := by
    ext object
    rw [List.mem_toFinset, List.mem_toFinset, follows.members]
  rw [← same, List.toFinset_card_of_nodup follows.distinct]
  rfl

theorem Follows.idxOf_eq (follows : numbering.Follows listed) {object : α}
    {number : Nat} (numbered : numbering.number? object = some number) :
    numbering.objects.idxOf object = number := by
  obtain ⟨inRange, same, _⟩ := List.idxOf?_eq_some_iff.mp numbered
  rw [← same]
  exact follows.distinct.idxOf_getElem number inRange

theorem Follows.numberedInOrder (follows : numbering.Follows listed) :
    NumberedInOrder listed numbering.number? numbering.object? where
  inverse := fun _ _ =>
    ⟨object?_of_number?, number?_of_object? follows.distinct⟩
  numbered := by
    intro object
    rw [Option.isSome_iff_ne_none, Ne, number?_eq_none_iff, not_not,
      follows.members]
  dense := by
    intro number
    rw [← follows.size_eq]
    simp [object?, size]
  ordered := by
    intro first second firstNumber secondNumber numbered otherNumbered
    have known := List.mem_of_getElem? (object?_of_number? numbered)
    have otherKnown := List.mem_of_getElem? (object?_of_number? otherNumbered)
    rw [← follows.idxOf_eq numbered, ← follows.idxOf_eq otherNumbered]
    exact follows.ordered first ((follows.members first).mp known) second
      ((follows.members second).mp otherKnown)

end Numbering

namespace NumberingSession

variable {α : Type} [DecidableEq α]
  {session : NumberingSession α (Numbering α)}

/-- A later answer for an object repeats the number of an earlier one. -/
def Repeats (earlier later : α × Option Nat) : Prop :=
  earlier.1 = later.1 → ∀ number, earlier.2 = some number →
    later.2 = some number

/-- The objects of the list have been added, and the numbers that were answered
still hold. -/
structure Lasts (session : NumberingSession α (Numbering α))
    (listed : List α) : Prop where
  follows : session.table.Follows listed
  holds : ∀ answer ∈ session.answers, ∀ number, answer.2 = some number →
    session.table.number? answer.1 = some number
  repeats : session.answers.Pairwise Repeats

/-- An answer that the table gives after it has grown. -/
theorem Lasts.answer {listed : List α} (lasts : session.Lasts listed)
    {table : Numbering α} (grows : session.table.Grows table) (object : α)
    {answer : Option Nat} (given : answer = table.number? object) :
    (∀ other ∈ session.answers ++ [(object, answer)], ∀ number,
      other.2 = some number → table.number? other.1 = some number) ∧
    (session.answers ++ [(object, answer)]).Pairwise Repeats := by
  have kept : ∀ other ∈ session.answers, ∀ number, other.2 = some number →
      table.number? other.1 = some number := by
    intro other member number answered
    exact grows.number? (lasts.holds other member number answered)
  constructor
  · intro other member number answered
    rcases List.mem_append.mp member with earlier | last
    · exact kept other earlier number answered
    · rw [List.mem_singleton.mp last] at answered ⊢
      exact given.symm.trans answered
  · rw [List.pairwise_append]
    refine ⟨lasts.repeats, List.pairwise_singleton _ _, ?_⟩
    intro earlier member last isLast same number answered
    rw [List.mem_singleton.mp isLast] at same ⊢
    have still := kept earlier member number answered
    rw [same] at still
    exact given.trans still

theorem Lasts.act {listed : List α} (lasts : session.Lasts listed)
    (action : NumberingAction α) :
    (session.act numberingOperations action).Lasts
      (listed ++ addedObjects [action]) := by
  cases action with
  | add object =>
      obtain ⟨holds, repeats⟩ :=
        lasts.answer (Numbering.grows_add session.table object) object
          (Numbering.number?_add session.table object).symm
      rw [addedObjects_add]
      exact ⟨lasts.follows.add object, holds, repeats⟩
  | ask object =>
      obtain ⟨holds, repeats⟩ :=
        lasts.answer (Numbering.Grows.refl session.table) object rfl
      rw [addedObjects_ask, List.append_nil]
      exact ⟨lasts.follows, holds, repeats⟩
  | freeze =>
      rw [addedObjects_freeze, List.append_nil]
      exact ⟨lasts.follows, lasts.holds, lasts.repeats⟩

theorem Lasts.foldl_act {listed : List α} (lasts : session.Lasts listed)
    (actions : List (NumberingAction α)) :
    (actions.foldl (NumberingSession.act numberingOperations) session).Lasts
      (listed ++ addedObjects actions) := by
  induction actions generalizing session listed with
  | nil =>
      rw [addedObjects_nil, List.append_nil]
      exact lasts
  | cons action actions induction =>
      rw [addedObjects_cons, ← List.append_assoc]
      exact induction (lasts.act action)

theorem lasts_run (actions : List (NumberingAction α)) :
    (run numberingOperations actions).Lasts (addedObjects actions) := by
  have initially : Lasts (⟨∅, [], []⟩ : NumberingSession α (Numbering α)) [] :=
    ⟨Numbering.follows_nil, by simp, List.Pairwise.nil⟩
  exact initially.foldl_act actions

end NumberingSession

section Tables

variable {α : Type} [DecidableEq α] [Ord α]

/-- The two tables hold what the numbering finds. -/
structure PairedTables.Keeps (tables : PairedTables α)
    (numbering : Numbering α) : Prop where
  objects : tables.objects.toList = numbering.objects
  numbers : ∀ object, tables.numbers[object]? = numbering.number? object

/-- The numbers are as they are in the numbering that is kept. -/
theorem PairedTables.Keeps.numberedInOrder {tables : PairedTables α}
    {numbering : Numbering α} {listed : List α}
    (keeps : tables.Keeps numbering) (follows : numbering.Follows listed) :
    NumberedInOrder listed (fun object => tables.numbers[object]?)
      (fun number => tables.objects[number]?) := by
  have numbers : (fun object => tables.numbers[object]?) =
      numbering.number? := funext keeps.numbers
  have objects : (fun number => tables.objects[number]?) =
      numbering.object? := by
    funext number
    rw [Numbering.object?, ← keeps.objects, Array.getElem?_toList]
  rw [numbers, objects]
  exact follows.numberedInOrder

/-- The same has been done with two tables as with a numbering. -/
structure NumberingSession.Keeps
    (tables : NumberingSession α (PairedTables α))
    (session : NumberingSession α (Numbering α)) : Prop where
  table : tables.table.Keeps session.table
  answers : tables.answers = session.answers
  copies : tables.copies = session.copies

variable [Std.TransOrd α] [Std.LawfulEqOrd α]

theorem PairedTables.Keeps.add {tables : PairedTables α}
    {numbering : Numbering α} (keeps : tables.Keeps numbering) (object : α) :
    (tables.add object).1 = (numbering.add object).1 ∧
      (tables.add object).2.Keeps (numbering.add object).2 := by
  have size : tables.objects.size = numbering.size := by
    rw [Numbering.size, ← keeps.objects, Array.length_toList]
  rw [PairedTables.add, Numbering.add, keeps.numbers]
  cases found : numbering.number? object with
  | some number => exact ⟨rfl, keeps⟩
  | none =>
      refine ⟨size, ?_, ?_⟩
      · simp [keeps.objects]
      · intro other
        rw [Numbering.number?_append_of_fresh found, ← keeps.numbers, ← size]
        simp only [Std.TreeMap.getElem?_insert, Std.compare_eq_iff_eq]

namespace NumberingSession

theorem Keeps.act {tables : NumberingSession α (PairedTables α)}
    {session : NumberingSession α (Numbering α)} (keeps : tables.Keeps session)
    (action : NumberingAction α) :
    (tables.act pairedOperations action).Keeps
      (session.act numberingOperations action) := by
  cases action with
  | add object =>
      obtain ⟨number, table⟩ := keeps.table.add object
      refine ⟨table, ?_, keeps.copies⟩
      exact congrArg₂ (fun answers number => answers ++ [(object, some number)])
        keeps.answers number
  | ask object =>
      refine ⟨keeps.table, ?_, keeps.copies⟩
      exact congrArg₂ (fun answers number => answers ++ [(object, number)])
        keeps.answers (keeps.table.numbers object)
  | freeze =>
      refine ⟨keeps.table, keeps.answers, ?_⟩
      exact congrArg₂ (fun copies objects => copies ++ [Numbering.mk objects])
        keeps.copies keeps.table.objects

theorem Keeps.foldl_act {tables : NumberingSession α (PairedTables α)}
    {session : NumberingSession α (Numbering α)} (keeps : tables.Keeps session)
    (actions : List (NumberingAction α)) :
    (actions.foldl (NumberingSession.act pairedOperations) tables).Keeps
      (actions.foldl (NumberingSession.act numberingOperations) session) := by
  induction actions generalizing tables session with
  | nil => exact keeps
  | cons action actions induction => exact induction (keeps.act action)

theorem keeps_run (actions : List (NumberingAction α)) :
    (run pairedOperations actions).Keeps (run numberingOperations actions) := by
  apply Keeps.foldl_act
  refine ⟨⟨rfl, ?_⟩, rfl, rfl⟩
  intro object
  exact Std.TreeMap.getElem?_emptyc

end NumberingSession

end Tables

namespace NumberingSession

/-- After any actions the objects that were added have the numbers from zero on,
in the order in which they were first added, and each can be found from the
other.  A number that was answered for an object still holds, and later answers
for the object repeat it.  A copy has the objects that were added before it was
frozen, with their numbers, whatever is done later.  All this is the same when
the numbers are kept in a table of their own, which stays inverse to the table
of the objects. -/
theorem numbers_are_dense_and_stable {α : Type} [DecidableEq α] [Ord α]
    [Std.TransOrd α] [Std.LawfulEqOrd α]
    (actions : List (NumberingAction α)) :
    NumberedInOrder (addedObjects actions)
      (run numberingOperations actions).table.number?
      (run numberingOperations actions).table.object? ∧
    (∀ answer ∈ (run numberingOperations actions).answers, ∀ number,
      answer.2 = some number →
      (run numberingOperations actions).table.number? answer.1 =
        some number) ∧
    (run numberingOperations actions).answers.Pairwise Repeats ∧
    (∀ before after, actions = before ++ .freeze :: after →
      ∃ copy, (run numberingOperations actions).copies[
          (run numberingOperations before).copies.length]? = some copy ∧
        copy.size = (addedObjects before).toFinset.card ∧
        NumberedInOrder (addedObjects before)
          (run numberingOperations before).table.number? copy.object?) ∧
    (run pairedOperations actions).Keeps (run numberingOperations actions) ∧
    NumberedInOrder (addedObjects actions)
      (fun object => (run pairedOperations actions).table.numbers[object]?)
      (fun number =>
        (run pairedOperations actions).table.objects[number]?) := by
  have lasts := lasts_run actions
  have keeps := keeps_run actions
  refine ⟨lasts.follows.numberedInOrder, lasts.holds, lasts.repeats, ?_, keeps,
    keeps.table.numberedInOrder lasts.follows⟩
  intro before after split
  subst split
  have earlier := (lasts_run before).follows
  exact ⟨_, copy_of_freeze numberingOperations before after, earlier.size_eq,
    earlier.numberedInOrder⟩

/-- Objects that are added again, before and after a copy is frozen. -/
def repeatedAdds : List (NumberingAction Nat) :=
  [.add 7, .ask 3, .add 3, .add 7] ++ .freeze :: [.add 9, .add 3]

theorem repeatedAdds_numbered :
    Std.TransOrd Nat ∧ Std.LawfulEqOrd Nat ∧
      (run numberingOperations repeatedAdds).answers =
        [(7, some 0), (3, none), (3, some 1), (7, some 0), (9, some 2),
          (3, some 1)] ∧
      NumberedInOrder [7, 3, 7, 9, 3]
        (run numberingOperations repeatedAdds).table.number?
        (run numberingOperations repeatedAdds).table.object? ∧
      ∃ copy, (run numberingOperations repeatedAdds).copies[0]? = some copy ∧
        copy.size = 2 := by
  refine ⟨inferInstance, inferInstance, by decide, ?_⟩
  obtain ⟨numbered, _, _, frozen, _⟩ :=
    numbers_are_dense_and_stable repeatedAdds
  obtain ⟨copy, kept, size, _⟩ := frozen _ _ rfl
  exact ⟨numbered, copy, kept, size⟩

end NumberingSession

end LockAudit
