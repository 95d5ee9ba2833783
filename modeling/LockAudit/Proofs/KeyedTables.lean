import LockAudit.SortedSet
import Mathlib.Data.Finset.Card

/-!
# Sets under keys

A table that holds a set for every key that has been named is filled entry by
entry: the items of an entry are added to what its key holds already.  However
the entries are divided and ordered, a key then holds the items of all its
entries.  Keys may be pairs, which are ordered by their first parts and then by
their second parts.
-/

namespace LockAudit

/-- Compares the first parts, and the second parts when the first are equal. -/
def pairOrder [Ord α] [Ord β] : α × β → α × β → Ordering :=
  compareLex (compareOn Prod.fst) (compareOn Prod.snd)

instance [Ord α] [Ord β] [Std.TransOrd α] [Std.TransOrd β] :
    Std.TransCmp (@pairOrder α β _ _) :=
  inferInstanceAs
    (Std.TransCmp (compareLex (compareOn Prod.fst) (compareOn Prod.snd)))

instance [Ord α] [Ord β] [Std.LawfulEqOrd α] [Std.LawfulEqOrd β] :
    Std.LawfulEqCmp (@pairOrder α β _ _) where
  compare_self := by
    intro pair
    simp [pairOrder, compareLex, compareOn, Std.ReflCmp.compare_self]
  eq_of_compare := by
    intro left right same
    simp only [pairOrder, compareLex_eq_eq, compareOn] at same
    exact Prod.ext (Std.LawfulEqOrd.eq_of_compare same.1)
      (Std.LawfulEqOrd.eq_of_compare same.2)

section Extension

variable {κ : Type} {order : κ → κ → Ordering} [Ord α] [Std.TransOrd α]

/-- Adds items to what a key holds. -/
def extend (table : Std.TreeMap κ (SortedSet α) order) (key : κ)
    (items : List α) : Std.TreeMap κ (SortedSet α) order :=
  table.insert key
    (items.foldl (fun set item => set.insert item) (table.getD key ∅))

variable [Std.LawfulEqOrd α]

theorem mem_foldl_insert {item : α} {items : List α} {set : SortedSet α} :
    item ∈ items.foldl (fun set item => set.insert item) set ↔
      item ∈ set ∨ item ∈ items := by
  induction items generalizing set with
  | nil => simp
  | cons head tail induction =>
      rw [List.foldl_cons, induction, SortedSet.mem_insert, List.mem_cons,
        or_assoc, or_left_comm]

variable [Std.TransCmp order] [Std.LawfulEqCmp order]

theorem mem_getD_extend {table : Std.TreeMap κ (SortedSet α) order}
    {key other : κ} {items : List α} {item : α} :
    item ∈ (extend table key items).getD other ∅ ↔
      item ∈ table.getD other ∅ ∨ key = other ∧ item ∈ items := by
  rw [extend, Std.TreeMap.getD_insert]
  by_cases same : key = other
  · subst same
    simp [Std.ReflCmp.compare_self, mem_foldl_insert]
  · simp [Std.LawfulEqCmp.compare_eq_iff_eq, same]

/-- A key holds the items of all its entries. -/
theorem mem_getD_foldl_extend {ε : Type} {keyOf : ε → κ}
    {itemsOf : ε → List α} {entries : List ε}
    {table : Std.TreeMap κ (SortedSet α) order} {key : κ} {item : α} :
    item ∈ (entries.foldl
        (fun table entry => extend table (keyOf entry) (itemsOf entry))
        table).getD key ∅ ↔
      item ∈ table.getD key ∅ ∨
        ∃ entry ∈ entries, keyOf entry = key ∧ item ∈ itemsOf entry := by
  induction entries generalizing table with
  | nil => simp
  | cons entry entries induction =>
      rw [List.foldl_cons, induction, mem_getD_extend, or_assoc]
      simp

end Extension

end LockAudit
