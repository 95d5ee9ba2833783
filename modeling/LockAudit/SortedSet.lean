/-!
# Finite sets as strictly increasing lists

A `SortedSet` lists its members once each and in increasing order.  Two sets
with the same members are therefore equal (`SortedSet.ext`), and the order in
which members were added leaves no trace.
-/

namespace LockAudit

/-- The items increase strictly from left to right. -/
abbrev Increasing [Ord α] (items : List α) : Prop :=
  items.Pairwise fun left right => compare left right = .lt

structure SortedSet (α : Type) [Ord α] where
  toList : List α
  increasing : Increasing toList

namespace SortedSet

instance [Ord α] [DecidableEq α] : DecidableEq (SortedSet α) :=
  fun left right =>
    match decEq left.toList right.toList with
    | isTrue same =>
        isTrue (by cases left; cases right; cases same; rfl)
    | isFalse different =>
        isFalse fun same => different (congrArg toList same)

instance [Ord α] : Membership α (SortedSet α) :=
  ⟨fun set item => item ∈ set.toList⟩

theorem mem_toList [Ord α] {set : SortedSet α} {item : α} :
    item ∈ set.toList ↔ item ∈ set :=
  Iff.rfl

instance [Ord α] [DecidableEq α] (item : α) (set : SortedSet α) :
    Decidable (item ∈ set) :=
  inferInstanceAs (Decidable (item ∈ set.toList))

def empty [Ord α] : SortedSet α :=
  ⟨[], .nil⟩

instance [Ord α] : EmptyCollection (SortedSet α) :=
  ⟨empty⟩

instance [Ord α] : Inhabited (SortedSet α) :=
  ⟨empty⟩

@[simp] theorem not_mem_empty [Ord α] (item : α) :
    item ∉ (∅ : SortedSet α) := by
  intro member
  cases member

def size [Ord α] (set : SortedSet α) : Nat :=
  set.toList.length

def isEmpty [Ord α] (set : SortedSet α) : Bool :=
  set.toList.isEmpty

theorem isEmpty_iff [Ord α] {set : SortedSet α} :
    set.isEmpty = true ↔ ∀ item, item ∉ set := by
  rw [isEmpty, List.isEmpty_iff, List.eq_nil_iff_forall_not_mem]
  rfl

/-- Keeps the members that pass the test. -/
def filter [Ord α] (test : α → Bool) (set : SortedSet α) : SortedSet α :=
  ⟨set.toList.filter test, set.increasing.filter test⟩

@[simp] theorem mem_filter [Ord α] {test : α → Bool} {set : SortedSet α}
    {item : α} :
    item ∈ set.filter test ↔ item ∈ set ∧ test item = true :=
  List.mem_filter

/-- Every member of the first set is a member of the second. -/
def isSubset [Ord α] [DecidableEq α] (left right : SortedSet α) : Bool :=
  left.toList.all fun item => decide (item ∈ right)

/-- Some member of the first set is a member of the second. -/
def meets [Ord α] [DecidableEq α] (left right : SortedSet α) : Bool :=
  left.toList.any fun item => decide (item ∈ right)

theorem isSubset_iff [Ord α] [DecidableEq α] {left right : SortedSet α} :
    left.isSubset right = true ↔ ∀ item ∈ left, item ∈ right := by
  simp [isSubset, List.all_eq_true, mem_toList]

theorem meets_iff [Ord α] [DecidableEq α] {left right : SortedSet α} :
    left.meets right = true ↔ ∃ item ∈ left, item ∈ right := by
  simp [meets, List.any_eq_true, mem_toList]

section Insertion

variable [Ord α]

/-- Places an item before the first greater one; an item that is already
listed is left where it is. -/
def place (item : α) : List α → List α
  | [] => [item]
  | head :: tail =>
      match compare item head with
      | .lt => item :: head :: tail
      | .eq => head :: tail
      | .gt => head :: place item tail

theorem eq_or_mem_of_mem_place {item other : α} {items : List α}
    (member : other ∈ place item items) : other = item ∨ other ∈ items := by
  induction items with
  | nil => simpa [place] using member
  | cons head tail induction =>
      simp only [place] at member
      split at member
      · simpa using member
      · exact .inr member
      · rcases List.mem_cons.mp member with first | later
        · exact .inr (first ▸ List.mem_cons_self)
        · rcases induction later with same | deeper
          · exact .inl same
          · exact .inr (List.mem_cons_of_mem head deeper)

theorem mem_place_of_mem {item other : α} {items : List α}
    (member : other ∈ items) : other ∈ place item items := by
  induction items with
  | nil => cases member
  | cons head tail induction =>
      simp only [place]
      split
      · exact List.mem_cons_of_mem item member
      · exact member
      · rcases List.mem_cons.mp member with first | later
        · exact first ▸ List.mem_cons_self
        · exact List.mem_cons_of_mem head (induction later)

theorem mem_place_self [Std.LawfulEqOrd α] {item : α} {items : List α} :
    item ∈ place item items := by
  induction items with
  | nil => simp [place]
  | cons head tail induction =>
      simp only [place]
      split
      · exact List.mem_cons_self
      · next same =>
          rw [Std.LawfulEqOrd.eq_of_compare same]
          exact List.mem_cons_self
      · exact List.mem_cons_of_mem head induction

theorem increasing_place [Std.TransOrd α] {item : α} {items : List α}
    (increasing : Increasing items) : Increasing (place item items) := by
  induction items with
  | nil => simp [place]
  | cons head tail induction =>
      obtain ⟨headBefore, tailIncreasing⟩ := List.pairwise_cons.mp increasing
      simp only [place]
      split
      · next before =>
          refine List.pairwise_cons.mpr ⟨?_, increasing⟩
          intro other member
          rcases List.mem_cons.mp member with first | later
          · exact first ▸ before
          · exact Std.TransCmp.lt_trans before (headBefore other later)
      · exact increasing
      · next after =>
          refine List.pairwise_cons.mpr ⟨?_, induction tailIncreasing⟩
          intro other member
          rcases eq_or_mem_of_mem_place member with same | later
          · exact same ▸ Std.OrientedCmp.lt_of_gt after
          · exact headBefore other later

variable [Std.TransOrd α]

def insert (item : α) (set : SortedSet α) : SortedSet α :=
  ⟨place item set.toList, increasing_place set.increasing⟩

/-- The set of the listed items. -/
def ofList (items : List α) : SortedSet α :=
  items.foldr insert ∅

def union (left right : SortedSet α) : SortedSet α :=
  left.toList.foldr insert right

instance : Union (SortedSet α) :=
  ⟨union⟩

/-- The union of a list of sets. -/
def unions (sets : List (SortedSet α)) : SortedSet α :=
  sets.foldr union ∅

variable [Std.LawfulEqOrd α]

@[simp] theorem mem_insert {item other : α} {set : SortedSet α} :
    other ∈ set.insert item ↔ other = item ∨ other ∈ set := by
  constructor
  · exact eq_or_mem_of_mem_place
  · rintro (same | member)
    · exact same ▸ mem_place_self
    · exact mem_place_of_mem member

theorem mem_foldr_insert {item : α} {items : List α} {set : SortedSet α} :
    item ∈ items.foldr insert set ↔ item ∈ items ∨ item ∈ set := by
  induction items with
  | nil => simp
  | cons head tail induction => simp [induction, or_assoc]

@[simp] theorem mem_ofList {item : α} {items : List α} :
    item ∈ ofList items ↔ item ∈ items := by
  simp [ofList, mem_foldr_insert]

@[simp] theorem mem_union {item : α} {left right : SortedSet α} :
    item ∈ left ∪ right ↔ item ∈ left ∨ item ∈ right :=
  mem_foldr_insert

@[simp] theorem mem_unions {item : α} {sets : List (SortedSet α)} :
    item ∈ unions sets ↔ ∃ set ∈ sets, item ∈ set := by
  induction sets with
  | nil => simp [unions]
  | cons head tail induction =>
      have step : item ∈ unions (head :: tail) ↔
          item ∈ head ∨ item ∈ unions tail :=
        mem_union
      simp [step, induction]

end Insertion

theorem nodup_toList [Ord α] [Std.TransOrd α] (set : SortedSet α) :
    set.toList.Nodup := by
  apply set.increasing.imp
  intro left right less same
  subst same
  simp [Std.ReflCmp.compare_self] at less

/-- A set is determined by its members. -/
@[ext] theorem ext [Ord α] [Std.TransOrd α] [Std.LawfulEqOrd α]
    {left right : SortedSet α} (same : ∀ item, item ∈ left ↔ item ∈ right) :
    left = right := by
  obtain ⟨leftItems, leftIncreasing⟩ := left
  obtain ⟨rightItems, rightIncreasing⟩ := right
  congr
  induction leftItems generalizing rightItems with
  | nil =>
      cases rightItems with
      | nil => rfl
      | cons head tail =>
          exact absurd ((same head).mpr List.mem_cons_self) List.not_mem_nil
  | cons leftHead leftTail induction =>
      cases rightItems with
      | nil => exact absurd ((same leftHead).mp List.mem_cons_self) List.not_mem_nil
      | cons rightHead rightTail =>
          obtain ⟨leftBefore, leftRest⟩ := List.pairwise_cons.mp leftIncreasing
          obtain ⟨rightBefore, rightRest⟩ := List.pairwise_cons.mp rightIncreasing
          have heads : leftHead = rightHead := by
            have leftIn := (same leftHead).mp List.mem_cons_self
            have rightIn := (same rightHead).mpr List.mem_cons_self
            rcases List.mem_cons.mp leftIn with equal | leftLater
            · exact equal
            · rcases List.mem_cons.mp rightIn with equal | rightLater
              · exact equal.symm
              · have forth := leftBefore rightHead rightLater
                have back := rightBefore leftHead leftLater
                exact absurd (Std.TransCmp.lt_trans forth back) (by simp)
          subst heads
          have tails : leftTail = rightTail := by
            refine induction leftRest rightTail rightRest ?_
            intro item
            constructor
            · intro member
              rcases List.mem_cons.mp
                  ((same item).mp (List.mem_cons_of_mem leftHead member)) with
                equal | later
              · have strict := leftBefore item member
                rw [equal] at strict
                exact absurd strict (by simp)
              · exact later
            · intro member
              rcases List.mem_cons.mp
                  ((same item).mpr (List.mem_cons_of_mem leftHead member)) with
                equal | later
              · have strict := rightBefore item member
                rw [equal] at strict
                exact absurd strict (by simp)
              · exact later
          rw [tails]

/-- Any increasing list of the same members lists them as the set does. -/
theorem eq_toList_ofList [Ord α] [Std.TransOrd α] [Std.LawfulEqOrd α]
    {items listed : List α} (increasing : Increasing listed)
    (same : ∀ item, item ∈ listed ↔ item ∈ items) :
    listed = (ofList items).toList := by
  have sets : (⟨listed, increasing⟩ : SortedSet α) = ofList items := by
    apply ext
    intro item
    rw [mem_ofList, ← same]
    rfl
  exact congrArg toList sets

end SortedSet

end LockAudit
