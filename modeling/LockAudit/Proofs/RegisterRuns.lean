import LockAudit.Proofs.CanonicalVectors
import Mathlib.Data.Finset.Lattice.Lemmas

/-!
# Runs of vector operations

Registers are emptied, filled, given single bits and united with each other.  A
run may be made with vectors or with finite sets of numbers, and after every run
each vector stands for the set in the same register: all questions about it have
the answers that the set gives, and it equals another vector exactly when their
sets are equal.
-/

namespace LockAudit

inductive RegisterAction (Register : Type) where
  | clear (register : Register)
  | set (register : Register) (bit : Nat)
  | fill (register : Register) (bits : List Nat)
  | unite (register other : Register)
  deriving Repr

/-- What the actions do to the contents of registers. -/
structure SetOperations (Content : Type) where
  empty : Content
  insert : Content → Nat → Content
  ofList : List Nat → Content
  union : Content → Content → Content
  /-- The union of the two is more than the first one. -/
  lacks : Content → Content → Bool

def vectorOperations : SetOperations BitVector where
  empty := ∅
  insert := BitVector.set
  ofList := BitVector.ofList
  union := (· ∪ ·)
  lacks := BitVector.lacks

def finsetOperations : SetOperations (Finset Nat) where
  empty := ∅
  insert members bit := insert bit members
  ofList := List.toFinset
  union := (· ∪ ·)
  lacks members others := !decide (others ⊆ members)

structure Registers (Register Content : Type) where
  held : Register → Content
  /-- What the unions so far have answered: whether they added a bit. -/
  answers : List Bool

namespace Registers

variable {Register : Type} [DecidableEq Register] {Content : Type}

def hold (registers : Registers Register Content) (register : Register)
    (content : Content) : Registers Register Content :=
  { registers with held := Function.update registers.held register content }

def act (operations : SetOperations Content)
    (registers : Registers Register Content) :
    RegisterAction Register → Registers Register Content
  | .clear register => registers.hold register operations.empty
  | .set register bit =>
      registers.hold register
        (operations.insert (registers.held register) bit)
  | .fill register bits => registers.hold register (operations.ofList bits)
  | .unite register other =>
      let content := registers.held register
      let added := registers.held other
      { registers.hold register (operations.union content added) with
        answers := registers.answers ++ [operations.lacks content added] }

/-- All registers are empty before the first action. -/
def run (operations : SetOperations Content)
    (actions : List (RegisterAction Register)) :
    Registers Register Content :=
  actions.foldl (act operations) ⟨fun _ => operations.empty, []⟩

end Registers

namespace BitVector

/-- The vector answers every question as the set does, and has no word to
spare. -/
structure StandsFor (vector : BitVector) (members : Finset Nat) : Prop where
  get : ∀ bit, vector.get bit = true ↔ bit ∈ members
  listed : ∀ bit, bit ∈ vector.toList ↔ bit ∈ members
  increasing : vector.toList.Pairwise (· < ·)
  size : vector.size = members.card
  bound_of_greatest : ∀ greatest ∈ members,
    (∀ bit ∈ members, bit ≤ greatest) → vector.bound = greatest + 1
  bound_of_empty : members = ∅ → vector.bound = 0
  isEmpty : vector.isEmpty = true ↔ members = ∅
  canonical : vector.Canonical

theorem isEmpty_iff_wordAt {vector : BitVector} :
    vector.isEmpty = true ↔ ∀ index, wordAt vector.words index = 0 := by
  rw [isEmpty, List.all_eq_true]
  constructor
  · intro zero index
    rw [wordAt]
    cases found : vector.words[index]? with
    | none => rfl
    | some word => exact eq_of_beq (zero word (List.mem_of_getElem? found))
  · intro zero word listed
    obtain ⟨index, found⟩ := List.getElem?_of_mem listed
    have held := zero index
    rw [wordAt, found] at held
    exact beq_iff_eq.mpr held

theorem isEmpty_iff_get {vector : BitVector} :
    vector.isEmpty = true ↔ ∀ bit, vector.get bit = false := by
  rw [isEmpty_iff_wordAt]
  constructor
  · intro zero bit
    rw [get_eq_testBit, zero]
    exact Nat.zero_testBit _
  · intro absent index
    have same : ∀ bit, vector.get bit = (∅ : BitVector).get bit := by
      intro bit
      rw [absent, get_empty]
    exact wordAt_eq_of_get_eq same index

/-- A canonical vector is known by its bits. -/
theorem Canonical.standsFor {vector : BitVector} {members : Finset Nat}
    (canonical : vector.Canonical)
    (get : ∀ bit, vector.get bit = true ↔ bit ∈ members) :
    vector.StandsFor members := by
  have same : vector.members = members := by
    ext bit
    rw [mem_members, get]
  refine ⟨get, ?_, vector.toList_increasing, ?_, ?_, ?_, ?_, canonical⟩
  · intro bit
    rw [mem_toList, get]
  · rw [← same, card_members]
  · intro greatest held below
    have under := lt_bound_of_get ((get greatest).mpr held)
    obtain ⟨bit, bounded⟩ := Nat.exists_eq_add_one_of_ne_zero
      (Nat.ne_of_gt (Nat.zero_lt_of_lt under))
    have reached := below bit ((get bit).mp (get_of_bound_eq bounded))
    omega
  · intro none
    cases bounded : vector.bound with
    | zero => rfl
    | succ bit =>
        have held := (get bit).mp (get_of_bound_eq bounded)
        simp [none] at held
  · rw [isEmpty_iff_get, Finset.eq_empty_iff_forall_notMem]
    apply forall_congr'
    intro bit
    rw [← get, Bool.not_eq_true]

theorem standsFor_empty : (∅ : BitVector).StandsFor ∅ := by
  apply canonical_empty.standsFor
  intro bit
  simp

theorem StandsFor.set {vector : BitVector} {members : Finset Nat}
    (stands : vector.StandsFor members) (bit : Nat) :
    (vector.set bit).StandsFor (insert bit members) := by
  apply (stands.canonical.set bit).standsFor
  intro other
  rw [get_set, Bool.or_eq_true, stands.get, decide_eq_true_eq,
    Finset.mem_insert, or_comm]

theorem StandsFor.foldl_set {vector : BitVector} {members : Finset Nat}
    (stands : vector.StandsFor members) (bits : List Nat) :
    (bits.foldl BitVector.set vector).StandsFor
      (members ∪ bits.toFinset) := by
  induction bits generalizing vector members with
  | nil => simpa using stands
  | cons bit bits induction =>
      have later := induction (stands.set bit)
      rwa [Finset.insert_union, ← Finset.union_insert,
        ← List.toFinset_cons] at later

theorem standsFor_ofList (bits : List Nat) :
    (ofList bits).StandsFor bits.toFinset := by
  have filled := standsFor_empty.foldl_set bits
  rwa [Finset.empty_union] at filled

section Two

variable {left right : BitVector} {leftMembers rightMembers : Finset Nat}

theorem StandsFor.union (leftStands : left.StandsFor leftMembers)
    (rightStands : right.StandsFor rightMembers) :
    (left ∪ right).StandsFor (leftMembers ∪ rightMembers) := by
  apply (leftStands.canonical.union rightStands.canonical).standsFor
  intro bit
  rw [get_union, Bool.or_eq_true, leftStands.get, rightStands.get,
    Finset.mem_union]

theorem StandsFor.lacks_eq (leftStands : left.StandsFor leftMembers)
    (rightStands : right.StandsFor rightMembers) :
    left.lacks right = !decide (rightMembers ⊆ leftMembers) := by
  rw [Bool.eq_iff_iff, lacks_iff, Bool.not_eq_true', decide_eq_false_iff_not,
    Finset.not_subset]
  apply exists_congr
  intro bit
  rw [rightStands.get, ← leftStands.get, Bool.not_eq_true]

/-- Equality of words is equality of sets. -/
theorem StandsFor.eq_iff (leftStands : left.StandsFor leftMembers)
    (rightStands : right.StandsFor rightMembers) :
    left = right ↔ leftMembers = rightMembers := by
  constructor
  · intro same
    ext bit
    rw [← leftStands.get, ← rightStands.get, same]
  · intro same
    apply leftStands.canonical.eq_of_get_eq rightStands.canonical
    intro bit
    rw [Bool.eq_iff_iff, leftStands.get, rightStands.get, same]

end Two

end BitVector

namespace Registers

variable {Register : Type} [DecidableEq Register]

/-- Registers of vectors beside registers of sets. -/
structure StandFor (vectors : Registers Register BitVector)
    (sets : Registers Register (Finset Nat)) : Prop where
  held : ∀ register,
    (vectors.held register).StandsFor (sets.held register)
  answers : vectors.answers = sets.answers

variable {vectors : Registers Register BitVector}
  {sets : Registers Register (Finset Nat)}

theorem StandFor.hold (stand : vectors.StandFor sets) (register : Register)
    {vector : BitVector} {members : Finset Nat}
    (stands : vector.StandsFor members) :
    (vectors.hold register vector).StandFor (sets.hold register members) := by
  refine ⟨?_, stand.answers⟩
  intro other
  simp only [Registers.hold, Function.update_apply]
  split
  · exact stands
  · exact stand.held other

theorem StandFor.act (stand : vectors.StandFor sets)
    (action : RegisterAction Register) :
    (vectors.act vectorOperations action).StandFor
      (sets.act finsetOperations action) := by
  cases action with
  | clear register => exact stand.hold register BitVector.standsFor_empty
  | set register bit =>
      exact stand.hold register ((stand.held register).set bit)
  | fill register bits =>
      exact stand.hold register (BitVector.standsFor_ofList bits)
  | unite register other =>
      have content := stand.held register
      have added := stand.held other
      refine ⟨(stand.hold register (content.union added)).held, ?_⟩
      exact congrArg₂ (fun answers answer => answers ++ [answer]) stand.answers
        (content.lacks_eq added)

theorem StandFor.foldl_act (stand : vectors.StandFor sets)
    (actions : List (RegisterAction Register)) :
    (actions.foldl (Registers.act vectorOperations) vectors).StandFor
      (actions.foldl (Registers.act finsetOperations) sets) := by
  induction actions generalizing vectors sets with
  | nil => exact stand
  | cons action actions induction => exact induction (stand.act action)

theorem standFor_run (actions : List (RegisterAction Register)) :
    (run vectorOperations actions).StandFor
      (run finsetOperations actions) := by
  apply StandFor.foldl_act
  exact ⟨fun _ => BitVector.standsFor_empty, rfl⟩

/-- However vectors are made, they are finite sets of numbers: every question
about a register is answered as its set answers it, every union has told
whether the other set held something new, and two vectors are equal exactly
when their sets are. -/
theorem vectors_behave_as_sets (actions : List (RegisterAction Register)) :
    (∀ register,
      ((run vectorOperations actions).held register).StandsFor
        ((run finsetOperations actions).held register)) ∧
    (run vectorOperations actions).answers =
      (run finsetOperations actions).answers ∧
    ∀ left right,
      (run vectorOperations actions).held left =
          (run vectorOperations actions).held right ↔
        (run finsetOperations actions).held left =
          (run finsetOperations actions).held right := by
  have stand := standFor_run actions
  refine ⟨stand.held, stand.answers, ?_⟩
  intro left right
  exact (stand.held left).eq_iff (stand.held right)

example :
    (run vectorOperations
      [.fill 0 [1, 2], .fill 1 [2, 70], .unite 0 1, .unite 0 1]).answers =
        [true, false] := by
  decide

end Registers

end LockAudit
