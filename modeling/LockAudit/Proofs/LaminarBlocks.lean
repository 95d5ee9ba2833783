import LockAudit.Proofs.ClosingExits

/-!
# Blocks are nested or apart

Every block of a procedure looks for its exit on its own.  Still two blocks
never overlap in part: the later one starts after the earlier one, or it ends
inside it.  Blocks that are never closed all end with the code; an exit that
closes a block closes no other one.
-/

namespace LockAudit

/-- The block that starts at the index ends with an exit, up to which it enters
as many monitors as it leaves. -/
structure ProperlyClosed (code : List Instruction) (enter : Nat) : Prop where
  leaves : LeavesMonitor code (matchingExit code enter)
  balanced : enterCount (codeBetween code enter (matchingExit code enter)) =
    exitCount (codeBetween code enter (matchingExit code enter))

theorem EntersMonitor.lt_length {code : List Instruction} {enter : Nat}
    (entered : EntersMonitor code enter) : enter < code.length := by
  obtain ⟨_, _, listed, _⟩ := entered
  exact (List.getElem?_eq_some_iff.mp listed).1

/-- A block that is properly closed is closed by the search. -/
theorem ProperlyClosed.closingExit?_eq {code : List Instruction} {enter : Nat}
    (closed : ProperlyClosed code enter) (inRange : enter < code.length) :
    closingExit? 0 enter (code.drop enter) =
      some (matchingExit code enter) := by
  have closes : Closes code enter (matchingExit code enter) :=
    ⟨(matchingExit_bounds inRange).1, closed.leaves,
      Nat.le_of_eq closed.balanced⟩
  cases searched : closingExit? 0 enter (code.drop enter) with
  | none => exact (not_closes_of_unclosed searched closes).elim
  | some exit =>
      rw [matchingExit_of_isLeast (isLeast_closes_of_closed searched)]

section Enters

variable {code : List Instruction} {outer inner : Nat}
  (entered : EntersMonitor code outer)
  (innerEntered : EntersMonitor code inner) (after : outer < inner)

include entered innerEntered after

theorem exits_before_or_around :
    matchingExit code outer < inner ∨
      matchingExit code inner ≤ matchingExit code outer := by
  by_cases inside : inner ≤ matchingExit code outer
  · right
    exact matchingExit_le_of_inside entered innerEntered
      (Nat.le_of_lt after) inside
  · left
    exact Nat.lt_of_not_le inside

/-- Inside a block that is properly closed every block is closed earlier. -/
theorem matchingExit_lt_of_inside (closed : ProperlyClosed code outer)
    (inside : inner ≤ matchingExit code outer) :
    matchingExit code inner < matchingExit code outer := by
  obtain ⟨exit, earlier, innerClosed⟩ :=
    closingExit?_of_inside entered innerEntered after inside
      (closed.closingExit?_eq entered.lt_length)
  rw [matchingExit, innerClosed]
  exact earlier

theorem matchingExit_ne_of_properlyClosed (closed : ProperlyClosed code outer) :
    matchingExit code inner ≠ matchingExit code outer := by
  have starts := (matchingExit_bounds innerEntered.lt_length).1
  rcases Nat.lt_or_ge (matchingExit code outer) inner with before | inside
  · omega
  · have earlier :=
      matchingExit_lt_of_inside entered innerEntered after closed inside
    omega

end Enters

namespace Block

/-- No instruction is in both blocks. -/
def Apart (left right : Block) : Prop :=
  ∀ place, ¬(left.contains place = true ∧ right.contains place = true)

theorem Apart.symm {left right : Block} (apart : left.Apart right) :
    right.Apart left := by
  intro place shared
  exact apart place shared.symm

/-- One block has the instructions of the other, and more. -/
def Surrounds (outer inner : Block) : Prop :=
  (∀ place, inner.contains place = true → outer.contains place = true) ∧
    ∃ place, outer.contains place = true ∧ inner.contains place = false

end Block

section Blocks

variable {procedure : Procedure} {id : ProcedureId}
  {test otherTest : ValueNumber → Bool} {first second : Block}

theorem Procedure.entersMonitor_of_mem_blocks
    (listed : first ∈ procedure.blocks id test) :
    EntersMonitor procedure.code first.enter.index ∧
      first.last = matchingExit procedure.code first.enter.index := by
  obtain ⟨enter, lock, entered, _, rfl⟩ := Procedure.mem_blocks.mp listed
  exact ⟨Procedure.entersMonitor_of_operation? entered, rfl⟩

/-- Blocks of a procedure are told apart by where they start. -/
theorem Procedure.eq_of_mem_blocks (listed : first ∈ procedure.blocks id test)
    (otherListed : second ∈ procedure.blocks id otherTest)
    (same : first.enter.index = second.enter.index) : first = second := by
  obtain ⟨enter, _, _, _, rfl⟩ := Procedure.mem_blocks.mp listed
  obtain ⟨other, _, _, _, rfl⟩ := Procedure.mem_blocks.mp otherListed
  obtain rfl : enter = other := same
  rfl

/-- A block is apart from one that starts later, or has it inside. -/
theorem Procedure.apart_or_surrounds
    (listed : first ∈ procedure.blocks id test)
    (otherListed : second ∈ procedure.blocks id otherTest)
    (before : first.enter.index < second.enter.index) :
    first.Apart second ∨ first.Surrounds second := by
  obtain ⟨entered, last⟩ := Procedure.entersMonitor_of_mem_blocks listed
  obtain ⟨otherEntered, otherLast⟩ :=
    Procedure.entersMonitor_of_mem_blocks otherListed
  obtain ⟨sameProcedure, ordered, _⟩ := Procedure.range_of_mem_blocks listed
  obtain ⟨otherProcedure, _, _⟩ := Procedure.range_of_mem_blocks otherListed
  rcases exits_before_or_around entered otherEntered before with
    earlier | around
  · left
    intro place shared
    obtain ⟨inFirst, inSecond⟩ := shared
    have ends := (Block.contains_iff.mp inFirst).2.2
    have starts := (Block.contains_iff.mp inSecond).2.1
    omega
  · right
    constructor
    · intro place inSecond
      obtain ⟨there, starts, ends⟩ := Block.contains_iff.mp inSecond
      apply Block.contains_iff.mpr
      exact ⟨there.trans (otherProcedure.trans sameProcedure.symm),
        by omega, by omega⟩
    · refine ⟨first.enter, ?_, ?_⟩
      · exact Block.contains_iff.mpr ⟨rfl, Nat.le_refl _, ordered⟩
      · rw [Bool.eq_false_iff]
        intro inSecond
        have starts := (Block.contains_iff.mp inSecond).2.1
        omega

theorem Procedure.last_ne_of_properlyClosed
    (listed : first ∈ procedure.blocks id test)
    (otherListed : second ∈ procedure.blocks id otherTest)
    (before : first.enter.index < second.enter.index)
    (closed : ProperlyClosed procedure.code first.enter.index) :
    first.last ≠ second.last := by
  obtain ⟨entered, last⟩ := Procedure.entersMonitor_of_mem_blocks listed
  obtain ⟨otherEntered, otherLast⟩ :=
    Procedure.entersMonitor_of_mem_blocks otherListed
  rw [last, otherLast]
  exact (matchingExit_ne_of_properlyClosed entered otherEntered before
    closed).symm

end Blocks

/-- Of two enters, the later one lies behind the exit of the earlier one, or its
own exit does not; where the earlier block is properly closed and has the later
enter inside, the exit of the later one comes first.  So two blocks of a
procedure, whatever their locks, have no instruction in common or one has all
those of the other, and no two that are properly closed have the same exit. -/
theorem blocks_are_nested_or_apart :
    (∀ code outer inner, EntersMonitor code outer →
      EntersMonitor code inner → outer < inner →
      (matchingExit code outer < inner ∨
        matchingExit code inner ≤ matchingExit code outer) ∧
      (ProperlyClosed code outer → inner ≤ matchingExit code outer →
        matchingExit code inner < matchingExit code outer)) ∧
    ∀ (procedure : Procedure) id test otherTest,
      ∀ first ∈ procedure.blocks id test,
      ∀ second ∈ procedure.blocks id otherTest, first ≠ second →
      (first.Apart second ∨ first.Surrounds second ∨
        second.Surrounds first) ∧
      (ProperlyClosed procedure.code first.enter.index →
        ProperlyClosed procedure.code second.enter.index →
        first.last ≠ second.last) := by
  constructor
  · intro code outer inner entered innerEntered after
    exact ⟨exits_before_or_around entered innerEntered after,
      matchingExit_lt_of_inside entered innerEntered after⟩
  · intro procedure id test otherTest first listed second otherListed different
    rcases Nat.lt_trichotomy first.enter.index second.enter.index with
      before | same | after
    · constructor
      · rcases Procedure.apart_or_surrounds listed otherListed before with
          apart | around
        · exact .inl apart
        · exact .inr (.inl around)
      · intro closed _
        exact Procedure.last_ne_of_properlyClosed listed otherListed before
          closed
    · exact (different
        (Procedure.eq_of_mem_blocks listed otherListed same)).elim
    · constructor
      · rcases Procedure.apart_or_surrounds otherListed listed after with
          apart | around
        · exact .inl apart.symm
        · exact .inr (.inr around)
      · intro _ closed
        exact (Procedure.last_ne_of_properlyClosed otherListed listed after
          closed).symm

def unevenMethod : Procedure where
  className := "Counter"
  name := "add"
  descriptor := "()V"
  body := some unevenCode

theorem unevenCode_nested :
    ProperlyClosed unevenCode 1 ∧ 2 ≤ matchingExit unevenCode 1 ∧
      matchingExit unevenCode 2 < matchingExit unevenCode 1 ∧
      ¬ProperlyClosed unevenCode 6 ∧
      (matchingExit unevenCode 6 < 7 ∨
        matchingExit unevenCode 7 ≤ matchingExit unevenCode 6) ∧
      ∃ first ∈ unevenMethod.blocks 0 (· = 1),
        ∃ second ∈ unevenMethod.blocks 0 (· = 2), first ≠ second ∧
          ProperlyClosed unevenMethod.code first.enter.index ∧
          ProperlyClosed unevenMethod.code second.enter.index ∧
          (first.Apart second ∨ first.Surrounds second ∨
            second.Surrounds first) ∧
          first.last ≠ second.last := by
  have closed : ProperlyClosed unevenCode 1 := ⟨⟨_, 1, rfl, rfl⟩, rfl⟩
  have unclosed : ¬ProperlyClosed unevenCode 6 := by
    intro closed
    exact absurd closed.balanced (by decide)
  have inside : 2 ≤ matchingExit unevenCode 1 := by decide
  have innerClosed : ProperlyClosed unevenCode 2 := ⟨⟨_, 2, rfl, rfl⟩, rfl⟩
  obtain ⟨enters, blocks⟩ := blocks_are_nested_or_apart
  have closedBlock :=
    enters unevenCode 1 2 ⟨_, 1, rfl, rfl⟩ ⟨_, 2, rfl, rfl⟩ (by decide)
  have openBlock :=
    enters unevenCode 6 7 ⟨_, 3, rfl, rfl⟩ ⟨_, 4, rfl, rfl⟩ (by decide)
  have outerListed : ⟨⟨0, 1⟩, 5⟩ ∈ unevenMethod.blocks 0 (· = 1) := by decide
  have innerListed : ⟨⟨0, 2⟩, 4⟩ ∈ unevenMethod.blocks 0 (· = 2) := by decide
  have different : (⟨⟨0, 1⟩, 5⟩ : Block) ≠ ⟨⟨0, 2⟩, 4⟩ := by decide
  obtain ⟨nested, ends⟩ := blocks unevenMethod 0 (· = 1) (· = 2) _ outerListed _
    innerListed different
  exact ⟨closed, inside, closedBlock.2 closed inside, unclosed, openBlock.1,
    _, outerListed, _, innerListed, different, closed, innerClosed, nested,
    ends closed innerClosed⟩

end LockAudit
