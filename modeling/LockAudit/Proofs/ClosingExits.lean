import LockAudit.Proofs.BlockRanges
import Mathlib.Order.Bounds.Basic

/-!
# Closing exits

The search for the exit of a block goes through the code with a depth that never
drops below zero.  Here the exit is told by counting alone: it is the first exit
up to which no more monitors are entered than left.  The depth of the search is
at every instruction the number of monitors that are still to be left, so that
both agree, wherever the search starts.
-/

namespace LockAudit

def Operation.entersMonitor : Operation → Bool
  | .monitorEnter _ => true
  | _ => false

def Operation.leavesMonitor : Operation → Bool
  | .monitorExit _ => true
  | _ => false

/-- The number of instructions that enter a monitor. -/
def enterCount (code : List Instruction) : Nat :=
  code.countP (·.operation.entersMonitor)

/-- The number of instructions that leave a monitor. -/
def exitCount (code : List Instruction) : Nat :=
  code.countP (·.operation.leavesMonitor)

/-- The code leaves a monitor at the index. -/
def LeavesMonitor (code : List Instruction) (index : Nat) : Prop :=
  ∃ instruction lock, code[index]? = some instruction ∧
    instruction.operation = .monitorExit lock

/-- The instructions from one index to another, both of them included. -/
def codeBetween (code : List Instruction) (first last : Nat) :
    List Instruction :=
  (code.drop first).take (last + 1 - first)

/-- A monitor is left at the index, and from the start up to there no more
monitors are entered than left. -/
structure Closes (code : List Instruction) (start index : Nat) : Prop where
  after : start ≤ index
  leaves : LeavesMonitor code index
  enough : enterCount (codeBetween code start index) ≤
    exitCount (codeBetween code start index)

@[simp] theorem enterCount_singleton (instruction : Instruction) :
    enterCount [instruction] =
      if instruction.operation.entersMonitor then 1 else 0 := by
  rw [enterCount, List.countP_singleton]

@[simp] theorem exitCount_singleton (instruction : Instruction) :
    exitCount [instruction] =
      if instruction.operation.leavesMonitor then 1 else 0 := by
  rw [exitCount, List.countP_singleton]

theorem counts_of_exit {instruction : Instruction} {lock : ValueNumber}
    (operation : instruction.operation = .monitorExit lock) :
    enterCount [instruction] = 0 ∧ exitCount [instruction] = 1 := by
  simp [operation, Operation.entersMonitor, Operation.leavesMonitor]

theorem enterCount_cons (instruction : Instruction)
    (rest : List Instruction) :
    enterCount (instruction :: rest) =
      enterCount [instruction] + enterCount rest := by
  rw [enterCount, ← List.singleton_append, List.countP_append]
  rfl

theorem exitCount_cons (instruction : Instruction)
    (rest : List Instruction) :
    exitCount (instruction :: rest) =
      exitCount [instruction] + exitCount rest := by
  rw [exitCount, ← List.singleton_append, List.countP_append]
  rfl

theorem leavesMonitor_cons_zero_iff {instruction : Instruction}
    {rest : List Instruction} :
    LeavesMonitor (instruction :: rest) 0 ↔
      ∃ lock, instruction.operation = .monitorExit lock := by
  simp [LeavesMonitor]

theorem leavesMonitor_cons_succ_iff {instruction : Instruction}
    {rest : List Instruction} {offset : Nat} :
    LeavesMonitor (instruction :: rest) (offset + 1) ↔
      LeavesMonitor rest offset := by
  simp [LeavesMonitor]

theorem leavesMonitor_drop_iff {code : List Instruction}
    {start offset : Nat} :
    LeavesMonitor (code.drop start) offset ↔
      LeavesMonitor code (start + offset) := by
  simp [LeavesMonitor]

/-- A monitor is left at the offset, and up to there at least as many are left
as were open before and are entered. -/
structure Ends (depth : Nat) (code : List Instruction) (offset : Nat) :
    Prop where
  leaves : LeavesMonitor code offset
  enough : depth + enterCount (code.take (offset + 1)) ≤
    exitCount (code.take (offset + 1))

theorem ends_zero_iff {depth : Nat} {instruction : Instruction}
    {rest : List Instruction} :
    Ends depth (instruction :: rest) 0 ↔
      (∃ lock, instruction.operation = .monitorExit lock) ∧ depth ≤ 1 := by
  constructor
  · intro ends
    obtain ⟨lock, operation⟩ := leavesMonitor_cons_zero_iff.mp ends.leaves
    obtain ⟨noEnter, oneExit⟩ := counts_of_exit operation
    have enough := ends.enough
    rw [List.take_succ_cons, List.take_zero, noEnter, oneExit] at enough
    exact ⟨⟨lock, operation⟩, enough⟩
  · intro last
    obtain ⟨⟨lock, operation⟩, shallow⟩ := last
    obtain ⟨noEnter, oneExit⟩ := counts_of_exit operation
    refine ⟨leavesMonitor_cons_zero_iff.mpr ⟨lock, operation⟩, ?_⟩
    rwa [List.take_succ_cons, List.take_zero, noEnter, oneExit]

/-- The search goes past an instruction: it does not end there, and goes on with
the monitors that were open before and are entered, less those that are left. -/
structure GoesPast (depth next : Nat) (instruction : Instruction) : Prop where
  balance : next + exitCount [instruction] = depth + enterCount [instruction]
  staysOpen : 1 ≤ depth → 1 ≤ next
  unended : ∀ rest, ¬Ends depth (instruction :: rest) 0
  searches : ∀ index rest, closingExit? depth index (instruction :: rest) =
    closingExit? next (index + 1) rest

/-- Past an instruction the search ends where it ends in the code that is
left. -/
theorem GoesPast.ends_succ_iff {depth next : Nat} {instruction : Instruction}
    (past : GoesPast depth next instruction) {rest : List Instruction}
    {offset : Nat} :
    Ends depth (instruction :: rest) (offset + 1) ↔ Ends next rest offset := by
  have balance := past.balance
  constructor
  · intro ends
    refine ⟨leavesMonitor_cons_succ_iff.mp ends.leaves, ?_⟩
    have enough := ends.enough
    rw [List.take_succ_cons, enterCount_cons, exitCount_cons] at enough
    omega
  · intro ends
    refine ⟨leavesMonitor_cons_succ_iff.mpr ends.leaves, ?_⟩
    have enough := ends.enough
    rw [List.take_succ_cons, enterCount_cons, exitCount_cons]
    omega

/-- At an instruction the search ends, or it goes past it. -/
theorem ends_or_goesPast (depth : Nat) (instruction : Instruction) :
    (∀ index rest, Ends depth (instruction :: rest) 0 ∧
      closingExit? depth index (instruction :: rest) = some index) ∨
    ∃ next, GoesPast depth next instruction := by
  cases operation : instruction.operation with
  | monitorEnter lock =>
      right
      refine ⟨depth + 1, ?_, fun _ => by omega, ?_, ?_⟩
      · simp [operation, Operation.entersMonitor, Operation.leavesMonitor]
      · simp [ends_zero_iff, operation]
      · simp [closingExit?, operation]
  | monitorExit lock =>
      by_cases shallow : depth ≤ 1
      · left
        intro index rest
        refine ⟨ends_zero_iff.mpr ⟨⟨lock, operation⟩, shallow⟩, ?_⟩
        simp [closingExit?, operation, shallow]
      · right
        refine ⟨depth - 1, ?_, fun _ => by omega, ?_, ?_⟩
        · obtain ⟨noEnter, oneExit⟩ := counts_of_exit operation
          omega
        · simp [ends_zero_iff, shallow]
        · simp [closingExit?, operation, shallow]
  | _ =>
      right
      refine ⟨depth, ?_, id, ?_, ?_⟩
      · simp [operation, Operation.entersMonitor, Operation.leavesMonitor]
      · simp [ends_zero_iff, operation]
      · simp [closingExit?, operation]

/-- A search that fails passes no exit at which it may end. -/
theorem not_ends_of_closingExit?_eq_none {depth index : Nat}
    {code : List Instruction} (unclosed : closingExit? depth index code = none)
    (offset : Nat) : ¬Ends depth code offset := by
  induction code generalizing depth index offset with
  | nil =>
      intro ends
      obtain ⟨_, _, listed, _⟩ := ends.leaves
      cases listed
  | cons instruction rest induction =>
      rcases ends_or_goesPast depth instruction with ended | ⟨next, past⟩
      · rw [(ended index rest).2] at unclosed
        cases unclosed
      · rw [past.searches] at unclosed
        cases offset with
        | zero => exact past.unended rest
        | succ offset =>
            rw [past.ends_succ_iff]
            exact induction unclosed offset

/-- A search that succeeds gives the first exit at which it may end. -/
theorem isLeast_of_closingExit?_eq_some {depth index exit : Nat}
    {code : List Instruction}
    (closed : closingExit? depth index code = some exit) :
    IsLeast { place | ∃ offset, place = index + offset ∧
      Ends depth code offset } exit := by
  induction code generalizing depth index with
  | nil => cases closed
  | cons instruction rest induction =>
      rcases ends_or_goesPast depth instruction with ended | ⟨next, past⟩
      · obtain ⟨ends, here⟩ := ended index rest
        cases closed.symm.trans here
        refine ⟨⟨0, rfl, ends⟩, ?_⟩
        intro place later
        obtain ⟨offset, same, _⟩ := later
        omega
      · rw [past.searches] at closed
        obtain ⟨⟨offset, same, ends⟩, least⟩ := induction closed
        refine ⟨⟨offset + 1, by omega, past.ends_succ_iff.mpr ends⟩, ?_⟩
        intro place later
        obtain ⟨other, there, otherEnds⟩ := later
        cases other with
        | zero => exact (past.unended rest otherEnds).elim
        | succ other =>
            apply least
            exact ⟨other, by omega, past.ends_succ_iff.mp otherEnds⟩

/-- Where a monitor is open at the start, all monitors are left when the search
ends, and no more than these: the depth has not been held up at zero. -/
theorem balanced_of_closingExit?_eq_some {depth index offset : Nat}
    {code : List Instruction} (opened : 1 ≤ depth)
    (closed : closingExit? depth index code = some (index + offset)) :
    depth + enterCount (code.take (offset + 1)) =
      exitCount (code.take (offset + 1)) := by
  induction code generalizing depth index offset with
  | nil => cases closed
  | cons instruction rest induction =>
      rcases ends_or_goesPast depth instruction with ended | ⟨next, past⟩
      · obtain ⟨ends, here⟩ := ended index rest
        have same := Option.some.inj (closed.symm.trans here)
        obtain ⟨⟨lock, operation⟩, shallow⟩ := ends_zero_iff.mp ends
        obtain ⟨noEnter, oneExit⟩ := counts_of_exit operation
        obtain rfl : offset = 0 := by omega
        rw [List.take_succ_cons, List.take_zero, noEnter, oneExit]
        omega
      · rw [past.searches] at closed
        have later := (closingExit?_bounds closed).1
        obtain ⟨before, rfl⟩ := Nat.exists_eq_add_one_of_ne_zero
          (show offset ≠ 0 by omega)
        have balance := past.balance
        have restBalance := induction (past.staysOpen opened)
          (closed.trans (congrArg some (by omega :
            index + (before + 1) = index + 1 + before)))
        rw [List.take_succ_cons, enterCount_cons, exitCount_cons]
        omega

section Exits

variable {code : List Instruction} {start index : Nat}

theorem closes_iff_ends :
    Closes code start index ↔
      ∃ offset, index = start + offset ∧ Ends 0 (code.drop start) offset := by
  constructor
  · intro closes
    obtain ⟨offset, rfl⟩ := Nat.exists_eq_add_of_le closes.after
    refine ⟨offset, rfl, leavesMonitor_drop_iff.mpr closes.leaves, ?_⟩
    have enough := closes.enough
    rw [codeBetween, Nat.add_assoc, Nat.add_sub_cancel_left] at enough
    rwa [Nat.zero_add]
  · intro ended
    obtain ⟨offset, rfl, ends⟩ := ended
    refine ⟨Nat.le_add_right start offset,
      leavesMonitor_drop_iff.mp ends.leaves, ?_⟩
    have enough := ends.enough
    rw [Nat.zero_add] at enough
    rwa [codeBetween, Nat.add_assoc, Nat.add_sub_cancel_left]

theorem not_closes_of_unclosed
    (unclosed : closingExit? 0 start (code.drop start) = none) :
    ¬Closes code start index := by
  rw [closes_iff_ends]
  intro ended
  obtain ⟨offset, _, ends⟩ := ended
  exact not_ends_of_closingExit?_eq_none unclosed offset ends

theorem isLeast_closes_of_closed
    (closed : closingExit? 0 start (code.drop start) = some index) :
    IsLeast { place | Closes code start place } index := by
  have least := isLeast_of_closingExit?_eq_some closed
  simpa only [← closes_iff_ends] using least

/-- The search succeeds with the first exit that closes what it has passed. -/
theorem closingExit?_eq_some_iff :
    closingExit? 0 start (code.drop start) = some index ↔
      IsLeast { place | Closes code start place } index := by
  constructor
  · exact isLeast_closes_of_closed
  · intro least
    cases searched : closingExit? 0 start (code.drop start) with
    | none => exact (not_closes_of_unclosed searched least.1).elim
    | some exit =>
        rw [(isLeast_closes_of_closed searched).unique least]

theorem matchingExit_of_isLeast
    (least : IsLeast { place | Closes code start place } index) :
    matchingExit code start = index := by
  rw [matchingExit, closingExit?_eq_some_iff.mpr least]
  rfl

/-- The exit of a block that is closed leaves as many monitors as the block
enters. -/
theorem EntersMonitor.balanced (entered : EntersMonitor code start)
    (least : IsLeast { place | Closes code start place } index) :
    enterCount (codeBetween code start index) =
      exitCount (codeBetween code start index) := by
  have closed := closingExit?_eq_some_iff.mpr least
  rw [entered.closingExit?_eq] at closed
  obtain ⟨offset, rfl⟩ :=
    Nat.exists_eq_add_of_le (closingExit?_bounds closed).1
  have balance := balanced_of_closingExit?_eq_some (Nat.le_refl 1) closed
  obtain ⟨instruction, lock, listed, operation⟩ := entered
  obtain ⟨inRange, same⟩ := List.getElem?_eq_some_iff.mp listed
  have piece : codeBetween code start (start + 1 + offset) =
      instruction :: (code.drop (start + 1)).take (offset + 1) := by
    have length : start + 1 + offset + 1 - start = offset + 1 + 1 := by omega
    rw [codeBetween, length, List.drop_eq_getElem_cons inRange, same,
      List.take_succ_cons]
  rw [piece, enterCount_cons, exitCount_cons, ← balance]
  simp [operation, Operation.entersMonitor, Operation.leavesMonitor]

end Exits

/-- From wherever the search starts, it gives the first exit up to which no more
monitors are entered than left, and the last instruction when there is none.
Where it starts at an enter, as many monitors are left up to that exit as are
entered.  From a start in the code the result is in the code, and not before
the start. -/
theorem matchingExit_is_first_closing (code : List Instruction)
    (start : Nat) :
    ((∃ index, Closes code start index) →
      IsLeast { index | Closes code start index }
        (matchingExit code start)) ∧
    ((¬∃ index, Closes code start index) →
      matchingExit code start = code.length - 1) ∧
    (EntersMonitor code start → ∀ index,
      IsLeast { place | Closes code start place } index →
        enterCount (codeBetween code start index) =
          exitCount (codeBetween code start index)) ∧
    (start < code.length →
      start ≤ matchingExit code start ∧
        matchingExit code start < code.length) := by
  refine ⟨?_, ?_, fun entered _ => entered.balanced, matchingExit_bounds⟩
  · intro closable
    obtain ⟨index, closes⟩ := closable
    cases searched : closingExit? 0 start (code.drop start) with
    | none => exact (not_closes_of_unclosed searched closes).elim
    | some exit =>
        have least := isLeast_closes_of_closed searched
        rwa [matchingExit_of_isLeast least]
  · intro unclosable
    cases searched : closingExit? 0 start (code.drop start) with
    | none =>
        rw [matchingExit, searched]
        rfl
    | some exit =>
        exact (unclosable ⟨exit, (isLeast_closes_of_closed searched).1⟩).elim

/-- An exit without an enter, a block with another one inside, and a block that
is never closed around one that is. -/
def unevenCode : List Instruction :=
  [.monitorExit 1, .monitorEnter 1, .monitorEnter 2, .other, .monitorExit 2,
    .monitorExit 1, .monitorEnter 3, .monitorEnter 4, .monitorExit 4].map
    fun operation => { operation }

theorem unevenCode_closes : Closes unevenCode 1 5 where
  after := by decide
  leaves := ⟨_, 1, rfl, rfl⟩
  enough := by decide

theorem unevenCode_exits :
    (∃ index, Closes unevenCode 1 index) ∧
      IsLeast { index | Closes unevenCode 1 index } 5 ∧
      enterCount (codeBetween unevenCode 1 5) =
        exitCount (codeBetween unevenCode 1 5) ∧
      (¬∃ index, Closes unevenCode 6 index) ∧
      matchingExit unevenCode 6 = 8 := by
  have closable : ∃ index, Closes unevenCode 1 index := ⟨5, unevenCode_closes⟩
  have unclosable : ¬∃ index, Closes unevenCode 6 index := by
    intro closable
    obtain ⟨index, closes⟩ := closable
    exact not_closes_of_unclosed rfl closes
  obtain ⟨least, _, balanced, _⟩ := matchingExit_is_first_closing unevenCode 1
  obtain ⟨_, last, _, _⟩ := matchingExit_is_first_closing unevenCode 6
  have first : IsLeast { index | Closes unevenCode 1 index } 5 := least closable
  exact ⟨closable, first, balanced ⟨_, 1, rfl, rfl⟩ 5 first, unclosable,
    last unclosable⟩

end LockAudit
