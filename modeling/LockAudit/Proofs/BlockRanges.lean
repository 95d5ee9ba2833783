import LockAudit.Proofs.ExposedRegions

/-!
# Ranges of blocks

Blocks of one procedure never overlap in part.  Inside a block its own monitor
is still to be closed, so that the search for its exit goes on for longer than
that of any block which is entered there.
-/

namespace LockAudit

/-- The code enters a monitor at the index. -/
def EntersMonitor (code : List Instruction) (index : Nat) : Prop :=
  ∃ instruction lock, code[index]? = some instruction ∧
    instruction.operation = .monitorEnter lock

theorem Procedure.entersMonitor_of_operation? {procedure : Procedure}
    {index : Nat} {lock : ValueNumber}
    (entered : procedure.operation? index = some (.monitorEnter lock)) :
    EntersMonitor procedure.code index := by
  obtain ⟨instruction, listed, operation⟩ :=
    Procedure.operation?_eq_some_iff.mp entered
  exact ⟨instruction, lock, listed, operation⟩

/-- A block lies in the code of its procedure, and does not end before it
starts. -/
theorem Procedure.range_of_mem_blocks {procedure : Procedure}
    {id : ProcedureId} {test : ValueNumber → Bool} {block : Block}
    (listed : block ∈ procedure.blocks id test) :
    block.procedure = id ∧ block.enter.index ≤ block.last ∧
      block.last < procedure.code.length := by
  obtain ⟨enter, lock, entered, _, rfl⟩ := Procedure.mem_blocks.mp listed
  exact ⟨rfl, matchingExit_bounds (Procedure.lt_of_operation? entered)⟩

/-- From an enter the search goes on with one monitor more to close. -/
theorem EntersMonitor.closingExit?_eq {code : List Instruction} {enter : Nat}
    (entered : EntersMonitor code enter) (depth : Nat) :
    closingExit? depth enter (code.drop enter) =
      closingExit? (depth + 1) (enter + 1) (code.drop (enter + 1)) := by
  obtain ⟨instruction, lock, listed, operation⟩ := entered
  obtain ⟨inRange, same⟩ := List.getElem?_eq_some_iff.mp listed
  rw [List.drop_eq_getElem_cons inRange, same, closingExit?, operation]

/-- With more monitors to close the search ends later. -/
theorem closingExit?_of_deeper {depth deeper index exit : Nat}
    {code : List Instruction} (opened : 1 ≤ depth) (less : depth < deeper)
    (closed : closingExit? deeper index code = some exit) :
    ∃ earlier < exit, closingExit? depth index code = some earlier := by
  induction code generalizing depth deeper index with
  | nil => cases closed
  | cons instruction rest induction =>
      rw [closingExit?] at closed ⊢
      cases operation : instruction.operation with
      | monitorEnter lock =>
          simp only [operation] at closed ⊢
          exact induction (by omega) (by omega) closed
      | monitorExit lock =>
          simp only [operation] at closed ⊢
          rw [if_neg (by omega)] at closed
          by_cases last : depth ≤ 1
          · have later := (closingExit?_bounds closed).1
            exact ⟨index, later, if_pos last⟩
          · rw [if_neg last]
            exact induction (by omega) (by omega) closed
      | _ =>
          simp only [operation] at closed ⊢
          exact induction opened less closed

/-- Before the exit some monitor is still to be closed after each
instruction. -/
theorem exists_depth_of_before {depth index exit : Nat}
    {instruction : Instruction} {rest : List Instruction}
    (opened : 1 ≤ depth)
    (closed : closingExit? depth index (instruction :: rest) = some exit)
    (before : index < exit) :
    ∃ next, 1 ≤ next ∧ closingExit? next (index + 1) rest = some exit := by
  rw [closingExit?] at closed
  cases operation : instruction.operation with
  | monitorEnter lock =>
      simp only [operation] at closed
      exact ⟨depth + 1, by omega, closed⟩
  | monitorExit lock =>
      simp only [operation] at closed
      by_cases last : depth ≤ 1
      · rw [if_pos last] at closed
        cases closed
        exact (Nat.lt_irrefl index before).elim
      · rw [if_neg last] at closed
        exact ⟨depth - 1, by omega, closed⟩
  | _ =>
      simp only [operation] at closed
      exact ⟨depth, opened, closed⟩

theorem exists_depth_inside {depth index offset exit : Nat}
    {code : List Instruction} (opened : 1 ≤ depth)
    (closed : closingExit? depth index code = some exit)
    (before : index + offset ≤ exit) :
    ∃ inner, 1 ≤ inner ∧
      closingExit? inner (index + offset) (code.drop offset) = some exit := by
  induction offset generalizing depth index code with
  | zero => exact ⟨depth, opened, closed⟩
  | succ offset induction =>
      cases code with
      | nil => cases closed
      | cons instruction rest =>
          obtain ⟨next, stillOpened, continued⟩ :=
            exists_depth_of_before opened closed (by omega)
          have later := induction stillOpened continued (by omega)
          rwa [Nat.add_right_comm, Nat.add_assoc] at later

section Inside

variable {code : List Instruction} {outer inner : Nat}
  (entered : EntersMonitor code outer)
  (innerEntered : EntersMonitor code inner)

include entered innerEntered

/-- A block that is entered inside a closed one is closed before it. -/
theorem closingExit?_of_inside {exit : Nat} (after : outer < inner)
    (before : inner ≤ exit)
    (closed : closingExit? 0 outer (code.drop outer) = some exit) :
    ∃ innerExit < exit,
      closingExit? 0 inner (code.drop inner) = some innerExit := by
  obtain ⟨offset, place⟩ := Nat.exists_eq_add_of_le (Nat.succ_le_of_lt after)
  have start : closingExit? 1 (outer + 1) (code.drop (outer + 1)) =
      some exit :=
    (entered.closingExit?_eq 0).symm.trans closed
  obtain ⟨depth, opened, continued⟩ :=
    exists_depth_inside (Nat.le_refl 1) start (place ▸ before)
  rw [List.drop_drop, ← place, innerEntered.closingExit?_eq] at continued
  rw [innerEntered.closingExit?_eq]
  exact closingExit?_of_deeper (Nat.le_refl 1) (by omega) continued

/-- A block that is entered inside another one ends inside it. -/
theorem matchingExit_le_of_inside (after : outer ≤ inner)
    (before : inner ≤ matchingExit code outer) :
    matchingExit code inner ≤ matchingExit code outer := by
  rcases Nat.eq_or_lt_of_le after with same | later
  · subst same
    exact Nat.le_refl _
  · cases closed : closingExit? 0 outer (code.drop outer) with
    | none =>
        obtain ⟨_, _, listed, _⟩ := innerEntered
        have bounds :=
          matchingExit_bounds (List.getElem?_eq_some_iff.mp listed).1
        have last : matchingExit code outer = code.length - 1 := by
          rw [matchingExit, closed]
          rfl
        omega
    | some exit =>
        have outerExit : matchingExit code outer = exit := by
          rw [matchingExit, closed]
          rfl
        obtain ⟨innerExit, earlier, innerClosed⟩ :=
          closingExit?_of_inside entered innerEntered later
            (outerExit ▸ before) closed
        rw [outerExit, matchingExit, innerClosed]
        exact Nat.le_of_lt earlier

end Inside

end LockAudit
