import LockAudit.Proofs.ChangedCode
import LockAudit.Proofs.ShiftedCode
import Mathlib.Data.List.InsertIdx

/-!
# Idle instructions

An instruction that only reads a field, or that does nothing an audit knows of,
may stand anywhere: inserting it shifts what comes after it and changes nothing
that the audit tells.
-/

namespace LockAudit

/-- The index of an instruction after one has been inserted at a position. -/
def shiftedIndex (position index : Nat) : Nat :=
  if index < position then index else index + 1

theorem shiftedIndex_strictMono (position : Nat) :
    StrictMono (shiftedIndex position) := by
  intro left right less
  unfold shiftedIndex
  split <;> split <;> omega

theorem shiftedIndex_of_le {position index : Nat} (after : position ≤ index) :
    shiftedIndex position index = index + 1 :=
  if_neg (Nat.not_lt.mpr after)

section Insertion

variable {items : List α} {position : Nat}

theorem getElem?_insertIdx_shifted (item : α) (index : Nat) :
    (items.insertIdx position item)[shiftedIndex position index]? =
      items[index]? := by
  unfold shiftedIndex
  rw [List.getElem?_insertIdx]
  split
  · simp
  · next after =>
      have notBefore : ¬index + 1 < position := by omega
      have notHere : index + 1 ≠ position := by omega
      simp [notBefore, notHere]

/-- What stands in the list after the insertion is the new item, or has been
shifted. -/
theorem exists_origin_of_insertIdx {item other : α} {index : Nat}
    (listed : (items.insertIdx position item)[index]? = some other)
    (different : other ≠ item) :
    ∃ origin, shiftedIndex position origin = index ∧
      items[origin]? = some other := by
  rw [List.getElem?_insertIdx] at listed
  split at listed
  · next before => exact ⟨index, if_pos before, listed⟩
  · next notBefore =>
      split at listed
      · split at listed
        · exact (different (Option.some.inj listed).symm).elim
        · cases listed
      · next notHere =>
          refine ⟨index - 1, ?_, listed⟩
          rw [shiftedIndex_of_le (by omega)]
          omega

theorem drop_insertIdx_of_le {start : Nat} (item : α)
    (inRange : position ≤ items.length) (before : start ≤ position) :
    (items.insertIdx position item).drop start =
      (items.drop start).insertIdx (position - start) item := by
  induction start generalizing items position with
  | zero => rfl
  | succ start induction =>
      cases position with
      | zero => cases before
      | succ position =>
          cases items with
          | nil => cases inRange
          | cons head tail =>
              simpa using induction (Nat.le_of_succ_le_succ inRange)
                (Nat.le_of_succ_le_succ before)

theorem drop_insertIdx_of_ge {start : Nat} (item : α)
    (inRange : position ≤ items.length) (after : position ≤ start) :
    (items.insertIdx position item).drop (start + 1) = items.drop start := by
  induction position generalizing items start with
  | zero => rfl
  | succ position induction =>
      cases items with
      | nil => cases inRange
      | cons head tail =>
          cases start with
          | zero => cases after
          | succ start =>
              exact induction (Nat.le_of_succ_le_succ inRange)
                (Nat.le_of_succ_le_succ after)

end Insertion

theorem closingExit?_idle {instruction : Instruction}
    (idle : instruction.operation.isIdle = true) (depth index : Nat)
    (rest : List Instruction) :
    closingExit? depth index (instruction :: rest) =
      closingExit? depth (index + 1) rest := by
  rw [closingExit?]
  generalize instruction.operation = operation at idle
  cases operation with
  | fieldRead => rfl
  | other => rfl
  | _ => cases idle

theorem closingExit?_succ (depth index : Nat) (code : List Instruction) :
    closingExit? depth (index + 1) code =
      (closingExit? depth index code).map (· + 1) := by
  induction code generalizing depth index with
  | nil => rfl
  | cons instruction rest induction =>
      simp only [closingExit?, induction]
      split
      · rfl
      · split <;> rfl
      · rfl

/-- An exit that closes a block is shifted like any other instruction. -/
theorem closingExit?_insertIdx {instruction : Instruction}
    (idle : instruction.operation.isIdle = true) {code : List Instruction}
    {position : Nat} (inRange : position ≤ code.length) (depth index : Nat) :
    closingExit? depth index (code.insertIdx position instruction) =
      (closingExit? depth index code).map
        (shiftedIndex (index + position)) := by
  induction position generalizing code depth index with
  | zero =>
      rw [List.insertIdx_zero, closingExit?_idle idle, closingExit?_succ]
      apply Option.map_congr
      intro exit closed
      exact (shiftedIndex_of_le (closingExit?_bounds closed).1).symm
  | succ position induction =>
      cases code with
      | nil => cases inRange
      | cons head rest =>
          have later : ∀ depth index,
              closingExit? depth index (rest.insertIdx position instruction) =
                (closingExit? depth index rest).map
                  (shiftedIndex (index + position)) :=
            induction (Nat.le_of_succ_le_succ inRange)
          have place : index + 1 + position = index + (position + 1) := by
            omega
          rw [List.insertIdx_succ_cons]
          simp only [closingExit?, later, place]
          split
          · rfl
          · split
            · have before : index < index + (position + 1) := by omega
              simp [shiftedIndex, before]
            · rfl
          · rfl

theorem closingExit?_drop_insertIdx {instruction : Instruction}
    (idle : instruction.operation.isIdle = true) {code : List Instruction}
    {position : Nat} (inRange : position ≤ code.length) (enter : Nat) :
    closingExit? 0 (shiftedIndex position enter)
        ((code.insertIdx position instruction).drop
          (shiftedIndex position enter)) =
      (closingExit? 0 enter (code.drop enter)).map
        (shiftedIndex position) := by
  by_cases before : enter < position
  · have kept : shiftedIndex position enter = enter := if_pos before
    have rest : position - enter ≤ (code.drop enter).length := by
      rw [List.length_drop]
      omega
    have place : enter + (position - enter) = position := by omega
    rw [kept, drop_insertIdx_of_le instruction inRange
        (Nat.le_of_lt before),
      closingExit?_insertIdx idle rest, place]
  · have after := Nat.le_of_not_lt before
    rw [shiftedIndex_of_le after, drop_insertIdx_of_ge instruction inRange after,
      closingExit?_succ]
    apply Option.map_congr
    intro exit closed
    have behind := (closingExit?_bounds closed).1
    exact (shiftedIndex_of_le (Nat.le_trans after behind)).symm

/-- Shifted instructions lie in the blocks in which they lay.  A block that is
never closed takes in the instructions that are shifted beyond its end. -/
theorem Procedure.inBlock_shifted_iff {left right : Procedure}
    {instruction : Instruction} (idle : instruction.operation.isIdle = true)
    {position : Nat} (inRange : position ≤ left.code.length)
    (inserted : right.code = left.code.insertIdx position instruction)
    {enter index : Nat} (indexInRange : index < left.code.length) :
    right.InBlock (shiftedIndex position enter) (shiftedIndex position index) ↔
      left.InBlock enter index := by
  have order : ∀ first second, shiftedIndex position first ≤
      shiftedIndex position second ↔ first ≤ second :=
    fun _ _ => (shiftedIndex_strictMono position).le_iff_le
  have closing := closingExit?_drop_insertIdx idle inRange enter
  unfold Procedure.InBlock
  rw [inserted, order, matchingExit, matchingExit, closing,
    List.length_insertIdx_of_le_length inRange]
  apply and_congr_right
  intro _
  cases closingExit? 0 enter (left.code.drop enter) with
  | some exit => exact order index exit
  | none =>
      apply iff_of_true
      · show shiftedIndex position index ≤ left.code.length + 1 - 1
        unfold shiftedIndex
        split <;> omega
      · exact Nat.le_sub_one_of_lt indexInRange

/-- The instructions from the place on, in its procedure, are shifted. -/
def Relocation.shift (place : InstructionRef) : Relocation where
  procedure := .refl ProcedureId
  index := fun id =>
    if id = place.procedure then
      ⟨shiftedIndex place.index,
        (shiftedIndex_strictMono place.index).injective⟩
    else .refl Nat

theorem Relocation.shift_inPlace (place : InstructionRef) :
    (shift place).InPlace where
  procedure := fun _ => rfl
  index := by
    intro id
    unfold shift
    dsimp only
    split
    · exact shiftedIndex_strictMono place.index
    · exact strictMono_id

namespace Program

/-- The program with one more instruction. -/
def insert (program : Program) (place : InstructionRef)
    (instruction : Instruction) : Program :=
  program.changeCode place.procedure (·.insertIdx place.index instruction)

section Insertion

variable {program : Program} {place : InstructionRef}
  {instruction : Instruction} {procedure : Procedure}
  {code : List Instruction}
  (found : program.procedure? place.procedure = some procedure)
  (hasCode : procedure.body = some code)
  (inRange : place.index ≤ code.length)
  (idle : instruction.operation.isIdle = true)

theorem carries_unchanged {id : ProcedureId} (other : place.procedure ≠ id)
    (unchanged : Procedure) :
    program.Carries (program.insert place instruction) (.shift place) id
      unchanged unchanged := by
  have kept : (Relocation.shift place).index id = .refl Nat := if_neg other.symm
  constructor
  · exact .refl unchanged
  · rfl
  · rfl
  · exact fun _ => rfl
  · intro index item listed
    rw [kept]
    exact listed
  · intro index item listed _
    rw [kept]
    exact ⟨index, rfl, listed⟩
  · intro enter index _ _
    rw [kept]
    rfl

include hasCode inRange idle

theorem carries_insert :
    program.Carries (program.insert place instruction) (.shift place)
      place.procedure procedure
      (procedure.changeCode (·.insertIdx place.index instruction)) := by
  have shifted : ∀ index, (Relocation.shift place).index place.procedure index =
      shiftedIndex place.index index := by
    intro index
    simp [Relocation.shift]
  have inserted := Procedure.code_changeCode hasCode
    (·.insertIdx place.index instruction)
  have bounded : place.index ≤ procedure.code.length := by
    simpa [Procedure.code, hasCode] using inRange
  constructor
  · exact ⟨rfl, rfl, rfl, rfl, rfl⟩
  · rfl
  · rfl
  · exact fun _ => rfl
  · intro index item listed
    rw [shifted, inserted, getElem?_insertIdx_shifted]
    exact listed
  · intro index item listed busy
    rw [inserted] at listed
    have different : item ≠ instruction := by
      intro same
      rw [same, idle] at busy
      cases busy
    obtain ⟨origin, there, foundThere⟩ :=
      exists_origin_of_insertIdx listed different
    exact ⟨origin, (shifted origin).trans there, foundThere⟩
  · intro enter index _ indexInRange
    rw [shifted, shifted]
    exact Procedure.inBlock_shifted_iff idle bounded inserted indexInRange

include found

theorem relocates_insert :
    program.Relocates (program.insert place instruction) (.shift place) where
  classes := .refl _
  lookup := fun _ => rfl
  statics := fun _ _ _ => rfl
  moved := by
    intro id left leftFound
    refine ⟨_, (procedure?_changeCode id).trans (congrArg _ leftFound), ?_⟩
    dsimp only
    split
    · next same =>
        subst same
        cases found.symm.trans leftFound
        exact carries_insert hasCode inRange idle
    · next other => exact carries_unchanged other left
  origin := by
    intro id right rightFound
    obtain ⟨left, leftFound, _⟩ := exists_of_changedCode rightFound
    exact ⟨id, left, rfl, leftFound⟩
  calls := by
    intro caller site target
    simpa [Relocation.shift, insert] using callsAt_changeCode_iff

end Insertion

/-- Inserting an idle instruction anywhere in the code of an accepted program
leaves it accepted and changes nothing that an audit tells: under every signal
it has the same findings in the same order, the same number of exposed regions
and of steps, or the same error. -/
theorem idle_instruction_changes_nothing (program : Program)
    (accepted : program.Accepted) (place : InstructionRef)
    (procedure : Procedure) (code : List Instruction)
    (found : program.procedure? place.procedure = some procedure)
    (hasCode : procedure.body = some code)
    (inRange : place.index ≤ code.length) (instruction : Instruction)
    (idle : instruction.operation.isIdle = true) (signal : StopSignal) :
    (program.insert place instruction).Accepted ∧
      ((program.insert place instruction).audit
          (program.insert place instruction).callGraph signal).map
          Audit.summary =
        (program.audit program.callGraph signal).map Audit.summary := by
  have relocates := relocates_insert found hasCode inRange idle
  have stillAccepted : (program.insert place instruction).Accepted :=
    accepted.changeCode
  exact ⟨stillAccepted, relocates.summary_eq (Relocation.shift_inPlace place)
    accepted stillAccepted signal⟩

/-- A block that is never closed. -/
def unclosedCounter : Program where
  classes :=
    [{ name := "Counter", fields := [{ name := "total", isStatic := true }] }]
  procedures :=
    [{ className := "Counter"
       name := "add"
       descriptor := "()V"
       body := some
        [⟨some 3, .monitorEnter 2⟩,
          ⟨none, .fieldWrite ⟨"Counter", "total"⟩ none⟩] }]

/-- A read of a field that no class declares. -/
def strayRead : Instruction :=
  ⟨some 9, .fieldRead ⟨"Missing", "field"⟩ none⟩

theorem unclosedCounter_with_strayRead :
    unclosedCounter.Accepted ∧ strayRead.operation.isIdle = true ∧
      (unclosedCounter.insert ⟨0, 1⟩ strayRead).Accepted ∧
      ((unclosedCounter.insert ⟨0, 1⟩ strayRead).audit
          (unclosedCounter.insert ⟨0, 1⟩ strayRead).callGraph {}).map
          Audit.summary =
        .ok ⟨[⟨"LCK06J", .block,
            ⟨"Counter", "Counter", "add", "()V", none, some 3⟩,
            .ofList ["Counter.total"]⟩], 1, 0, some 1⟩ := by
  have accepted : unclosedCounter.Accepted := by decide +kernel
  obtain ⟨stillAccepted, same⟩ := idle_instruction_changes_nothing
    unclosedCounter accepted ⟨0, 1⟩ _ _ rfl rfl (by decide) strayRead rfl {}
  refine ⟨accepted, rfl, stillAccepted, ?_⟩
  rw [same]
  decide +kernel

end Program

end LockAudit
