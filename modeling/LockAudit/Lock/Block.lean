import LockAudit.Program.Basic
import LockAudit.SortedSet

/-!
# Synchronized blocks

A block runs from an instruction that enters a monitor to the exit that closes
it.  Enters and exits are paired by nesting alone, whatever they lock; a block
that is never closed runs to the last instruction.
-/

namespace LockAudit

/-- An instruction of a program. -/
structure InstructionRef where
  procedure : ProcedureId
  index : Nat
  deriving DecidableEq, Repr

namespace InstructionRef

/-- Instructions are ordered by procedure and then by index. -/
def order : InstructionRef → InstructionRef → Ordering :=
  compareLex (compareOn procedure) (compareOn index)

instance : Ord InstructionRef :=
  ⟨order⟩

instance : Std.TransOrd InstructionRef :=
  inferInstanceAs (Std.TransCmp (compareLex (compareOn procedure) (compareOn index)))

instance : Std.LawfulEqOrd InstructionRef where
  compare_self := Std.ReflCmp.compare_self
  eq_of_compare := by
    intro left right same
    have parts : order left right = .eq := same
    simp only [order, compareLex_eq_eq, compareOn] at parts
    obtain ⟨procedures, indices⟩ := parts
    cases left
    cases right
    simp only [InstructionRef.mk.injEq]
    exact ⟨Std.LawfulEqOrd.eq_of_compare procedures,
      Std.LawfulEqOrd.eq_of_compare indices⟩

end InstructionRef

/-- The instructions of one procedure from `enter` to the index `last`. -/
structure Block where
  enter : InstructionRef
  last : Nat
  deriving DecidableEq, Repr

namespace Block

def procedure (block : Block) : ProcedureId :=
  block.enter.procedure

def contains (block : Block) (instruction : InstructionRef) : Bool :=
  instruction.procedure = block.enter.procedure &&
    block.enter.index ≤ instruction.index && instruction.index ≤ block.last

end Block

/-- Some block contains the instruction. -/
def isProtected (blocks : List Block) (instruction : InstructionRef) : Bool :=
  blocks.any (·.contains instruction)

/-- The first exit at which no more monitors are open than were closed, for
code whose first instruction has index `index`. -/
def closingExit? (depth index : Nat) : List Instruction → Option Nat
  | [] => none
  | instruction :: rest =>
      match instruction.operation with
      | .monitorEnter _ => closingExit? (depth + 1) (index + 1) rest
      | .monitorExit _ =>
          if depth ≤ 1 then some index
          else closingExit? (depth - 1) (index + 1) rest
      | _ => closingExit? depth (index + 1) rest

/-- The exit that closes the block which starts at an index. -/
def matchingExit (code : List Instruction) (enter : Nat) : Nat :=
  (closingExit? 0 enter (code.drop enter)).getD (code.length - 1)

/-- The blocks whose lock passes a test, in the order of their enters. -/
def Procedure.blocks (procedure : Procedure) (id : ProcedureId)
    (test : ValueNumber → Bool) : List Block :=
  procedure.code.zipIdx.filterMap fun (instruction, index) =>
    match instruction.operation with
    | .monitorEnter lock =>
        if test lock then
          some ⟨⟨id, index⟩, matchingExit procedure.code index⟩
        else none
    | _ => none

end LockAudit
