import LockAudit.Dataflow.BitVector
import LockAudit.Dataflow.Numbering
import LockAudit.Write.Target

/-!
# Unguarded writes

The facts from which an audit starts: for every procedure, its writes of global
state that no trusted lock guards.  Instructions are numbered as they are found,
and a procedure records the numbers of its own writes.
-/

namespace LockAudit

structure ProcedureFacts where
  trustedBlocks : List Block := []
  /-- The numbers of the procedure's own unguarded writes. -/
  ownWrites : BitVector := ∅
  deriving DecidableEq, Repr

structure Seeds where
  numbering : Numbering InstructionRef
  /-- One entry for every procedure. -/
  facts : List ProcedureFacts
  deriving DecidableEq, Repr

namespace Scope

/-- The writes of global state outside the given blocks, in code whose first
instruction has index `index`. -/
def unguardedWritesFrom (scope : Scope) (id : ProcedureId)
    (procedure : Procedure) (guards : List Block) (index : Nat) :
    List Instruction → Except AuditError (List InstructionRef)
  | [] => .ok []
  | instruction :: rest => do
      let reference : InstructionRef := ⟨id, index⟩
      let shared ←
        if isProtected guards reference then pure false
        else scope.isSharedWrite id procedure instruction.operation
      let later ← scope.unguardedWritesFrom id procedure guards (index + 1) rest
      return if shared then reference :: later else later

def unguardedWrites (scope : Scope) (id : ProcedureId) (procedure : Procedure)
    (guards : List Block) : Except AuditError (List InstructionRef) :=
  scope.unguardedWritesFrom id procedure guards 0 procedure.code

/-- Procedures of the platform and procedures that run under a trusted lock
contribute no writes. -/
def isSeeded (scope : Scope) (id : ProcedureId) (procedure : Procedure) :
    Bool :=
  !scope.program.isIgnored procedure && !scope.isGuarded id procedure

/-- Numbers instructions and collects their numbers. -/
def numberAll (numbering : Numbering InstructionRef) :
    List InstructionRef → BitVector × Numbering InstructionRef
  | references =>
      references.foldl
        (fun (bits, numbering) reference =>
          let (number, numbering) := numbering.add reference
          (bits.set number, numbering))
        (∅, numbering)

def seedProcedure (scope : Scope) (numbering : Numbering InstructionRef)
    (id : ProcedureId) (procedure : Procedure) :
    Except AuditError (ProcedureFacts × Numbering InstructionRef) := do
  if scope.isSeeded id procedure then
    let trustedBlocks := scope.trustedBlocks id procedure
    let writes ← scope.unguardedWrites id procedure trustedBlocks
    let (ownWrites, numbering) := numberAll numbering writes
    return ({ trustedBlocks, ownWrites }, numbering)
  else return ({}, numbering)

/-- Seeds procedures whose first one has the number `id`. -/
def seedFrom (scope : Scope) (numbering : Numbering InstructionRef)
    (id : ProcedureId) : List Procedure → Except AuditError Seeds
  | [] => .ok ⟨numbering, []⟩
  | procedure :: rest => do
      let (facts, numbering) ← scope.seedProcedure numbering id procedure
      let later ← scope.seedFrom numbering (id + 1) rest
      return { later with facts := facts :: later.facts }

/-- Seeds all procedures.  Instructions that already have a number keep it. -/
def seedInto (scope : Scope) (numbering : Numbering InstructionRef) :
    Except AuditError Seeds :=
  scope.seedFrom numbering 0 scope.program.procedures

def seed (scope : Scope) : Except AuditError Seeds :=
  scope.seedInto ∅

end Scope

end LockAudit
