import LockAudit.CallGraph
import LockAudit.Dataflow.Fixpoint
import LockAudit.Write.Seeding

/-!
# Reachable writes

The unguarded writes that a procedure may perform, itself or through the
procedures that it calls.  They flow from callees to callers until nothing
changes.
-/

namespace LockAudit

structure Reach where
  numbering : Numbering InstructionRef
  facts : List ProcedureFacts
  solution : FlowSolution
  deriving DecidableEq, Repr

namespace Seeds

/-- The flow of unguarded writes from callees to callers. -/
def flowProblem (seeds : Seeds) (graph : CallGraph) : FlowProblem :=
  { flowsInto := (graph.inverse.map (·.toList)).toArray
    initial := (seeds.facts.map (·.ownWrites)).toArray
    domainSize := seeds.numbering.size }

def propagate (seeds : Seeds) (graph : CallGraph) (signal : StopSignal) :
    Except AuditError Reach :=
  match (seeds.flowProblem graph).solve signal with
  | .ok solution => .ok ⟨seeds.numbering, seeds.facts, solution⟩
  | .error stopped => .error (.stopped stopped.steps)

end Seeds

namespace Reach

def domainSize (reach : Reach) : Nat :=
  reach.numbering.size

def steps (reach : Reach) : Nat :=
  reach.solution.steps

/-- The instructions whose numbers a vector holds. -/
def instructions (reach : Reach) (bits : BitVector) :
    SortedSet InstructionRef :=
  SortedSet.ofList (bits.toList.filterMap reach.numbering.object?)

/-- The unguarded writes of a procedure itself. -/
def ownWrites (reach : Reach) (id : ProcedureId) : SortedSet InstructionRef :=
  match reach.facts[id]? with
  | some facts => reach.instructions facts.ownWrites
  | none => ∅

/-- The unguarded writes that a procedure may perform. -/
def writes (reach : Reach) (id : ProcedureId) : SortedSet InstructionRef :=
  match reach.solution.value? id with
  | some bits => reach.instructions bits
  | none => ∅

def trustedBlocks (reach : Reach) (id : ProcedureId) : List Block :=
  match reach.facts[id]? with
  | some facts => facts.trustedBlocks
  | none => []

end Reach

end LockAudit
