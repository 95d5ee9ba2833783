import LockAudit.Dataflow.BitVector
import LockAudit.Dataflow.StopSignal

/-!
# Least fixpoints on flow graphs

Every node of a directed graph starts with a set of facts, and facts flow along
the edges.  The solver visits nodes from a queue: it adds the value of a node
to the nodes that it flows into, and queues those that grew.  When the queue is
empty nothing can flow any more.
-/

namespace LockAudit

structure FlowProblem where
  /-- For every node, the nodes that take up its value. -/
  flowsInto : Array (List Nat)
  initial : Array BitVector
  /-- Facts are numbers below this one. -/
  domainSize : Nat
  deriving DecidableEq, Repr

structure FlowSolution where
  values : Array BitVector
  /-- The number of nodes visited. -/
  steps : Nat
  deriving DecidableEq, Repr

/-- The values so far, and the nodes to visit, the next one first. -/
structure FlowState where
  values : Array BitVector
  queue : List Nat
  deriving DecidableEq, Repr

namespace FlowState

def enqueue (queue : List Nat) (node : Nat) : List Nat :=
  if node ∈ queue then queue else queue ++ [node]

/-- Lets a value flow from a node into a dependent one. -/
def flow (node : Nat) (source : BitVector) (state : FlowState)
    (dependent : Nat) : FlowState :=
  if dependent = node then state
  else
    match state.values[dependent]? with
    | none => state
    | some value =>
        if value.lacks source then
          ⟨state.values.setIfInBounds dependent (value ∪ source),
            enqueue state.queue dependent⟩
        else state

end FlowState

namespace FlowProblem

def nodeCount (problem : FlowProblem) : Nat :=
  problem.initial.size

def start (problem : FlowProblem) : FlowState :=
  ⟨problem.initial, List.range problem.nodeCount⟩

/-- Lets the value of a node flow into all nodes that take it up. -/
def visit (problem : FlowProblem) (node : Nat) (state : FlowState) :
    FlowState :=
  let source := state.values[node]?.getD ∅
  (problem.flowsInto[node]?.getD []).foldl (FlowState.flow node source) state

/-- Visits nodes until the queue is empty, at most `fuel` of them.  The signal
is looked at on every visit, after the visit has been counted. -/
def run (problem : FlowProblem) (signal : StopSignal) :
    (fuel : Nat) → (steps : Nat) → FlowState → Except Stopped FlowSolution
  | 0, steps, state => .ok ⟨state.values, steps⟩
  | fuel + 1, steps, state =>
      match state.queue with
      | [] => .ok ⟨state.values, steps⟩
      | node :: queue => do
          signal.check (steps + 1)
          problem.run signal fuel (steps + 1)
            (problem.visit node { state with queue })

/-- One more than the greatest fact that any node starts with. -/
def factBound (problem : FlowProblem) : Nat :=
  problem.initial.foldl (fun bound vector => max bound vector.bound) 0

/-- Every node is visited once and then once for each time it grew, and it
grows at most once a fact. -/
def stepBound (problem : FlowProblem) : Nat :=
  problem.nodeCount * (1 + problem.factBound)

def solve (problem : FlowProblem) (signal : StopSignal) :
    Except Stopped FlowSolution :=
  problem.run signal problem.stepBound 0 problem.start

end FlowProblem

/-- The value of a node. -/
def FlowSolution.value? (solution : FlowSolution) (node : Nat) :
    Option BitVector :=
  solution.values[node]?

end LockAudit
