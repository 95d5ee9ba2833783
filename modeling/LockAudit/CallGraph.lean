import LockAudit.Program.Basic
import LockAudit.SortedSet

/-!
# Call graphs

A call graph is the set of its edges.  Possible targets, callees and callers
are views of that set.
-/

namespace LockAudit

/-- A call from a procedure, at one of its call sites, to a procedure. -/
structure CallEdge where
  caller : ProcedureId
  site : SiteNumber
  callee : ProcedureId
  deriving DecidableEq, Repr

namespace CallEdge

/-- Edges are ordered by caller, then by site, then by callee. -/
def order : CallEdge → CallEdge → Ordering :=
  compareLex (compareOn caller) (compareLex (compareOn site) (compareOn callee))

instance : Ord CallEdge :=
  ⟨order⟩

instance : Std.TransOrd CallEdge :=
  inferInstanceAs (Std.TransCmp
    (compareLex (compareOn caller)
      (compareLex (compareOn site) (compareOn callee))))

instance : Std.LawfulEqOrd CallEdge where
  compare_self := Std.ReflCmp.compare_self
  eq_of_compare := by
    intro left right same
    have parts : order left right = .eq := same
    simp only [order, compareLex_eq_eq, compareOn] at parts
    obtain ⟨callers, sites, callees⟩ := parts
    cases left
    cases right
    simp only [CallEdge.mk.injEq]
    exact ⟨Std.LawfulEqOrd.eq_of_compare callers,
      Std.LawfulEqOrd.eq_of_compare sites,
      Std.LawfulEqOrd.eq_of_compare callees⟩

end CallEdge

structure CallGraph where
  nodeCount : Nat
  edges : SortedSet CallEdge
  deriving DecidableEq

/-- The edges of one procedure, with repetitions. -/
def Procedure.edges (procedure : Procedure) (id : ProcedureId) :
    List CallEdge :=
  procedure.calls.flatMap fun call =>
    call.targets.map fun target => ⟨id, call.site, target⟩

def Program.callGraph (program : Program) : CallGraph :=
  { nodeCount := program.procedures.length
    edges := SortedSet.ofList
      (program.procedures.zipIdx.flatMap fun (procedure, id) =>
        procedure.edges id) }

namespace CallGraph

/-- The procedures that a call site may invoke. -/
def targets (graph : CallGraph) (caller : ProcedureId) (site : SiteNumber) :
    SortedSet ProcedureId :=
  let edges := graph.edges.filter fun edge =>
    edge.caller = caller ∧ edge.site = site
  SortedSet.ofList (edges.toList.map (·.callee))

/-- The procedures that any call site of a procedure may invoke. -/
def callees (graph : CallGraph) (caller : ProcedureId) :
    SortedSet ProcedureId :=
  let edges := graph.edges.filter (·.caller = caller)
  SortedSet.ofList (edges.toList.map (·.callee))

/-- The procedures that may invoke a procedure. -/
def callers (graph : CallGraph) (callee : ProcedureId) :
    SortedSet ProcedureId :=
  let edges := graph.edges.filter (·.callee = callee)
  SortedSet.ofList (edges.toList.map (·.caller))

/-- The callers of every procedure. -/
def inverse (graph : CallGraph) : List (SortedSet ProcedureId) :=
  (List.range graph.nodeCount).map graph.callers

end CallGraph

end LockAudit
