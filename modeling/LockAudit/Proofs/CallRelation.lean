import LockAudit.CallGraph
import LockAudit.Proofs.AcceptedPrograms

/-!
# Calls

The call graph of a program against the calls that its procedures list.
-/

namespace LockAudit

namespace Program

/-- The procedure lists the callee as a target of the call site. -/
def CallsAt (program : Program) (caller : ProcedureId) (site : SiteNumber)
    (callee : ProcedureId) : Prop :=
  ∃ procedure, program.procedure? caller = some procedure ∧
    ∃ call ∈ procedure.calls, call.site = site ∧ callee ∈ call.targets

def Calls (program : Program) (caller callee : ProcedureId) : Prop :=
  ∃ site, program.CallsAt caller site callee

@[simp] theorem nodeCount_callGraph (program : Program) :
    program.callGraph.nodeCount = program.procedures.length :=
  rfl

theorem mem_edges {program : Program} {edge : CallEdge} :
    edge ∈ program.callGraph.edges ↔
      program.CallsAt edge.caller edge.site edge.callee := by
  simp only [callGraph, SortedSet.mem_ofList, List.mem_flatMap,
    Procedure.edges, List.mem_map, Prod.exists,
    List.mem_zipIdx_iff_getElem?]
  constructor
  · intro member
    obtain ⟨procedure, id, found, call, listed, target, targeted,
      made⟩ := member
    subst made
    exact ⟨procedure, found, call, listed, rfl, targeted⟩
  · intro calls
    obtain ⟨procedure, found, call, listed, sameSite, targeted⟩ := calls
    refine ⟨procedure, edge.caller, found, call, listed, edge.callee,
      targeted, ?_⟩
    rw [sameSite]

theorem mem_targets {program : Program} {caller callee : ProcedureId}
    {site : SiteNumber} :
    callee ∈ program.callGraph.targets caller site ↔
      program.CallsAt caller site callee := by
  simp only [CallGraph.targets, SortedSet.mem_ofList, List.mem_map,
    SortedSet.mem_toList, SortedSet.mem_filter, mem_edges, decide_eq_true_eq]
  constructor
  · intro member
    obtain ⟨edge, ⟨calls, sameCaller, sameSite⟩, sameCallee⟩ := member
    subst sameCaller
    subst sameSite
    exact sameCallee ▸ calls
  · intro calls
    exact ⟨⟨caller, site, callee⟩, ⟨calls, rfl, rfl⟩, rfl⟩

theorem mem_callers {program : Program} {caller callee : ProcedureId} :
    caller ∈ program.callGraph.callers callee ↔
      program.Calls caller callee := by
  simp only [CallGraph.callers, SortedSet.mem_ofList, List.mem_map,
    SortedSet.mem_toList, SortedSet.mem_filter, mem_edges, decide_eq_true_eq]
  constructor
  · intro member
    obtain ⟨edge, ⟨calls, sameCallee⟩, sameCaller⟩ := member
    subst sameCaller
    subst sameCallee
    exact ⟨edge.site, calls⟩
  · intro calls
    obtain ⟨site, calls⟩ := calls
    exact ⟨⟨caller, site, callee⟩, ⟨calls, rfl⟩, rfl⟩

theorem mem_callees {program : Program} {caller callee : ProcedureId} :
    callee ∈ program.callGraph.callees caller ↔
      program.Calls caller callee := by
  simp only [CallGraph.callees, SortedSet.mem_ofList, List.mem_map,
    SortedSet.mem_toList, SortedSet.mem_filter, mem_edges, decide_eq_true_eq]
  constructor
  · intro member
    obtain ⟨edge, ⟨calls, sameCaller⟩, sameCallee⟩ := member
    subst sameCaller
    subst sameCallee
    exact ⟨edge.site, calls⟩
  · intro calls
    obtain ⟨site, calls⟩ := calls
    exact ⟨⟨caller, site, callee⟩, ⟨calls, rfl⟩, rfl⟩

/-- The call graph is determined by the calls that procedures list. -/
theorem callGraph_eq_of_callsAt {left right : Program}
    (count : right.procedures.length = left.procedures.length)
    (calls : ∀ caller site callee, right.CallsAt caller site callee ↔
      left.CallsAt caller site callee) :
    right.callGraph = left.callGraph := by
  have edges : right.callGraph.edges = left.callGraph.edges := by
    apply SortedSet.ext
    intro edge
    rw [mem_edges, mem_edges, calls]
  calc
    right.callGraph =
        ⟨right.procedures.length, right.callGraph.edges⟩ := rfl
    _ = ⟨left.procedures.length, left.callGraph.edges⟩ := by
      rw [count, edges]
    _ = left.callGraph := rfl

theorem Calls.caller_lt {program : Program} {caller callee : ProcedureId}
    (calls : program.Calls caller callee) :
    caller < program.procedures.length := by
  obtain ⟨_, procedure, found, _⟩ := calls
  exact (List.getElem?_eq_some_iff.mp found).1

theorem Accepted.callee_lt {program : Program} (accepted : program.Accepted)
    {caller callee : ProcedureId} (calls : program.Calls caller callee) :
    callee < program.procedures.length := by
  obtain ⟨_, procedure, found, call, listed, _, targeted⟩ := calls
  exact accepted.target_lt found listed targeted

end Program

end LockAudit
