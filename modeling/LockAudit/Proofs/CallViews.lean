import LockAudit.Proofs.CallTables
import Mathlib.Data.Set.Card

/-!
# Views of the call graph

The callees of a procedure, the callers of a procedure, the targets of a call
site and the edges tell the same calls, although targets and callees are kept in
two tables and callers are found by turning one of these around.
-/

namespace LockAudit

theorem SortedSet.strictly_increasing (set : SortedSet Nat) :
    set.toList.Pairwise (· < ·) :=
  set.increasing.imp Nat.compare_eq_lt.mp

namespace Program

variable {program : Program}

theorem Accepted.mem_callTables_callees (accepted : program.Accepted)
    {caller callee : ProcedureId} :
    callee ∈ program.callTables.callees caller ↔
      program.Calls caller callee := by
  rw [accepted.callTables_callees_eq, SortedSet.mem_toList, mem_callees]

theorem Accepted.mem_callTables_targets (accepted : program.Accepted)
    {caller callee : ProcedureId} {site : SiteNumber} :
    callee ∈ program.callTables.targets caller site ↔
      program.CallsAt caller site callee := by
  rw [accepted.callTables_targets_eq, SortedSet.mem_toList, mem_targets]

theorem Accepted.lists_callTables_inverse (accepted : program.Accepted)
    {caller callee : ProcedureId} :
    Lists program.callTables.inverse callee caller ↔
      program.Calls caller callee := by
  rw [callTables_inverse_eq, lists_map_toList_iff, CallGraph.inverse,
    lists_map_range_iff, mem_callers, and_iff_right_iff_imp]
  exact accepted.callee_lt

/-- Edges are counted once each. -/
theorem size_edges (program : Program) :
    program.callGraph.edges.size =
      {edge : CallEdge | program.CallsAt edge.caller edge.site
        edge.callee}.ncard := by
  have members : {edge : CallEdge |
      program.CallsAt edge.caller edge.site edge.callee} =
      (program.callGraph.edges.toList.toFinset : Set CallEdge) := by
    ext edge
    simp [SortedSet.mem_toList, mem_edges]
  rw [members, Set.ncard_coe_finset,
    List.toFinset_card_of_nodup (SortedSet.nodup_toList _)]
  rfl

/-- The tables of calls are the views of the call graph, and these tell the same
calls.  A procedure is a callee of another exactly when the other is listed among
its callers, when some call site may invoke it and when there is an edge between
the two; and a call site may invoke what the entries for it list.  All views are
listed in strictly increasing order, there is a row of callers for every
procedure, every edge is counted once, and turning the callers around gives the
callees back. -/
theorem call_views_agree (program : Program) (accepted : program.Accepted) :
    ((∀ caller site, program.callTables.targets caller site =
        (program.callGraph.targets caller site).toList) ∧
      (∀ caller, program.callTables.callees caller =
        (program.callGraph.callees caller).toList) ∧
      program.callTables.edges = program.callGraph.edges ∧
      program.callTables.inverse =
        program.callGraph.inverse.map SortedSet.toList) ∧
    (∀ caller callee,
      (callee ∈ program.callTables.callees caller ↔
        Lists program.callTables.inverse callee caller) ∧
      (callee ∈ program.callTables.callees caller ↔
        ∃ site, callee ∈ program.callTables.targets caller site) ∧
      (callee ∈ program.callTables.callees caller ↔
        ∃ site, ⟨caller, site, callee⟩ ∈ program.callTables.edges)) ∧
    (∀ caller site callee,
      callee ∈ program.callTables.targets caller site ↔
        ∃ procedure, program.procedure? caller = some procedure ∧
          ∃ call ∈ procedure.calls, call.site = site ∧
            callee ∈ call.targets) ∧
    (∀ caller site,
      (program.callTables.targets caller site).Pairwise (· < ·)) ∧
    (∀ caller, (program.callTables.callees caller).Pairwise (· < ·)) ∧
    (∀ row ∈ program.callTables.inverse, row.Pairwise (· < ·)) ∧
    program.callTables.inverse.length = program.procedures.length ∧
    program.callTables.edges.size =
      {edge : CallEdge | program.CallsAt edge.caller edge.site
        edge.callee}.ncard ∧
    turned program.callTables.inverse =
      (List.range program.procedures.length).map
        program.callTables.callees := by
  refine ⟨⟨accepted.callTables_targets_eq, accepted.callTables_callees_eq,
    accepted.callTables_edges_eq, program.callTables_inverse_eq⟩, ?_,
    fun _ _ _ => accepted.mem_callTables_targets, ?_, ?_, ?_, ?_, ?_,
    program.turned_callTables_inverse⟩
  · intro caller callee
    rw [accepted.mem_callTables_callees, accepted.lists_callTables_inverse]
    refine ⟨Iff.rfl, ?_, ?_⟩
    · apply exists_congr
      intro site
      rw [accepted.mem_callTables_targets]
    · apply exists_congr
      intro site
      rw [CallTables.mem_edges_iff, accepted.mem_callTables_targets]
  · intro caller site
    rw [accepted.callTables_targets_eq]
    exact SortedSet.strictly_increasing _
  · intro caller
    rw [accepted.callTables_callees_eq]
    exact SortedSet.strictly_increasing _
  · intro row member
    rw [callTables_inverse_eq] at member
    obtain ⟨callers, _, same⟩ := List.mem_map.mp member
    exact same ▸ callers.strictly_increasing
  · simp [callTables_inverse_eq, CallGraph.inverse]
  · rw [accepted.callTables_edges_eq, size_edges]

/-- A method that calls itself and another one, listing one call site twice and
a target twice. -/
def recursiveCounter : Program where
  classes := [{ name := "Counter" }]
  procedures :=
    [{ className := "Counter"
       name := "add"
       descriptor := "()V"
       calls := [⟨4, [1, 0, 1]⟩, ⟨2, [1]⟩, ⟨4, [0]⟩] },
     { className := "Counter", name := "put", descriptor := "()V" }]

theorem recursiveCounter_views :
    recursiveCounter.Accepted ∧
      recursiveCounter.callTables.targets 0 4 = [0, 1] ∧
      (1 ∈ recursiveCounter.callTables.callees 0 ↔
        Lists recursiveCounter.callTables.inverse 1 0) ∧
      recursiveCounter.callTables.inverse = [[0], [0]] ∧
      recursiveCounter.callTables.edges.size = 3 ∧
      turned recursiveCounter.callTables.inverse = [[0, 1], []] := by
  have accepted : recursiveCounter.Accepted := by decide +kernel
  obtain ⟨⟨targets, callees, edges, inverse⟩, views, _, _, _, _, _, _, back⟩ :=
    call_views_agree recursiveCounter accepted
  have rows : (List.range recursiveCounter.procedures.length).map
      recursiveCounter.callTables.callees = [[0, 1], []] := by
    rw [funext callees]
    decide +kernel
  exact ⟨accepted, (targets 0 4).trans (by decide +kernel), (views 0 1).1,
    inverse.trans (by decide +kernel), edges ▸ by decide +kernel,
    back.trans rows⟩

end Program

end LockAudit
