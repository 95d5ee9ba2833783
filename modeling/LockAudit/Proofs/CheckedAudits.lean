import LockAudit.Proofs.BlockRanges
import LockAudit.Proofs.RepeatedSeeding
import LockAudit.Proofs.ReportedRegions

/-!
# Audits stay in range

Where a table has no entry, an audit goes on with an empty one.  The solver is
given here once more without such entries: it has no result when it meets an
index that is out of range, a fact that is outside the domain, or the end of its
fuel before that of its queue.  For an accepted program it always has a result,
which is that of the solver.  Nor do the other steps of an audit meet an index
that is out of range, so that no write gets lost on the way.
-/

namespace LockAudit

namespace FlowState

/-- As `flow`, into a node that must have a value. -/
def checkedFlow (node : Nat) (source : BitVector) (state : FlowState)
    (dependent : Nat) : Option FlowState :=
  if dependent = node ∨ dependent < state.values.size then
    some (flow node source state dependent)
  else none

theorem foldlM_checkedFlow (node : Nat) (source : BitVector)
    {dependents : List Nat} {state : FlowState}
    (inRange : ∀ dependent ∈ dependents, dependent < state.values.size) :
    dependents.foldlM (checkedFlow node source) state =
      some (dependents.foldl (flow node source) state) := by
  induction dependents generalizing state with
  | nil => rfl
  | cons dependent dependents induction =>
      have here := inRange dependent List.mem_cons_self
      have checked : checkedFlow node source state dependent =
          some (flow node source state dependent) := if_pos (.inr here)
      rw [List.foldlM_cons, checked]
      apply induction
      intro other listed
      rw [(flow_absorbs node source state dependent).size]
      exact inRange other (List.mem_cons_of_mem dependent listed)

end FlowState

namespace FlowProblem

/-- The vectors hold no fact that is outside the domain. -/
def withinDomain (problem : FlowProblem) (vectors : Array BitVector) : Bool :=
  vectors.all fun vector => vector.bound ≤ problem.domainSize

/-- As `visit`, of a node that must have a value and a list of edges. -/
def checkedVisit (problem : FlowProblem) (node : Nat) (state : FlowState) :
    Option FlowState := do
  let source ← state.values[node]?
  let dependents ← problem.flowsInto[node]?
  dependents.foldlM (FlowState.checkedFlow node source) state

/-- The result of a run that has nothing more to visit. -/
def checkedEnd (problem : FlowProblem) (steps : Nat) (state : FlowState) :
    Option (Except Stopped FlowSolution) :=
  if state.queue = [] ∧ problem.withinDomain state.values = true then
    some (.ok ⟨state.values, steps⟩)
  else none

def checkedRun (problem : FlowProblem) (signal : StopSignal) :
    (fuel : Nat) → (steps : Nat) → FlowState →
      Option (Except Stopped FlowSolution)
  | 0, steps, state => problem.checkedEnd steps state
  | fuel + 1, steps, state =>
      match state.queue with
      | [] => problem.checkedEnd steps state
      | node :: queue =>
          if node < problem.nodeCount then
            match signal.check (steps + 1) with
            | .error stopped => some (.error stopped)
            | .ok () => do
                let visited ← problem.checkedVisit node { state with queue }
                problem.checkedRun signal fuel (steps + 1) visited
          else none

def checkedSolve (problem : FlowProblem) (signal : StopSignal) :
    Option (Except Stopped FlowSolution) :=
  if problem.flowsInto.size = problem.initial.size ∧
      problem.withinDomain problem.initial = true then
    problem.checkedRun signal problem.stepBound 0 problem.start
  else none

section Checks

variable {problem : FlowProblem} {state : FlowState} {node made : Nat}

theorem withinDomain_iff {vectors : Array BitVector} :
    problem.withinDomain vectors = true ↔
      ∀ vector ∈ vectors, vector.bound ≤ problem.domainSize := by
  simp only [withinDomain, Array.all_eq_true_iff_forall_mem,
    decide_eq_true_eq]

theorem WellFormed.checkedVisit_eq (wellFormed : problem.WellFormed)
    (sameSize : state.values.size = problem.nodeCount)
    (inRange : node < problem.nodeCount) :
    problem.checkedVisit node state = some (problem.visit node state) := by
  have held : state.values[node]? = some (state.value node) := by
    rw [← sameSize] at inRange
    rw [FlowState.value, Array.getElem?_eq_getElem inRange]
    rfl
  have edges : problem.flowsInto[node]? =
      some (problem.flowsInto[node]?.getD []) := by
    have listed : node < problem.flowsInto.size :=
      wellFormed.sameSize ▸ inRange
    rw [Array.getElem?_eq_getElem listed]
    rfl
  rw [checkedVisit, held, edges]
  apply FlowState.foldlM_checkedFlow
  intro dependent flows
  rw [sameSize]
  exact wellFormed.target_lt flows

/-- A visit queues only nodes that there are. -/
theorem Underway.lt_of_queued {rest : List Nat}
    (underway : problem.Underway made state)
    (inRange : ∀ other ∈ rest, other < problem.nodeCount) {other : Nat}
    (queued : other ∈
      (problem.visit node { state with queue := rest }).queue) :
    other < problem.nodeCount := by
  have absorbed := problem.visit_absorbs node { state with queue := rest }
  rcases (absorbed.queued other).mp queued with waiting | ⟨bit, held, _⟩
  · exact inRange other waiting
  · rw [← underway.size, ← absorbed.size]
    exact FlowState.lt_size_of_holds held

section Bounded

variable (bounded : ∀ vector ∈ problem.initial,
  vector.bound ≤ problem.domainSize)

include bounded

theorem Underway.withinDomain (underway : problem.Underway made state) :
    problem.withinDomain state.values = true := by
  rw [withinDomain_iff]
  intro vector listed
  obtain ⟨node, found⟩ := Array.mem_iff_getElem?.mp listed
  apply BitVector.bound_le_of_forall_lt
  intro bit held
  have holds : state.Holds node bit := by
    rw [FlowState.Holds, FlowState.value, found]
    exact held
  exact (underway.sound node bit holds).lt_of_bounded bounded

theorem Underway.checkedEnd_eq (underway : problem.Underway made state)
    (empty : state.queue = []) (steps : Nat) :
    problem.checkedEnd steps state = some (.ok ⟨state.values, steps⟩) :=
  if_pos ⟨empty, underway.withinDomain bounded⟩

/-- The fuel is counted against the visits that are made, so that it lasts as
long as there is something to visit. -/
theorem Underway.checkedRun_eq (wellFormed : problem.WellFormed)
    (signal : StopSignal) {fuel : Nat} (steps : Nat)
    (underway : problem.Underway made state)
    (inRange : ∀ node ∈ state.queue, node < problem.nodeCount)
    (enough : made + fuel = problem.stepBound) :
    problem.checkedRun signal fuel steps state =
      some (problem.run signal fuel steps state) := by
  induction fuel generalizing made steps state with
  | zero =>
      have spent : problem.Underway problem.stepBound state :=
        enough ▸ underway
      exact underway.checkedEnd_eq bounded spent.queue_eq_nil steps
  | succ fuel induction =>
      obtain ⟨values, queue⟩ := state
      cases queue with
      | nil => exact underway.checkedEnd_eq bounded rfl steps
      | cons node queue =>
          have here := inRange node List.mem_cons_self
          have waiting : ∀ other ∈ queue, other < problem.nodeCount :=
            fun other listed => inRange other (List.mem_cons_of_mem node listed)
          have visited : problem.checkedVisit node ⟨values, queue⟩ =
              some (problem.visit node ⟨values, queue⟩) :=
            wellFormed.checkedVisit_eq underway.size here
          have later := induction (steps + 1)
            (underway.visit wellFormed (.refl (node :: queue)))
            (fun _ => underway.lt_of_queued waiting) (by omega)
          simp only [checkedRun, run, if_pos here, visited]
          cases signal.check (steps + 1) with
          | error stopped => rfl
          | ok checked => exact later

/-- No check of the solver fails, whatever the signal. -/
theorem checkedSolve_eq (wellFormed : problem.WellFormed)
    (signal : StopSignal) :
    problem.checkedSolve signal = some (problem.solve signal) := by
  rw [checkedSolve, if_pos ⟨wellFormed.sameSize, withinDomain_iff.mpr bounded⟩]
  apply problem.underway_start.checkedRun_eq bounded wellFormed
  · exact fun _ => List.mem_range.mp
  · exact Nat.zero_add _

end Bounded

end Checks

end FlowProblem

theorem SortedSet.size_ofList {α : Type} [Ord α] [Std.TransOrd α]
    [Std.LawfulEqOrd α] {items : List α} (distinct : items.Nodup) :
    (SortedSet.ofList items).size = items.length := by
  apply List.Perm.length_eq
  rw [List.perm_ext_iff_of_nodup (nodup_toList _) distinct]
  intro item
  exact mem_ofList

/-- A vector of numbers that are all given stands for as many objects. -/
theorem Numbering.size_decode {numbering : Numbering InstructionRef}
    (distinct : numbering.objects.Nodup) {bits : BitVector}
    (inRange : ∀ number, bits.get number = true → number < numbering.size) :
    (numbering.decode bits).size = bits.size := by
  have back : (bits.toList.filterMap numbering.object?).filterMap
      numbering.number? = bits.toList := by
    calc
      _ = bits.toList.filterMap fun number =>
          (numbering.object? number).bind numbering.number? :=
        List.filterMap_filterMap
      _ = bits.toList.filterMap some := by
        apply List.filterMap_congr
        intro number listed
        have below := inRange number (BitVector.mem_toList.mp listed)
        have denotes : numbering.object? number = some _ :=
          List.getElem?_eq_getElem below
        rw [denotes]
        exact number?_of_object? distinct denotes
      _ = bits.toList := List.filterMap_some
  have apart : (bits.toList.filterMap numbering.object?).Nodup := by
    apply List.Nodup.filterMap
    · intro number other object denotes alsoDenotes
      have numbered := number?_of_object? distinct denotes
      have alsoNumbered := number?_of_object? distinct alsoDenotes
      exact Option.some.inj (numbered.symm.trans alsoNumbered)
    · exact bits.toList_increasing.imp Nat.ne_of_lt
  rw [decode, SortedSet.size_ofList apart, ← BitVector.length_toList]
  apply Nat.le_antisymm
  · exact List.length_filterMap_le _ _
  · calc
      bits.toList.length = _ := congrArg List.length back.symm
      _ ≤ _ := List.length_filterMap_le _ _

namespace Program

section Writes

variable {program : Program} {seeds : Seeds}

theorem bound_initial_le (seeded : program.scope.seed = .ok seeds)
    (graph : CallGraph) :
    ∀ vector ∈ (seeds.flowProblem graph).initial,
      vector.bound ≤ (seeds.flowProblem graph).domainSize := by
  intro vector listed
  obtain ⟨facts, recorded, rfl⟩ :=
    List.mem_map.mp (List.mem_toArray.mp listed)
  apply BitVector.bound_le_of_forall_lt
  intro number held
  exact (lt_size_iff_recorded seeded).mpr ⟨facts, recorded, held⟩

theorem Accepted.checkedSolve_eq (accepted : program.Accepted)
    (seeded : program.scope.seed = .ok seeds) (signal : StopSignal) :
    (seeds.flowProblem program.callGraph).checkedSolve signal =
      some ((seeds.flowProblem program.callGraph).solve signal) :=
  FlowProblem.checkedSolve_eq (bound_initial_le seeded _)
    (Seeds.flowProblem_wellFormed (accepted.seed_ok seeded).1) signal

variable {signal : StopSignal} {reach : Reach}

/-- Every procedure has its vector of numbers, and all of them are given. -/
theorem Accepted.exists_value (accepted : program.Accepted)
    (seeded : program.scope.seed = .ok seeds)
    (propagated : seeds.propagate program.callGraph signal = .ok reach)
    {id : ProcedureId} (inRange : id < program.procedures.length) :
    ∃ bits, reach.solution.value? id = some bits ∧
      ∀ number, bits.get number = true → number < reach.domainSize := by
  obtain ⟨solution, solved, rfl⟩ := Seeds.propagate_eq_ok_iff.mp propagated
  have sameLength := (accepted.seed_ok seeded).1
  have wellFormed := Seeds.flowProblem_wellFormed sameLength
  obtain ⟨final, underway, _, values⟩ :=
    FlowProblem.exists_final_of_solve_ok wellFormed solved
  have listed : id < solution.values.size := by
    rw [values, underway.size]
    simpa [FlowProblem.nodeCount, Seeds.flowProblem, sameLength] using inRange
  have found : solution.value? id = some solution.values[id] :=
    Array.getElem?_eq_getElem listed
  refine ⟨_, found, ?_⟩
  intro number held
  have holds : solution.Holds id number := ⟨_, found, held⟩
  have reaches := (FlowProblem.holds_iff_reaches wellFormed solved).mp holds
  exact reaches.lt_of_bounded (bound_initial_le seeded _)

/-- No number of a vector is lost when it is read as instructions. -/
theorem size_instructions (seeded : program.scope.seed = .ok seeds)
    (propagated : seeds.propagate program.callGraph signal = .ok reach)
    {bits : BitVector}
    (inRange : ∀ number, bits.get number = true →
      number < reach.domainSize) :
    (reach.instructions bits).size = bits.size := by
  obtain ⟨_, _, rfl⟩ := Seeds.propagate_eq_ok_iff.mp propagated
  exact Numbering.size_decode (distinct_of_seed seeded) inRange

theorem Accepted.size_ownWrites (accepted : program.Accepted)
    (seeded : program.scope.seed = .ok seeds)
    (propagated : seeds.propagate program.callGraph signal = .ok reach)
    {id : ProcedureId} (inRange : id < program.procedures.length) :
    ∃ facts, reach.facts[id]? = some facts ∧
      (reach.ownWrites id).size = facts.ownWrites.size := by
  obtain ⟨_, _, rfl⟩ := Seeds.propagate_eq_ok_iff.mp propagated
  obtain ⟨facts, listed, _⟩ :=
    (accepted.seed_ok seeded).2 id _ (List.getElem?_eq_getElem inRange)
  refine ⟨facts, listed, ?_⟩
  simp only [Reach.ownWrites, listed]
  apply size_instructions seeded propagated
  intro number held
  exact (lt_size_iff_recorded seeded).mpr
    ⟨facts, List.mem_of_getElem? listed, held⟩

end Writes

end Program

/-- The call site that an instruction invokes outside trusted blocks. -/
def Survey.openSite? (survey : Survey) (id : ProcedureId)
    (numbered : Instruction × Nat) : Option SiteNumber :=
  match numbered.1.operation with
  | .invoke site =>
      if isProtected (survey.reach.trustedBlocks id) ⟨id, numbered.2⟩ then none
      else some site
  | _ => none

/-- The instructions that are looked at are those which the block contains. -/
theorem Survey.openSites_eq_filter {survey : Survey} {block : Block}
    {procedure : Procedure}
    (found : survey.scope.program.procedure? block.procedure = some procedure)
    (ordered : block.enter.index ≤ block.last) :
    survey.openSites block =
      (procedure.code.zipIdx.filter fun numbered =>
        block.contains ⟨block.procedure, numbered.2⟩).filterMap
          (survey.openSite? block.procedure) := by
  rw [← Block.window_eq_filter ordered, openSites, found]
  rfl

namespace Program

/-- Calls of an accepted program lead from procedures to procedures, blocks lie
in the code of their procedures and are looked at as a whole, and the facts of
every procedure are recorded.  No check of the solver fails, whatever the
signal.  The numbers that it gives to a procedure are all those of
instructions, and there are as many instructions as numbers. -/
theorem audit_stays_in_range (program : Program)
    (accepted : program.Accepted) (signal : StopSignal) :
    program.callGraph.inverse.length = program.procedures.length ∧
    (∀ edge ∈ program.callGraph.edges,
      edge.caller < program.procedures.length ∧
        edge.callee < program.procedures.length) ∧
    (∀ id procedure block, program.procedure? id = some procedure →
      (block ∈ program.scope.trustedBlocks id procedure ∨
        block ∈ program.scope.exposedBlocks id procedure) →
      block.enter.index ≤ block.last ∧
      block.enter.index + (block.last - block.enter.index + 1) ≤
        procedure.code.length ∧
      ∀ reach, (program.survey reach).openSites block =
        (procedure.code.zipIdx.filter fun numbered =>
          block.contains ⟨id, numbered.2⟩).filterMap
            ((program.survey reach).openSite? id)) ∧
    ∀ seeds, program.scope.seed = .ok seeds →
      seeds.facts.length = program.procedures.length ∧
      (seeds.flowProblem program.callGraph).checkedSolve signal =
        some ((seeds.flowProblem program.callGraph).solve signal) ∧
      ∀ reach, seeds.propagate program.callGraph signal = .ok reach →
        ∀ id < program.procedures.length, ∃ bits facts,
          reach.solution.value? id = some bits ∧
          reach.facts[id]? = some facts ∧
          (∀ number, bits.get number = true →
            number < reach.domainSize ∧
              ∃ place ∈ reach.writes id,
                reach.numbering.object? number = some place) ∧
          (reach.writes id).size = bits.size ∧
          (reach.ownWrites id).size = facts.ownWrites.size := by
  refine ⟨by simp [CallGraph.inverse], ?_, ?_, ?_⟩
  · intro edge listed
    have calls : program.Calls edge.caller edge.callee :=
      ⟨edge.site, mem_edges.mp listed⟩
    exact ⟨calls.caller_lt, accepted.callee_lt calls⟩
  · intro id procedure block found labelled
    obtain ⟨_, listed⟩ : ∃ test, block ∈ procedure.blocks id test :=
      labelled.elim (⟨_, ·⟩) (⟨_, ·⟩)
    obtain ⟨rfl, ordered, ends⟩ := Procedure.range_of_mem_blocks listed
    refine ⟨ordered, by omega, ?_⟩
    intro reach
    exact Survey.openSites_eq_filter found ordered
  · intro seeds seeded
    refine ⟨(accepted.seed_ok seeded).1,
      accepted.checkedSolve_eq seeded signal, ?_⟩
    intro reach propagated id inRange
    obtain ⟨bits, found, below⟩ :=
      accepted.exists_value seeded propagated inRange
    obtain ⟨facts, listed, own⟩ :=
      accepted.size_ownWrites seeded propagated inRange
    have writes : reach.writes id = reach.instructions bits := by
      simp only [Reach.writes, found]
    refine ⟨bits, facts, found, listed, ?_, ?_, own⟩
    · intro number held
      have denotes : reach.numbering.object? number = some _ :=
        List.getElem?_eq_getElem (below number held)
      refine ⟨below number held, _, ?_, denotes⟩
      rw [writes, Reach.mem_instructions]
      exact ⟨number, held, denotes⟩
    · rw [writes]
      exact size_instructions seeded propagated below

/-- Two methods that call each other, one of which also calls itself and has a
block that is never closed. -/
def circularCounter : Program where
  classes :=
    [{ name := "Counter"
       fields :=
        [{ name := "total", isStatic := true },
          { name := "last", isStatic := true }] }]
  procedures :=
    [{ className := "Counter"
       name := "add"
       descriptor := "()V"
       body := some
        [⟨none, .fieldWrite ⟨"Counter", "total"⟩ none⟩,
          ⟨some 4, .monitorEnter 2⟩, ⟨none, .invoke 3⟩]
       calls := [⟨3, [1, 0]⟩] },
     { className := "Counter"
       name := "store"
       descriptor := "()V"
       body := some
        [⟨none, .fieldWrite ⟨"Counter", "last"⟩ none⟩, ⟨none, .invoke 0⟩]
       calls := [⟨0, [0]⟩] }]

theorem circularCounter_in_range :
    circularCounter.Accepted ∧
      ∃ seeds reach bits,
        circularCounter.scope.seed = .ok seeds ∧
        (seeds.flowProblem circularCounter.callGraph).checkedSolve {} =
          some ((seeds.flowProblem circularCounter.callGraph).solve {}) ∧
        seeds.propagate circularCounter.callGraph {} = .ok reach ∧
        reach.solution.value? 0 = some bits ∧ bits.get 1 = true ∧
        1 < reach.domainSize ∧ (reach.writes 0).size = bits.size ∧
        (circularCounter.survey reach).openSites ⟨⟨0, 1⟩, 2⟩ = [3] := by
  have accepted : circularCounter.Accepted := by decide +kernel
  obtain ⟨_, _, blocks, solved⟩ :=
    audit_stays_in_range circularCounter accepted {}
  have computed :
      (circularCounter.scope.seed >>= fun seeds =>
        seeds.propagate circularCounter.callGraph {}).map
          (fun reach => (reach.solution.value? 0, reach.trustedBlocks 0)) =
        .ok (some (.ofList [0, 1]), []) := by decide +kernel
  obtain ⟨reach, reached, observed⟩ := map_eq_ok_iff.mp computed
  obtain ⟨seeds, seeded, propagated⟩ := bind_eq_ok_iff.mp reached
  obtain ⟨value, unguarded⟩ := Prod.mk.inj observed
  obtain ⟨_, checked, writes⟩ := solved seeds seeded
  obtain ⟨bits, _, found, _, numbers, size, _⟩ :=
    writes reach propagated 0 (by decide)
  cases found.symm.trans value
  have held : (BitVector.ofList [0, 1]).get 1 = true := by decide
  obtain ⟨_, _, looked⟩ :=
    blocks 0 _ ⟨⟨0, 1⟩, 2⟩ rfl (.inr (by decide +kernel))
  have sites : (circularCounter.survey reach).openSites ⟨⟨0, 1⟩, 2⟩ = [3] := by
    rw [looked reach]
    simp [Procedure.code, Block.contains, List.filterMap_cons,
      Survey.openSite?, isProtected, unguarded]
  exact ⟨accepted, seeds, reach, _, seeded, checked, propagated, found, held,
    (numbers 1 held).1, size, sites⟩

end Program

end LockAudit
