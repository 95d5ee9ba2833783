import LockAudit.Proofs.CallRelation
import LockAudit.Proofs.LeastSolution
import LockAudit.Proofs.SeededWrites
import LockAudit.Reach

/-!
# Reachable writes

Propagation gives a procedure the seeded writes of every procedure that it
calls, directly or not.  Numbers, vectors and the inverted call graph are gone
from the statements: they are about places, and about calls as they are listed.
-/

namespace LockAudit

namespace Program

/-- A seeded write of the procedure or of one that it calls, directly or
through others. -/
def Performs (program : Program) (id : ProcedureId) (place : InstructionRef) :
    Prop :=
  Relation.ReflTransGen program.Calls id place.procedure ∧
    program.Seeded place

/-- What an audit knows after propagation. -/
structure Knows (program : Program) (reach : Reach) : Prop where
  own : ∀ id place, place ∈ reach.ownWrites id ↔
    place.procedure = id ∧ program.Seeded place
  writes : ∀ id place, place ∈ reach.writes id ↔ program.Performs id place
  blocks : ∀ id procedure, program.procedure? id = some procedure →
    ¬program.OfPlatform procedure.className →
    ¬program.Guarded id procedure →
    reach.trustedBlocks id = program.scope.trustedBlocks id procedure

end Program

theorem Reach.mem_instructions {reach : Reach} {bits : BitVector}
    {place : InstructionRef} :
    place ∈ reach.instructions bits ↔
      ∃ number, bits.get number = true ∧
        reach.numbering.object? number = some place :=
  Numbering.mem_decode

theorem Reach.mem_writes {reach : Reach} {id : ProcedureId}
    {place : InstructionRef} :
    place ∈ reach.writes id ↔
      ∃ number, reach.solution.Holds id number ∧
        reach.numbering.object? number = some place := by
  unfold Reach.writes FlowSolution.Holds
  cases reach.solution.value? id with
  | none => simp
  | some bits => simp [Reach.mem_instructions]

section Flow

variable {program : Program} {seeds : Seeds}

theorem Seeds.flowProblem_wellFormed
    (sameLength : seeds.facts.length = program.procedures.length) :
    (seeds.flowProblem program.callGraph).WellFormed where
  sameSize := by
    simp [Seeds.flowProblem, CallGraph.inverse, sameLength]
  inRange := by
    intro targets listed target member
    simp only [Seeds.flowProblem, CallGraph.inverse, List.map_map,
      List.mem_toArray, List.mem_map, Function.comp] at listed
    obtain ⟨callee, _, rfl⟩ := listed
    have calls := Program.mem_callers.mp (SortedSet.mem_toList.mp member)
    simpa [FlowProblem.nodeCount, Seeds.flowProblem, sameLength] using
      calls.caller_lt

theorem Seeds.flows_iff (accepted : program.Accepted)
    {source target : ProcedureId} :
    (seeds.flowProblem program.callGraph).Flows source target ↔
      program.Calls target source := by
  rw [← Program.mem_callers]
  unfold FlowProblem.Flows
  by_cases inRange : source < program.procedures.length
  · simp [Seeds.flowProblem, CallGraph.inverse, inRange, SortedSet.mem_toList]
  · have nothing : target ∉ program.callGraph.callers source := by
      intro member
      exact inRange (accepted.callee_lt (Program.mem_callers.mp member))
    simp [Seeds.flowProblem, CallGraph.inverse, inRange, nothing]

theorem Seeds.starts_iff {graph : CallGraph} {node number : Nat} :
    (seeds.flowProblem graph).Starts node number ↔
      ∃ facts, seeds.facts[node]? = some facts ∧
        facts.ownWrites.get number = true := by
  unfold FlowProblem.Starts
  cases listed : seeds.facts[node]? with
  | none => simp [Seeds.flowProblem, listed]
  | some facts => simp [Seeds.flowProblem, listed]

end Flow

theorem Seeds.propagate_eq_ok_iff {seeds : Seeds} {graph : CallGraph}
    {signal : StopSignal} {reach : Reach} :
    seeds.propagate graph signal = .ok reach ↔
      ∃ solution, (seeds.flowProblem graph).solve signal = .ok solution ∧
        reach = ⟨seeds.numbering, seeds.facts, solution⟩ := by
  unfold Seeds.propagate
  cases (seeds.flowProblem graph).solve signal with
  | error stopped => simp
  | ok solution => simp [eq_comm]

namespace Program

variable {program : Program} {seeds : Seeds}

/-- A seeded write is told of by the facts about its procedure. -/
theorem Accepted.exists_facts (accepted : program.Accepted)
    (seeded : program.scope.seed = .ok seeds) {place : InstructionRef}
    (isSeeded : program.Seeded place) :
    ∃ facts, seeds.facts[place.procedure]? = some facts ∧
      program.Tells seeds.numbering place.procedure facts := by
  obtain ⟨procedure, operation, bare, _⟩ := isSeeded
  obtain ⟨facts, listed, _, tells⟩ :=
    (accepted.seed_ok seeded).2 place.procedure procedure bare.found
  exact ⟨facts, listed, tells⟩

/-- A number reaches a procedure when it is that of a write which the procedure
performs. -/
theorem Accepted.reaches_iff (accepted : program.Accepted)
    (seeded : program.scope.seed = .ok seeds) {id : ProcedureId}
    {number : Nat} :
    (seeds.flowProblem program.callGraph).Reaches id number ↔
      ∃ place, program.Performs id place ∧
        seeds.numbering.number? place = some number := by
  have flows : (seeds.flowProblem program.callGraph).Flows =
      Function.swap program.Calls := by
    funext source target
    exact propext (Seeds.flows_iff accepted)
  simp only [FlowProblem.Reaches, flows, Relation.reflTransGen_swap,
    Seeds.starts_iff]
  constructor
  · intro reaches
    obtain ⟨source, path, facts, listed, own⟩ := reaches
    have tells := accepted.tells_of_listed seeded listed
    obtain ⟨place, same, isSeeded, numbered⟩ := (tells.own number).mp own
    subst same
    exact ⟨place, ⟨path, isSeeded⟩, numbered⟩
  · intro performed
    obtain ⟨place, ⟨path, isSeeded⟩, numbered⟩ := performed
    obtain ⟨facts, listed, tells⟩ := accepted.exists_facts seeded isSeeded
    exact ⟨place.procedure, path, facts, listed,
      (tells.own number).mpr ⟨place, rfl, isSeeded, numbered⟩⟩

theorem Accepted.mem_ownWrites (accepted : program.Accepted)
    (seeded : program.scope.seed = .ok seeds) {solution : FlowSolution}
    {id : ProcedureId} {place : InstructionRef} :
    place ∈ Reach.ownWrites ⟨seeds.numbering, seeds.facts, solution⟩ id ↔
      place.procedure = id ∧ program.Seeded place := by
  constructor
  · intro member
    unfold Reach.ownWrites at member
    cases listed : seeds.facts[id]? with
    | none =>
        simp only [listed] at member
        exact (SortedSet.not_mem_empty place member).elim
    | some facts =>
        simp only [listed, Reach.mem_instructions] at member
        obtain ⟨number, own, denotes⟩ := member
        have tells := accepted.tells_of_listed seeded listed
        obtain ⟨other, same, isSeeded, numbered⟩ := (tells.own number).mp own
        cases (Numbering.object?_of_number? numbered).symm.trans denotes
        exact ⟨same, isSeeded⟩
  · intro own
    obtain ⟨same, isSeeded⟩ := own
    subst same
    obtain ⟨facts, listed, tells⟩ := accepted.exists_facts seeded isSeeded
    obtain ⟨number, numbered⟩ := tells.numbered place rfl isSeeded
    simp only [Reach.ownWrites, listed, Reach.mem_instructions]
    exact ⟨number, (tells.own number).mpr ⟨place, rfl, isSeeded, numbered⟩,
      Numbering.object?_of_number? numbered⟩

theorem Accepted.mem_writes (accepted : program.Accepted)
    (seeded : program.scope.seed = .ok seeds) {signal : StopSignal}
    {solution : FlowSolution}
    (solved : (seeds.flowProblem program.callGraph).solve signal =
      .ok solution)
    {id : ProcedureId} {place : InstructionRef} :
    place ∈ Reach.writes ⟨seeds.numbering, seeds.facts, solution⟩ id ↔
      program.Performs id place := by
  have wellFormed :=
    Seeds.flowProblem_wellFormed (accepted.seed_ok seeded).1
  rw [Reach.mem_writes]
  simp only [FlowProblem.holds_iff_reaches wellFormed solved,
    accepted.reaches_iff seeded]
  constructor
  · intro reached
    obtain ⟨number, ⟨other, performs, numbered⟩, denotes⟩ := reached
    cases (Numbering.object?_of_number? numbered).symm.trans denotes
    exact performs
  · intro performs
    obtain ⟨facts, _, tells⟩ := accepted.exists_facts seeded performs.2
    obtain ⟨number, numbered⟩ := tells.numbered place rfl performs.2
    exact ⟨number, ⟨place, performs, numbered⟩,
      Numbering.object?_of_number? numbered⟩

/-- Whatever the signal, what a propagation that succeeds knows is right. -/
theorem Accepted.knows (accepted : program.Accepted)
    (seeded : program.scope.seed = .ok seeds) {signal : StopSignal}
    {reach : Reach}
    (propagated : seeds.propagate program.callGraph signal = .ok reach) :
    program.Knows reach := by
  obtain ⟨solution, solved, rfl⟩ := Seeds.propagate_eq_ok_iff.mp propagated
  constructor
  · intro id place
    exact accepted.mem_ownWrites seeded
  · intro id place
    exact accepted.mem_writes seeded solved
  · intro id procedure found audited unguarded
    obtain ⟨facts, listed, records, _⟩ :=
      (accepted.seed_ok seeded).2 id procedure found
    simp only [Reach.trustedBlocks, listed]
    cases records with
    | skipped unseeded =>
        have isSeeded := accepted.isSeeded_iff.mpr ⟨audited, unguarded⟩
        simp [unseeded] at isSeeded
    | seeded => rfl

end Program

end LockAudit
