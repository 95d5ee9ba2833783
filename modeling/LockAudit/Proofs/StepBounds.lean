import LockAudit.Proofs.QueueFlags
import LockAudit.Proofs.StoppedRuns

/-!
# How many visits a solve takes

Every node is visited at least once, and it is visited again only after it has
gained a fact.  So the number of visits is bounded by the facts that are gained,
and in the end by the size of the problem; a step limit beyond that stops
nothing.
-/

namespace LockAudit

open Finset

theorem BitVector.size_le_of_get {left right : BitVector}
    (contained : ∀ bit, left.get bit = true → right.get bit = true) :
    left.size ≤ right.size := by
  rw [← card_members, ← card_members]
  apply card_le_card
  intro bit held
  exact mem_members.mpr (contained bit (mem_members.mp held))

namespace FlowState

theorem le_length_enqueue (queue : List Nat) (node : Nat) :
    queue.length ≤ (enqueue queue node).length := by
  unfold enqueue
  split <;> simp

theorem length_queue_le_flow (node : Nat) (source : BitVector)
    (state : FlowState) (dependent : Nat) :
    state.queue.length ≤ (flow node source state dependent).queue.length := by
  unfold flow
  split
  · exact Nat.le_refl _
  · split
    · exact Nat.le_refl _
    · split
      · exact le_length_enqueue state.queue dependent
      · exact Nat.le_refl _

end FlowState

namespace FlowProblem

variable {problem : FlowProblem}

theorem length_queue_le_visit (problem : FlowProblem) (node : Nat)
    (state : FlowState) :
    state.queue.length ≤ (problem.visit node state).queue.length := by
  unfold visit
  generalize state.values[node]?.getD ∅ = source
  generalize problem.flowsInto[node]?.getD [] = dependents
  induction dependents generalizing state with
  | nil => exact Nat.le_refl _
  | cons dependent dependents induction =>
      exact Nat.le_trans
        (FlowState.length_queue_le_flow node source state dependent)
        (induction _)

/-- A visit takes one node out of the queue, so that all nodes that wait have
to be visited. -/
theorem Visits.length_queue_le {count : Nat} {state final : FlowState}
    (visits : problem.Visits count state final) :
    state.queue.length ≤ count + final.queue.length := by
  induction visits with
  | done state => omega
  | @next values node queue count final _ induction =>
      have kept := problem.length_queue_le_visit node ⟨values, queue⟩
      simp only [List.length_cons] at kept ⊢
      omega

/-- The number of facts that a solution gives to a node beyond those with which
the node starts. -/
def gained (problem : FlowProblem) (solution : FlowSolution) (node : Nat) :
    Nat :=
  ((solution.value? node).getD ∅).size - (problem.initial[node]?.getD ∅).size

section Gains

variable {count : Nat} {state : FlowState}
  (underway : problem.Underway count state)

include underway

theorem Underway.size_initial_le (node : Nat) :
    (problem.initial[node]?.getD ∅).size ≤ (state.value node).size :=
  BitVector.size_le_of_get (underway.keeps node)

theorem Underway.weight_eq :
    state.weight = problem.start.weight +
      ∑ node ∈ range problem.nodeCount,
        problem.gained ⟨state.values, count⟩ node := by
  calc
    state.weight =
        ∑ node ∈ range problem.nodeCount, (state.value node).size := by
      rw [FlowState.weight, underway.size]
    _ = ∑ node ∈ range problem.nodeCount,
        ((problem.initial[node]?.getD ∅).size +
          problem.gained ⟨state.values, count⟩ node) := by
      apply sum_congr rfl
      intro node _
      exact (Nat.add_sub_cancel' (underway.size_initial_le node)).symm
    _ = _ := sum_add_distrib

end Gains

/-- A solution whose visits are counted: every node is visited, and beyond that
there are no more visits than facts gained, of which there is one at most for
every node and fact. -/
structure CountsVisits (problem : FlowProblem) (solution : FlowSolution) :
    Prop where
  everyNode : problem.nodeCount ≤ solution.steps
  keepsFacts : ∀ node, (problem.initial[node]?.getD ∅).size ≤
    ((solution.value? node).getD ∅).size
  paidByGains : solution.steps ≤ problem.nodeCount +
    ∑ node ∈ range problem.nodeCount, problem.gained solution node
  bounded : problem.nodeCount +
      ∑ node ∈ range problem.nodeCount, problem.gained solution node ≤
    problem.nodeCount * (1 + problem.domainSize)

theorem Visits.countsVisits {count : Nat} {final : FlowState}
    (visits : problem.Visits count problem.start final)
    (wellFormed : problem.WellFormed) (empty : final.queue = [])
    (bounded : ∀ node bit, problem.Starts node bit →
      bit < problem.domainSize) :
    problem.CountsVisits ⟨final.values, count⟩ := by
  have underway : problem.Underway count final := by
    have later := visits.underway wellFormed problem.underway_start
    rwa [Nat.zero_add] at later
  have weight := underway.weight_eq
  have light : final.weight ≤ problem.nodeCount * problem.domainSize := by
    apply underway.weight_le_of_reaches_lt
    intro node bit reaches
    obtain ⟨source, _, starts⟩ := reaches
    exact bounded source bit starts
  constructor
  · have waited := visits.length_queue_le
    rw [empty, start, List.length_range] at waited
    exact waited
  · exact underway.size_initial_le
  · have paid := underway.paid
    rw [empty, List.length_nil] at paid
    change count ≤ _
    omega
  · rw [Nat.mul_add, Nat.mul_one]
    omega

/-- Under a signal that stops nothing a solve visits every node, and visits
nodes again at most as often as facts are gained, which is bounded by the nodes
and the facts that there are.  Every solve that is not stopped is this one, and
a step limit that is not below the bound does not stop it.  At every moment on
the way, in the middle of visits too, no node is queued twice, and a node is
queued exactly when its flag says so. -/
theorem visits_bounded_by_gains (problem : FlowProblem)
    (wellFormed : problem.WellFormed)
    (bounded : ∀ node bit, problem.Starts node bit →
      bit < problem.domainSize) :
    ∃ solution, problem.CountsVisits solution ∧
      (∀ signal : StopSignal, signal.Silent →
        problem.solve signal = .ok solution) ∧
      (∀ signal other, problem.solve signal = .ok other →
        other = solution) ∧
      (∀ limit, problem.nodeCount * (1 + problem.domainSize) ≤ limit →
        problem.solve ⟨false, some limit⟩ = .ok solution) ∧
      (∀ count state, problem.Visits count problem.start state →
        state.queue.Nodup) ∧
      (∀ moment, problem.Passes problem.startMoment moment →
        moment.queue.Nodup ∧ moment.Flagged) ∧
      ∃ moment, problem.Passes problem.startMoment moment ∧
        moment.visit = none ∧ moment.queue = [] ∧
        solution = ⟨moment.values, moment.steps⟩ := by
  obtain ⟨count, final, visits, _, empty, free⟩ :=
    solve_eq_ok_of_silent wellFormed StopSignal.silent_default
  have counts := visits.countsVisits wellFormed empty bounded
  refine ⟨⟨final.values, count⟩, counts, ?_, ?_, ?_, ?_, ?_, ?_⟩
  · intro signal silent
    exact run_eq_ok_of_ok silent free
  · intro signal other solved
    have same := run_eq_ok_of_ok StopSignal.silent_default solved
    exact Except.ok.inj (same.symm.trans free)
  · intro limit enough
    rw [solve_limit free, if_pos]
    exact counts.paidByGains.trans (counts.bounded.trans enough)
  · intro made state passed
    exact (passed.underway wellFormed problem.underway_start).distinct
  · intro moment passes
    have tracks := problem.tracks_start.passes passes
    exact ⟨tracks.distinct, tracks.flagged⟩
  · obtain ⟨moment, passes, idle, state, steps⟩ :=
      visits.exists_passes problem.tracks_start rfl rfl
    refine ⟨moment, passes, idle, ?_, ?_⟩
    · exact (congrArg FlowState.queue state).trans empty
    · rw [steps, ← state]
      simp [startMoment, FlowMoment.state]

theorem cyclicFlow_starts_lt (node bit : Nat)
    (starts : cyclicFlow.Starts node bit) : bit < cyclicFlow.domainSize := by
  have reaches : cyclicFlow.Reaches node bit := ⟨node, .refl, starts⟩
  apply reaches.lt_of_bounded
  decide

theorem cyclicFlow_visits_bounded :
    cyclicFlow.WellFormed ∧
      (∀ node bit, cyclicFlow.Starts node bit →
        bit < cyclicFlow.domainSize) ∧
      ∃ solution, cyclicFlow.solve {} = .ok solution ∧
        3 ≤ solution.steps ∧
        solution.steps ≤ 3 + ∑ node ∈ range 3,
          cyclicFlow.gained solution node ∧
        cyclicFlow.solve ⟨false, some 216⟩ = .ok solution := by
  refine ⟨cyclicFlow_wellFormed, cyclicFlow_starts_lt, ?_⟩
  obtain ⟨solution, counts, silent, _, limited, _⟩ :=
    visits_bounded_by_gains cyclicFlow cyclicFlow_wellFormed
      cyclicFlow_starts_lt
  exact ⟨solution, silent {} StopSignal.silent_default, counts.everyNode,
    counts.paidByGains, limited 216 (by decide)⟩

end FlowProblem

end LockAudit
