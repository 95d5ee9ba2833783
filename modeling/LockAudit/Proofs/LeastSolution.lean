import LockAudit.Proofs.FlowVisits
import LockAudit.Proofs.Outcomes
import Mathlib.Order.Bounds.Basic

/-!
# The least solution of a flow problem

The solver may make only so many visits.  Here the loop is also described
without that bound, as a relation; the bound is never what ends a solve, and a
solve that is not stopped gives every node exactly the facts that reach it.
-/

namespace LockAudit

open Finset

/-- The signal stops no step. -/
def StopSignal.Silent (signal : StopSignal) : Prop :=
  ∀ steps, signal.check steps = .ok ()

theorem StopSignal.silent_default : StopSignal.Silent {} :=
  fun _ => rfl

namespace FlowProblem

/-- The loop of the solver without its bound: so many visits, each of the node
at the head of the queue. -/
inductive Visits (problem : FlowProblem) :
    Nat → FlowState → FlowState → Prop where
  | done (state : FlowState) : Visits problem 0 state state
  | next {values : Array BitVector} {node : Nat} {queue : List Nat}
      {count : Nat} {final : FlowState} :
      Visits problem count (problem.visit node ⟨values, queue⟩) final →
      Visits problem (count + 1) ⟨values, node :: queue⟩ final

theorem Visits.underway {problem : FlowProblem}
    (wellFormed : problem.WellFormed) {made count : Nat}
    {state final : FlowState} (visits : problem.Visits count state final)
    (underway : problem.Underway made state) :
    problem.Underway (made + count) final := by
  induction visits generalizing made with
  | done state => exact underway
  | @next values node queue count final _ induction =>
      have visited := underway.visit wellFormed (.refl (node :: queue))
      have later := induction visited
      rwa [Nat.add_right_comm, Nat.add_assoc] at later

/-- A run that no check stops makes visits until the queue is empty or its fuel
is used up. -/
theorem run_eq_ok_of_silent (problem : FlowProblem) {signal : StopSignal}
    (silent : signal.Silent) (fuel steps : Nat) (state : FlowState) :
    ∃ count final, problem.Visits count state final ∧
      (final.queue = [] ∨ count = fuel) ∧
      problem.run signal fuel steps state =
        .ok ⟨final.values, steps + count⟩ := by
  induction fuel generalizing steps state with
  | zero => exact ⟨0, state, .done state, .inr rfl, rfl⟩
  | succ fuel induction =>
      obtain ⟨values, queue⟩ := state
      cases queue with
      | nil => exact ⟨0, _, .done _, .inl rfl, rfl⟩
      | cons node queue =>
          obtain ⟨count, final, visits, ended, result⟩ :=
            induction (steps + 1) (problem.visit node ⟨values, queue⟩)
          refine ⟨count + 1, final, .next visits, ?_, ?_⟩
          · rcases ended with empty | spent
            · exact .inl empty
            · exact .inr (congrArg (· + 1) spent)
          · rw [Nat.add_comm count 1, ← Nat.add_assoc]
            exact bind_eq_ok_iff.mpr ⟨(), silent (steps + 1), result⟩

/-- A run that succeeds is the run that no check stops. -/
theorem run_eq_ok_of_ok {problem : FlowProblem} {signal silentSignal : StopSignal}
    (silent : silentSignal.Silent) {fuel steps : Nat} {state : FlowState}
    {solution : FlowSolution}
    (success : problem.run signal fuel steps state = .ok solution) :
    problem.run silentSignal fuel steps state = .ok solution := by
  induction fuel generalizing steps state with
  | zero => exact success
  | succ fuel induction =>
      obtain ⟨values, queue⟩ := state
      cases queue with
      | nil => exact success
      | cons node queue =>
          obtain ⟨_, _, continued⟩ := bind_eq_ok_iff.mp success
          exact bind_eq_ok_iff.mpr
            ⟨(), silent (steps + 1), induction continued⟩

theorem le_foldl_max {bounds : List BitVector} {vector : BitVector}
    (least : Nat) (member : vector ∈ bounds ∨ vector.bound ≤ least) :
    vector.bound ≤
      bounds.foldl (fun bound vector => max bound vector.bound) least := by
  induction bounds generalizing least with
  | nil =>
      rcases member with listed | below
      · cases listed
      · exact below
  | cons head tail induction =>
      apply induction
      rcases member with listed | below
      · rcases List.mem_cons.mp listed with first | later
        · exact .inr (first ▸ Nat.le_max_right _ _)
        · exact .inl later
      · exact .inr (Nat.le_trans below (Nat.le_max_left _ _))

/-- No fact reaches a node that is beyond what nodes start with. -/
theorem Reaches.lt_of_bounded {problem : FlowProblem} {limit : Nat}
    (bounded : ∀ vector ∈ problem.initial, vector.bound ≤ limit)
    {node bit : Nat} (reaches : problem.Reaches node bit) : bit < limit := by
  obtain ⟨source, _, starts⟩ := reaches
  unfold Starts at starts
  cases listed : problem.initial[source]? with
  | none => simp [listed] at starts
  | some vector =>
      simp only [listed, Option.getD_some] at starts
      exact Nat.lt_of_lt_of_le (BitVector.lt_bound_of_get starts)
        (bounded vector (Array.mem_of_getElem? listed))

theorem Reaches.lt_factBound {problem : FlowProblem} {node bit : Nat}
    (reaches : problem.Reaches node bit) : bit < problem.factBound := by
  apply reaches.lt_of_bounded
  intro vector member
  unfold factBound
  rw [← Array.foldl_toList]
  exact le_foldl_max 0 (.inl member.val)

theorem Underway.weight_le_of_reaches_lt {problem : FlowProblem} {count : Nat}
    {state : FlowState} (underway : problem.Underway count state) {limit : Nat}
    (bounded : ∀ node bit, problem.Reaches node bit → bit < limit) :
    state.weight ≤ problem.nodeCount * limit := by
  calc
    state.weight ≤ ∑ _node ∈ range state.values.size, limit := by
      apply sum_le_sum
      intro node _
      apply BitVector.size_le_of_forall_lt
      intro bit held
      exact bounded node bit (underway.sound node bit held)
    _ = problem.nodeCount * limit := by
      rw [sum_const_nat (fun _ _ => rfl), card_range, underway.size]

theorem Underway.weight_le {problem : FlowProblem} {count : Nat}
    {state : FlowState} (underway : problem.Underway count state) :
    state.weight ≤ problem.nodeCount * problem.factBound :=
  underway.weight_le_of_reaches_lt fun _ _ => Reaches.lt_factBound

/-- As many visits as a solve may make leave nothing to visit. -/
theorem Underway.queue_eq_nil {problem : FlowProblem} {state : FlowState}
    (underway : problem.Underway problem.stepBound state) :
    state.queue = [] := by
  have paid := underway.paid
  have light := underway.weight_le
  have bound : problem.stepBound =
      problem.nodeCount + problem.nodeCount * problem.factBound := by
    rw [stepBound, Nat.mul_add, Nat.mul_one]
  apply List.eq_nil_of_length_eq_zero
  omega

/-- The state in which a solve ends that is not stopped. -/
theorem solve_eq_ok_of_silent {problem : FlowProblem}
    (wellFormed : problem.WellFormed) {signal : StopSignal}
    (silent : signal.Silent) :
    ∃ count final, problem.Visits count problem.start final ∧
      problem.Underway count final ∧ final.queue = [] ∧
      problem.solve signal = .ok ⟨final.values, count⟩ := by
  obtain ⟨count, final, visits, ended, result⟩ :=
    problem.run_eq_ok_of_silent silent problem.stepBound 0 problem.start
  have underway : problem.Underway count final := by
    have later := visits.underway wellFormed problem.underway_start
    rwa [Nat.zero_add] at later
  have empty : final.queue = [] := by
    rcases ended with empty | spent
    · exact empty
    · exact (spent ▸ underway).queue_eq_nil
  rw [Nat.zero_add] at result
  exact ⟨count, final, visits, underway, empty, result⟩

end FlowProblem

/-- The solution gives the fact to the node. -/
def FlowSolution.Holds (solution : FlowSolution) (node bit : Nat) : Prop :=
  ∃ value, solution.value? node = some value ∧ value.get bit = true

theorem FlowState.holds_iff_solution {state : FlowState} {steps node bit : Nat} :
    state.Holds node bit ↔
      FlowSolution.Holds ⟨state.values, steps⟩ node bit := by
  unfold FlowState.Holds FlowState.value FlowSolution.Holds FlowSolution.value?
  cases state.values[node]? with
  | none => simp
  | some value => simp

namespace FlowProblem

/-- The state in which a solve has ended that was not stopped. -/
theorem exists_final_of_solve_ok {problem : FlowProblem}
    (wellFormed : problem.WellFormed) {signal : StopSignal}
    {solution : FlowSolution}
    (solved : problem.solve signal = .ok solution) :
    ∃ final, problem.Underway solution.steps final ∧ final.queue = [] ∧
      solution.values = final.values := by
  obtain ⟨count, final, _, underway, empty, result⟩ :=
    solve_eq_ok_of_silent wellFormed StopSignal.silent_default
  cases (run_eq_ok_of_ok StopSignal.silent_default solved).symm.trans result
  exact ⟨final, underway, empty, rfl⟩

/-- A solve that is not stopped gives a node the facts that reach it. -/
theorem holds_iff_reaches {problem : FlowProblem}
    (wellFormed : problem.WellFormed) {signal : StopSignal}
    {solution : FlowSolution}
    (solved : problem.solve signal = .ok solution) {node bit : Nat} :
    solution.Holds node bit ↔ problem.Reaches node bit := by
  obtain ⟨final, underway, empty, values⟩ :=
    exists_final_of_solve_ok wellFormed solved
  rw [← underway.holds_iff_of_empty empty node bit,
    @FlowState.holds_iff_solution final solution.steps, ← values]

/-- The family of sets has what nodes start with, and what flows into them. -/
structure Closed (problem : FlowProblem) (family : Nat → Set Nat) : Prop where
  starts : ∀ node bit, problem.Starts node bit → bit ∈ family node
  flows : ∀ source target, problem.Flows source target →
    family source ⊆ family target

theorem isLeast_reaches (problem : FlowProblem) :
    IsLeast { family | problem.Closed family }
      (fun node => { bit | problem.Reaches node bit }) := by
  constructor
  · constructor
    · intro node bit starts
      exact ⟨node, .refl, starts⟩
    · intro source target edge bit reaches
      exact reaches.flow edge
  · intro family closed node bit reaches
    obtain ⟨source, path, starts⟩ := reaches
    induction path with
    | refl => exact closed.starts source bit starts
    | @tail between target _ edge induction =>
        exact closed.flows between target edge induction

/-- A solve that is not stopped ends with an empty queue after the visits that
it counts.  A node then holds the facts that start at the nodes from which a
path leads to it; these are the least sets that hold what nodes start with and
are kept along edges. -/
theorem solve_gives_least_solution (problem : FlowProblem)
    (wellFormed : problem.WellFormed) (signal : StopSignal)
    (silent : signal.Silent) :
    ∃ solution final,
      problem.solve signal = .ok solution ∧
      problem.Visits solution.steps problem.start final ∧
      final.queue = [] ∧ solution.values = final.values ∧
      (∀ node < problem.nodeCount, ∃ value,
        solution.value? node = some value ∧
          ∀ bit, value.get bit = true ↔
            ∃ source, Relation.ReflTransGen problem.Flows source node ∧
              problem.Starts source bit) ∧
      IsLeast { family | problem.Closed family }
        (fun node => { bit | solution.Holds node bit }) := by
  obtain ⟨count, final, visits, underway, empty, result⟩ :=
    solve_eq_ok_of_silent wellFormed silent
  have holds : ∀ node bit,
      FlowSolution.Holds ⟨final.values, count⟩ node bit ↔
        problem.Reaches node bit :=
    fun _ _ => holds_iff_reaches wellFormed result
  refine ⟨⟨final.values, count⟩, final, result, visits, empty, rfl, ?_, ?_⟩
  · intro node inRange
    rw [← underway.size] at inRange
    have found : FlowSolution.value? ⟨final.values, count⟩ node =
        some final.values[node] :=
      Array.getElem?_eq_getElem inRange
    refine ⟨final.values[node], found, ?_⟩
    intro bit
    rw [← Reaches, ← holds node bit, FlowSolution.Holds, found]
    simp
  · simp only [holds]
    exact problem.isLeast_reaches

/-- A cycle, a repeated edge and an edge from a node to itself. -/
def cyclicFlow : FlowProblem where
  flowsInto := #[[1, 1], [0, 2], [2]]
  initial := #[.ofList [0], .ofList [70], ∅]
  domainSize := 71

theorem cyclicFlow_wellFormed : cyclicFlow.WellFormed where
  sameSize := rfl
  inRange := by decide

theorem cyclicFlow_least_solution :
    cyclicFlow.WellFormed ∧ StopSignal.Silent {} ∧
      ∃ solution, cyclicFlow.solve {} = .ok solution ∧
        ∃ value, solution.value? 2 = some value ∧
          ∀ bit, value.get bit = true ↔
            ∃ source, Relation.ReflTransGen cyclicFlow.Flows source 2 ∧
              cyclicFlow.Starts source bit := by
  refine ⟨cyclicFlow_wellFormed, StopSignal.silent_default, ?_⟩
  obtain ⟨solution, _, solved, _, _, _, values, _⟩ :=
    solve_gives_least_solution cyclicFlow cyclicFlow_wellFormed {}
      StopSignal.silent_default
  exact ⟨solution, solved, values 2 (by decide)⟩

end FlowProblem

end LockAudit
