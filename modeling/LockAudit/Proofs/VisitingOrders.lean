import LockAudit.Proofs.CanonicalVectors
import LockAudit.Proofs.LeastSolution

/-!
# Visits in any order

The solver visits nodes first come, first served.  Here any node that waits may
be visited next: `FlowProblem.PoolStep` is one such visit, described without a
queue and without going through the edges one by one.  Every run of visits ends,
and all of them end with the values that the solver gives.
-/

namespace LockAudit

open Finset

/-- The values so far, and the nodes to visit, in no order. -/
structure FlowPool where
  values : Array BitVector
  waiting : Finset Nat

namespace FlowPool

/-- The value of a node; a node that does not exist holds nothing. -/
def value (pool : FlowPool) (node : Nat) : BitVector :=
  pool.values[node]?.getD ∅

/-- The number of facts that all nodes together hold. -/
def weight (pool : FlowPool) : Nat :=
  ∑ node ∈ range pool.values.size, (pool.value node).size

end FlowPool

namespace FlowProblem

/-- The other nodes that take up the value of a node. -/
def dependents (problem : FlowProblem) (node : Nat) : Finset Nat :=
  (problem.flowsInto[node]?.getD []).toFinset.erase node

/-- A node is taken out of those that wait, its value is joined to that of each
of its dependents, and the dependents that this changes wait again. -/
def visitWaiting (problem : FlowProblem) (node : Nat) (pool : FlowPool) :
    FlowPool where
  values := pool.values.mapIdx fun other value =>
    if other ∈ problem.dependents node then value ∪ pool.value node else value
  waiting := pool.waiting.erase node ∪
    (problem.dependents node).filter fun other =>
      (pool.value other).lacks (pool.value node) = true

/-- Any node that waits may be visited. -/
inductive PoolStep (problem : FlowProblem) : FlowPool → FlowPool → Prop where
  | visit {pool : FlowPool} {node : Nat} : node ∈ pool.waiting →
      PoolStep problem pool (problem.visitWaiting node pool)

/-- So many visits, made in any order. -/
inductive PoolRun (problem : FlowProblem) :
    Nat → FlowPool → FlowPool → Prop where
  | done (pool : FlowPool) : PoolRun problem 0 pool pool
  | next {count : Nat} {first pool last : FlowPool} :
      PoolRun problem count first pool → PoolStep problem pool last →
      PoolRun problem (count + 1) first last

/-- At the start every node waits. -/
def startPool (problem : FlowProblem) : FlowPool :=
  ⟨problem.initial, range problem.nodeCount⟩

end FlowProblem

/-- The pool and the state hold the same facts, and the same nodes are to be
visited. -/
structure FlowPool.Mirrors (pool : FlowPool) (state : FlowState) : Prop where
  size : pool.values.size = state.values.size
  holds : ∀ node bit, (pool.value node).get bit = true ↔ state.Holds node bit
  waiting : ∀ node, node ∈ pool.waiting ↔ node ∈ state.queue

namespace FlowPool

variable {pool : FlowPool} {state : FlowState}

theorem Mirrors.get_eq (mirrors : pool.Mirrors state) (node bit : Nat) :
    (pool.value node).get bit = (state.value node).get bit :=
  Bool.eq_iff_iff.mpr (mirrors.holds node bit)

theorem Mirrors.weight_eq (mirrors : pool.Mirrors state) :
    pool.weight = state.weight := by
  have sizes : ∀ node, (pool.value node).size = (state.value node).size := by
    intro node
    have members : (pool.value node).members = (state.value node).members := by
      ext bit
      rw [BitVector.mem_members, BitVector.mem_members, mirrors.get_eq]
    rw [← BitVector.card_members, members, BitVector.card_members]
  simp only [weight, FlowState.weight, mirrors.size, sizes]

end FlowPool

namespace FlowProblem

variable {problem : FlowProblem} {pool : FlowPool} {state : FlowState}
  {node : Nat}

theorem mem_dependents {other : Nat} :
    other ∈ problem.dependents node ↔
      problem.Flows node other ∧ other ≠ node := by
  rw [dependents, mem_erase, List.mem_toFinset, and_comm]
  rfl

theorem mirrors_start (problem : FlowProblem) :
    problem.startPool.Mirrors problem.start where
  size := rfl
  holds := fun _ _ => Iff.rfl
  waiting := by
    intro node
    rw [startPool, start, mem_range, List.mem_range]

theorem value_visitWaiting {other : Nat} (inRange : other < pool.values.size) :
    (problem.visitWaiting node pool).value other =
      if other ∈ problem.dependents node then
        pool.value other ∪ pool.value node
      else pool.value other := by
  simp only [visitWaiting, FlowPool.value, Array.getElem?_mapIdx,
    Array.getElem?_eq_getElem inRange, Option.map_some, Option.getD_some]

theorem get_visitWaiting {other bit : Nat} :
    ((problem.visitWaiting node pool).value other).get bit = true ↔
      (pool.value other).get bit = true ∨
        (problem.Flows node other ∧ other ≠ node ∧
          other < pool.values.size) ∧ (pool.value node).get bit = true := by
  by_cases inRange : other < pool.values.size
  · rw [value_visitWaiting inRange]
    by_cases takesUp : other ∈ problem.dependents node
    · have edge := mem_dependents.mp takesUp
      simp [takesUp, inRange, edge.1, edge.2]
    · have noEdge := mt mem_dependents.mpr takesUp
      simp only [takesUp, if_false, inRange, and_true, noEdge, false_and,
        or_false]
  · simp [visitWaiting, FlowPool.value, inRange]

/-- A visit in the pool is mirrored by the solver's visit of the same node. -/
theorem mirrors_visit (wellFormed : problem.WellFormed)
    (sized : state.values.size = problem.nodeCount)
    (mirrors : pool.Mirrors state) {rest : List Nat}
    (distinct : state.queue.Nodup)
    (permuted : state.queue.Perm (node :: rest)) :
    (problem.visitWaiting node pool).Mirrors
      (problem.visit node { state with queue := rest }) := by
  have absorbed := problem.visit_absorbs node { state with queue := rest }
  have holds : ∀ other bit,
      ((problem.visitWaiting node pool).value other).get bit = true ↔
        (problem.visit node { state with queue := rest }).Holds other bit := by
    intro other bit
    rw [get_visitWaiting, absorbed.holds, mirrors.holds, mirrors.holds,
      mirrors.size]
    rfl
  refine ⟨?_, holds, ?_⟩
  · rw [absorbed.size]
    simpa [visitWaiting] using mirrors.size
  · intro other
    have left : other ∈ pool.waiting.erase node ↔ other ∈ rest := by
      have nodeGone := (List.nodup_cons.mp (permuted.nodup_iff.mp distinct)).1
      rw [mem_erase, mirrors.waiting, permuted.mem_iff, List.mem_cons]
      constructor
      · intro member
        exact member.2.resolve_left member.1
      · intro member
        exact ⟨fun same => nodeGone (same ▸ member), .inr member⟩
    have grown : (other ∈ problem.dependents node ∧
        (pool.value other).lacks (pool.value node) = true) ↔
        ∃ bit, (problem.visit node { state with queue := rest }).Holds other
            bit ∧ ¬state.Holds other bit := by
      simp only [← holds, ← mirrors.holds, get_visitWaiting,
        BitVector.lacks_iff, mem_dependents]
      constructor
      · intro lacking
        obtain ⟨⟨edge, different⟩, bit, brought, missing⟩ := lacking
        have inRange : other < pool.values.size := by
          rw [mirrors.size, sized]
          exact wellFormed.target_lt edge
        exact ⟨bit, .inr ⟨⟨edge, different, inRange⟩, brought⟩,
          by simp [missing]⟩
      · intro gained
        obtain ⟨bit, held, missing⟩ := gained
        obtain ⟨⟨edge, different, _⟩, brought⟩ := held.resolve_left missing
        exact ⟨⟨edge, different⟩, bit, brought, Bool.eq_false_iff.mpr missing⟩
    rw [visitWaiting, mem_union, mem_filter, left, grown, absorbed.queued]
    rfl

/-- A run in any order keeps the invariant of the solver. -/
theorem PoolRun.underway (wellFormed : problem.WellFormed) {count : Nat}
    (run : problem.PoolRun count problem.startPool pool) :
    ∃ state, pool.Mirrors state ∧ problem.Underway count state := by
  generalize begun : problem.startPool = first at run
  induction run with
  | done _ =>
      subst begun
      exact ⟨problem.start, problem.mirrors_start, problem.underway_start⟩
  | @next count first pool last _ step induction =>
      obtain ⟨state, mirrors, underway⟩ := induction begun
      cases step with
      | @visit node waits =>
          have queued := (mirrors.waiting node).mp waits
          have permuted := List.perm_cons_erase queued
          exact ⟨_, mirrors_visit wellFormed underway.size mirrors
              underway.distinct permuted,
            underway.visit wellFormed permuted⟩

/-- The visits of the solver are a run. -/
theorem Visits.exists_poolRun (wellFormed : problem.WellFormed)
    {made count : Nat} {final : FlowState}
    (visits : problem.Visits count state final)
    (run : problem.PoolRun made problem.startPool pool)
    (mirrors : pool.Mirrors state) (underway : problem.Underway made state) :
    ∃ last, problem.PoolRun (made + count) problem.startPool last ∧
      last.Mirrors final := by
  induction visits generalizing made pool with
  | done state => exact ⟨pool, run, mirrors⟩
  | @next values node queue count final _ induction =>
      have waits : node ∈ pool.waiting :=
        (mirrors.waiting node).mpr List.mem_cons_self
      have permuted : List.Perm (node :: queue) (node :: queue) := .refl _
      obtain ⟨last, further, ended⟩ := induction (run.next (.visit waits))
        (mirrors_visit wellFormed underway.size mirrors underway.distinct
          permuted)
        (underway.visit wellFormed permuted)
      rw [Nat.add_right_comm, Nat.add_assoc] at further
      exact ⟨last, further, ended⟩

/-- No run goes on for ever: the facts that can reach the nodes are all that
can pay for visits. -/
theorem PoolRun.count_le (wellFormed : problem.WellFormed) {count : Nat}
    (run : problem.PoolRun count problem.startPool pool) :
    count ≤ problem.nodeCount + problem.nodeCount * problem.factBound := by
  obtain ⟨state, _, underway⟩ := run.underway wellFormed
  have paid := underway.paid
  have light := underway.weight_le
  omega

theorem poolRun_of_steps {run : Nat → FlowPool} (begins : run 0 = pool)
    (steps : ∀ count, problem.PoolStep (run count) (run (count + 1)))
    (count : Nat) : problem.PoolRun count pool (run count) := by
  induction count with
  | zero =>
      rw [begins]
      exact .done pool
  | succ count induction => exact induction.next (steps count)

theorem canonical_getD {values : Array BitVector}
    (canonical : ∀ vector ∈ values, vector.Canonical) (node : Nat) :
    (values[node]?.getD ∅).Canonical := by
  cases found : values[node]? with
  | none => exact BitVector.canonical_empty
  | some vector => exact canonical vector (Array.mem_of_getElem? found)

theorem PoolRun.canonical
    (canonical : ∀ vector ∈ problem.initial, vector.Canonical) {count : Nat}
    (run : problem.PoolRun count problem.startPool pool) :
    ∀ vector ∈ pool.values, vector.Canonical := by
  generalize begun : problem.startPool = first at run
  induction run with
  | done _ =>
      subst begun
      exact canonical
  | @next count first pool last _ step induction =>
      have before := induction begun
      cases step with
      | @visit node _ =>
          have source : (pool.value node).Canonical :=
            canonical_getD before node
          intro vector member
          obtain ⟨other, found⟩ := Array.mem_iff_getElem?.mp member
          rw [visitWaiting, Array.getElem?_mapIdx] at found
          obtain ⟨old, listed, made⟩ := Option.map_eq_some_iff.mp found
          have oldCanonical := before old (Array.mem_of_getElem? listed)
          rw [← made]
          split
          · exact oldCanonical.union source
          · exact oldCanonical

end FlowProblem

namespace FlowState

variable {state : FlowState} {source : BitVector}

theorem flow_canonical (node dependent : Nat) (sourceCanonical : source.Canonical)
    (canonical : ∀ vector ∈ state.values, vector.Canonical) :
    ∀ vector ∈ (flow node source state dependent).values,
      vector.Canonical := by
  unfold flow
  split
  · exact canonical
  · split
    · exact canonical
    · next value found =>
        split
        · intro vector member
          rcases Array.mem_or_eq_of_mem_setIfInBounds member with old | new
          · exact canonical vector old
          · subst new
            have valueCanonical :=
              canonical value (Array.mem_of_getElem? found)
            exact valueCanonical.union sourceCanonical
        · exact canonical

theorem foldl_flow_canonical (node : Nat) (dependents : List Nat)
    (sourceCanonical : source.Canonical)
    (canonical : ∀ vector ∈ state.values, vector.Canonical) :
    ∀ vector ∈ (dependents.foldl (flow node source) state).values,
      vector.Canonical := by
  induction dependents generalizing state with
  | nil => exact canonical
  | cons dependent dependents induction =>
      exact induction
        (flow_canonical node dependent sourceCanonical canonical)

end FlowState

namespace FlowProblem

variable {problem : FlowProblem}

theorem visit_canonical (node : Nat) {state : FlowState}
    (canonical : ∀ vector ∈ state.values, vector.Canonical) :
    ∀ vector ∈ (problem.visit node state).values, vector.Canonical := by
  apply FlowState.foldl_flow_canonical _ _ _ canonical
  exact canonical_getD canonical node

theorem Visits.canonical {count : Nat} {state final : FlowState}
    (visits : problem.Visits count state final)
    (canonical : ∀ vector ∈ state.values, vector.Canonical) :
    ∀ vector ∈ final.values, vector.Canonical := by
  induction visits with
  | done state => exact canonical
  | @next values node queue count final _ induction =>
      exact induction (visit_canonical node canonical)

/-- A run that has ended has the facts of the solver's last state. -/
theorem PoolRun.get_eq_of_ended (wellFormed : problem.WellFormed)
    {count steps : Nat} {pool : FlowPool} {final : FlowState}
    (run : problem.PoolRun count problem.startPool pool)
    (ended : pool.waiting = ∅) (underway : problem.Underway steps final)
    (empty : final.queue = []) (node bit : Nat) :
    (pool.value node).get bit = (final.value node).get bit := by
  obtain ⟨state, mirrors, invariant⟩ := run.underway wellFormed
  have stateEmpty : state.queue = [] := by
    apply List.eq_nil_iff_forall_not_mem.mpr
    intro waiting queued
    have member := (mirrors.waiting waiting).mpr queued
    rw [ended] at member
    exact notMem_empty waiting member
  apply Bool.eq_iff_iff.mpr
  rw [mirrors.holds, invariant.holds_iff_of_empty stateEmpty,
    ← underway.holds_iff_of_empty empty]
  rfl

theorem PoolRun.values_eq_of_ended (wellFormed : problem.WellFormed)
    (canonical : ∀ vector ∈ problem.initial, vector.Canonical)
    {count steps : Nat} {pool : FlowPool} {final : FlowState}
    (run : problem.PoolRun count problem.startPool pool)
    (ended : pool.waiting = ∅)
    (visits : problem.Visits steps problem.start final)
    (underway : problem.Underway steps final) (empty : final.queue = []) :
    pool.values = final.values := by
  obtain ⟨state, mirrors, invariant⟩ := run.underway wellFormed
  have sameSize : pool.values.size = final.values.size :=
    mirrors.size.trans (invariant.size.trans underway.size.symm)
  apply Array.ext sameSize
  intro node poolBound finalBound
  have same := run.get_eq_of_ended wellFormed ended underway empty node
  rw [FlowPool.value, FlowState.value, Array.getElem?_eq_getElem poolBound,
    Array.getElem?_eq_getElem finalBound] at same
  exact BitVector.Canonical.eq_of_get_eq
    (run.canonical canonical _ (Array.getElem_mem poolBound))
    (visits.canonical canonical _ (Array.getElem_mem finalBound)) same

/-- In whatever order the nodes that wait are visited, the visits come to an
end: there are at most as many as there are nodes and facts added, and no run
goes on for ever.  A run that has ended holds the facts that the solver gives,
and where the vectors at the start are canonical it has the same words. -/
theorem every_order_gives_solution (problem : FlowProblem)
    (wellFormed : problem.WellFormed) (signal : StopSignal)
    (silent : signal.Silent) :
    ∃ solution, problem.solve signal = .ok solution ∧
      (∃ pool, problem.PoolRun solution.steps problem.startPool pool ∧
        pool.waiting = ∅) ∧
      (∀ count pool, problem.PoolRun count problem.startPool pool →
        count + problem.startPool.weight ≤ problem.nodeCount + pool.weight ∧
        (pool.waiting = ∅ →
          pool.values.size = solution.values.size ∧
          (∀ node bit, (pool.value node).get bit = true ↔
            solution.Holds node bit) ∧
          ((∀ vector ∈ problem.initial, vector.Canonical) →
            pool.values = solution.values))) ∧
      ¬∃ run : Nat → FlowPool, run 0 = problem.startPool ∧
        ∀ count, problem.PoolStep (run count) (run (count + 1)) := by
  obtain ⟨steps, final, visits, underway, empty, solved⟩ :=
    solve_eq_ok_of_silent wellFormed silent
  refine ⟨⟨final.values, steps⟩, solved, ?_, ?_, ?_⟩
  · obtain ⟨pool, run, mirrors⟩ := visits.exists_poolRun wellFormed
      (.done problem.startPool) problem.mirrors_start problem.underway_start
    rw [Nat.zero_add] at run
    refine ⟨pool, run, ?_⟩
    apply eq_empty_of_forall_notMem
    intro node waits
    have queued := (mirrors.waiting node).mp waits
    rw [empty] at queued
    cases queued
  · intro count pool run
    obtain ⟨state, mirrors, invariant⟩ := run.underway wellFormed
    constructor
    · have paid := invariant.paid
      rw [problem.mirrors_start.weight_eq, mirrors.weight_eq]
      omega
    · intro ended
      refine ⟨mirrors.size.trans (invariant.size.trans underway.size.symm),
        ?_, ?_⟩
      · intro node bit
        rw [run.get_eq_of_ended wellFormed ended underway empty,
          ← FlowState.holds_iff_solution]
        rfl
      · intro canonical
        exact run.values_eq_of_ended wellFormed canonical ended visits
          underway empty
  · intro endless
    obtain ⟨run, begins, steps⟩ := endless
    have long := poolRun_of_steps begins steps
      (problem.nodeCount + problem.nodeCount * problem.factBound + 1)
    have bound := long.count_le wellFormed
    omega

theorem cyclicFlow_canonical :
    ∀ vector ∈ cyclicFlow.initial, vector.Canonical := by
  intro vector member
  have listed : vector = .ofList [0] ∨ vector = .ofList [70] ∨ vector = ∅ := by
    simpa [cyclicFlow] using member
  rcases listed with first | second | third
  · exact first ▸ BitVector.canonical_ofList [0]
  · exact second ▸ BitVector.canonical_ofList [70]
  · exact third ▸ BitVector.canonical_empty

theorem cyclicFlow_every_order :
    cyclicFlow.WellFormed ∧ StopSignal.Silent {} ∧
      ∃ solution, cyclicFlow.solve {} = .ok solution ∧
        (∃ pool, cyclicFlow.PoolRun solution.steps cyclicFlow.startPool pool ∧
          pool.waiting = ∅) ∧
        ∀ count pool, cyclicFlow.PoolRun count cyclicFlow.startPool pool →
          count + 2 ≤ 3 + pool.weight ∧
            (pool.waiting = ∅ → pool.values = solution.values) := by
  refine ⟨cyclicFlow_wellFormed, StopSignal.silent_default, ?_⟩
  obtain ⟨solution, solved, ended, runs, _⟩ :=
    every_order_gives_solution cyclicFlow cyclicFlow_wellFormed {}
      StopSignal.silent_default
  have light : cyclicFlow.startPool.weight = 2 := by decide
  refine ⟨solution, solved, ended, ?_⟩
  intro count pool run
  obtain ⟨paid, final⟩ := runs count pool run
  rw [light] at paid
  exact ⟨paid, fun empty => (final empty).2.2 cyclicFlow_canonical⟩

end FlowProblem

end LockAudit
