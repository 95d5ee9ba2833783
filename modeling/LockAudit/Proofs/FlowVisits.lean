import LockAudit.Dataflow.Fixpoint
import LockAudit.Proofs.BitVectorSets
import Mathlib.Algebra.BigOperators.Group.Finset.Basic
import Mathlib.Algebra.Order.BigOperators.Group.Finset
import Mathlib.Logic.Relation

/-!
# Visits of the flow solver

One visit lets a value flow into a list of nodes.  `FlowState.Absorbs` says all
that this changes; the invariant of the solver follows from it alone, first for
one visit and then for every sequence of visits.
-/

namespace LockAudit

open Finset

namespace FlowState

/-- The value of a node; a node that does not exist holds nothing. -/
def value (state : FlowState) (node : Nat) : BitVector :=
  state.values[node]?.getD ∅

/-- The node holds the fact. -/
def Holds (state : FlowState) (node bit : Nat) : Prop :=
  (state.value node).get bit = true

/-- The number of facts that all nodes together hold. -/
def weight (state : FlowState) : Nat :=
  ∑ node ∈ range state.values.size, (state.value node).size

theorem lt_size_of_holds {state : FlowState} {node bit : Nat}
    (held : state.Holds node bit) : node < state.values.size := by
  apply Classical.byContradiction
  intro outside
  have missing : state.values[node]? = none :=
    Array.getElem?_eq_none (Nat.le_of_not_lt outside)
  simp [Holds, value, missing] at held

/-- What changes when a value flows into some nodes: they hold it as well, and
those that grew are queued.  A node that is queued has been paid for by a fact
that it gained. -/
structure Absorbs (source : BitVector) (targets : Nat → Prop)
    (before after : FlowState) : Prop where
  size : after.values.size = before.values.size
  holds : ∀ node bit, after.Holds node bit ↔
    before.Holds node bit ∨ targets node ∧ source.get bit = true
  queued : ∀ node, node ∈ after.queue ↔
    node ∈ before.queue ∨
      ∃ bit, after.Holds node bit ∧ ¬before.Holds node bit
  distinct : before.queue.Nodup → after.queue.Nodup
  paid : after.queue.length + before.weight ≤
    before.queue.length + after.weight

namespace Absorbs

variable {source : BitVector} {targets others : Nat → Prop}
  {before between after : FlowState}

theorem refl (settled : ∀ node bit, targets node → source.get bit = true →
    before.Holds node bit) : Absorbs source targets before before where
  size := rfl
  holds := by
    intro node bit
    constructor
    · exact .inl
    · intro holding
      rcases holding with held | ⟨target, brought⟩
      · exact held
      · exact settled node bit target brought
  queued := by
    intro node
    constructor
    · exact .inl
    · intro queued
      rcases queued with member | ⟨bit, held, missing⟩
      · exact member
      · exact (missing held).elim
  distinct := id
  paid := Nat.le_refl _

theorem trans (first : Absorbs source targets before between)
    (second : Absorbs source others between after) :
    Absorbs source (fun node => targets node ∨ others node) before after where
  size := second.size.trans first.size
  holds := by
    intro node bit
    rw [second.holds, first.holds, or_and_right, or_assoc]
  queued := by
    intro node
    rw [second.queued, first.queued]
    constructor
    · intro queued
      rcases queued with (member | ⟨bit, held, missing⟩) | ⟨bit, held, missing⟩
      · exact .inl member
      · exact .inr ⟨bit, (second.holds node bit).mpr (.inl held), missing⟩
      · refine .inr ⟨bit, held, ?_⟩
        intro earlier
        exact missing ((first.holds node bit).mpr (.inl earlier))
    · intro queued
      rcases queued with member | ⟨bit, held, missing⟩
      · exact .inl (.inl member)
      · by_cases gained : between.Holds node bit
        · exact .inl (.inr ⟨bit, gained, missing⟩)
        · exact .inr ⟨bit, held, gained⟩
  distinct := fun initially => second.distinct (first.distinct initially)
  paid := by
    have firstPaid := first.paid
    have secondPaid := second.paid
    omega

theorem congr (absorbed : Absorbs source targets before after)
    (same : ∀ node, targets node ↔ others node) :
    Absorbs source others before after := by
  have equal : targets = others := funext fun node => propext (same node)
  exact equal ▸ absorbed

end Absorbs

theorem mem_enqueue {queue : List Nat} {node other : Nat} :
    other ∈ enqueue queue node ↔ other ∈ queue ∨ other = node := by
  unfold enqueue
  split
  · next member =>
      constructor
      · exact .inl
      · intro enqueued
        rcases enqueued with listed | same
        · exact listed
        · exact same ▸ member
  · simp

theorem nodup_enqueue {queue : List Nat} {node : Nat}
    (distinct : queue.Nodup) : (enqueue queue node).Nodup := by
  unfold enqueue
  split
  · exact distinct
  · next absent =>
      rw [List.nodup_append]
      refine ⟨distinct, List.nodup_singleton node, ?_⟩
      intro listed member other same
      rw [List.mem_singleton.mp same]
      intro equal
      exact absent (equal ▸ member)

theorem length_enqueue_le (queue : List Nat) (node : Nat) :
    (enqueue queue node).length ≤ queue.length + 1 := by
  unfold enqueue
  split <;> simp

section Growth

variable {state : FlowState} {dependent : Nat} (addition : BitVector)
  (queue : List Nat)

theorem value_set (inRange : dependent < state.values.size) (node : Nat) :
    value ⟨state.values.setIfInBounds dependent addition, queue⟩ node =
      if node = dependent then addition else state.value node := by
  unfold value
  simp only [Array.getElem?_setIfInBounds]
  by_cases same : node = dependent
  · subst node
    simp [inRange]
  · simp [same, Ne.symm same]

theorem weight_set_lt (inRange : dependent < state.values.size)
    (grows : (state.value dependent).size < addition.size) :
    state.weight <
      weight ⟨state.values.setIfInBounds dependent addition, queue⟩ := by
  unfold weight
  simp only [Array.size_setIfInBounds]
  apply sum_lt_sum
  · intro node _
    rw [value_set addition queue inRange]
    split
    · next same => exact same ▸ Nat.le_of_lt grows
    · exact Nat.le_refl _
  · refine ⟨dependent, mem_range.mpr inRange, ?_⟩
    rw [value_set addition queue inRange, if_pos rfl]
    exact grows

end Growth

/-- A node that lacks some of the value takes it up and is queued. -/
theorem absorbs_of_lacks {node dependent : Nat} {source : BitVector}
    {state : FlowState} (different : dependent ≠ node)
    (inRange : dependent < state.values.size)
    (lacking : (state.value dependent).lacks source = true) :
    Absorbs source
      (fun other => other = dependent ∧ other ≠ node ∧
        other < state.values.size)
      state
      ⟨state.values.setIfInBounds dependent (state.value dependent ∪ source),
        enqueue state.queue dependent⟩ where
  size := by simp
  holds := by
    intro other bit
    rw [Holds, value_set _ _ inRange]
    by_cases same : other = dependent
    · subst other
      simp [Holds, different, inRange]
    · simp [Holds, same]
  queued := by
    intro other
    rw [mem_enqueue]
    apply or_congr_right
    simp only [Holds, value_set _ _ inRange]
    constructor
    · intro same
      subst other
      obtain ⟨bit, brought, missing⟩ := BitVector.lacks_iff.mp lacking
      exact ⟨bit, by simp [brought], by simp [missing]⟩
    · intro gained
      obtain ⟨bit, held, missing⟩ := gained
      apply Classical.byContradiction
      intro other
      rw [if_neg other] at held
      exact missing held
  distinct := nodup_enqueue
  paid := by
    have longer := length_enqueue_le state.queue dependent
    have heavier := weight_set_lt (state.value dependent ∪ source)
      (enqueue state.queue dependent) inRange
      (BitVector.size_lt_of_lacks lacking)
    simp only
    omega

theorem flow_absorbs (node : Nat) (source : BitVector) (state : FlowState)
    (dependent : Nat) :
    Absorbs source
      (fun other => other = dependent ∧ other ≠ node ∧
        other < state.values.size)
      state (flow node source state dependent) := by
  unfold flow
  split
  · next same =>
      apply Absorbs.refl
      intro other bit target
      obtain ⟨isDependent, different, _⟩ := target
      exact (different (isDependent.trans same)).elim
  · next different =>
      split
      · next missing =>
          apply Absorbs.refl
          intro other bit target
          obtain ⟨isDependent, _, inRange⟩ := target
          subst other
          rw [Array.getElem?_eq_getElem inRange] at missing
          cases missing
      · next found present =>
          have inRange : dependent < state.values.size :=
            (Array.getElem?_eq_some_iff.mp present).1
          have current : state.value dependent = found := by
            simp [value, present]
          split
          · next lacking =>
              subst found
              exact absorbs_of_lacks different inRange lacking
          · next contained =>
              apply Absorbs.refl
              intro other bit target brought
              obtain ⟨isDependent, _, _⟩ := target
              subst other
              rw [Holds, current]
              apply Classical.byContradiction
              intro missing
              exact contained (BitVector.lacks_iff.mpr
                ⟨bit, brought, Bool.eq_false_iff.mpr missing⟩)

theorem foldl_flow_absorbs (node : Nat) (source : BitVector)
    (dependents : List Nat) (state : FlowState) :
    Absorbs source
      (fun other => other ∈ dependents ∧ other ≠ node ∧
        other < state.values.size)
      state (dependents.foldl (flow node source) state) := by
  induction dependents generalizing state with
  | nil =>
      apply Absorbs.refl
      intro other bit target
      obtain ⟨member, _⟩ := target
      cases member
  | cons dependent dependents induction =>
      have head := flow_absorbs node source state dependent
      have tail := induction (flow node source state dependent)
      apply (head.trans tail).congr
      intro other
      rw [head.size, List.mem_cons, or_and_right]

end FlowState

namespace FlowProblem

/-- An edge of the flow graph. -/
def Flows (problem : FlowProblem) (source target : Nat) : Prop :=
  target ∈ problem.flowsInto[source]?.getD []

/-- The node holds the fact from the beginning. -/
def Starts (problem : FlowProblem) (node bit : Nat) : Prop :=
  (problem.initial[node]?.getD ∅).get bit = true

/-- The fact starts at some node from which a path leads here. -/
def Reaches (problem : FlowProblem) (node bit : Nat) : Prop :=
  ∃ source, Relation.ReflTransGen problem.Flows source node ∧
    problem.Starts source bit

/-- Every node has its list of edges, and the edges lead to nodes. -/
structure WellFormed (problem : FlowProblem) : Prop where
  sameSize : problem.flowsInto.size = problem.initial.size
  inRange : ∀ targets ∈ problem.flowsInto, ∀ target ∈ targets,
    target < problem.nodeCount

theorem WellFormed.target_lt {problem : FlowProblem}
    (wellFormed : problem.WellFormed) {source target : Nat}
    (edge : problem.Flows source target) : target < problem.nodeCount := by
  unfold Flows at edge
  cases listed : problem.flowsInto[source]? with
  | none =>
      rw [listed] at edge
      cases edge
  | some targets =>
      rw [listed] at edge
      exact wellFormed.inRange targets (Array.mem_of_getElem? listed) target edge

theorem Reaches.flow {problem : FlowProblem} {source target bit : Nat}
    (reaches : problem.Reaches source bit)
    (edge : problem.Flows source target) : problem.Reaches target bit := by
  obtain ⟨origin, path, starts⟩ := reaches
  exact ⟨origin, path.tail edge, starts⟩

theorem visit_absorbs (problem : FlowProblem) (node : Nat)
    (state : FlowState) :
    FlowState.Absorbs (state.value node)
      (fun other => problem.Flows node other ∧ other ≠ node ∧
        other < state.values.size)
      state (problem.visit node state) :=
  FlowState.foldl_flow_absorbs node (state.value node) _ state

/-- What holds after `count` visits.  Values lie between those at the start and
all that can flow in; a node that is not queued has nothing more to give; and
visits, made or to come, are paid for by the first visit of every node and by
the facts that were gained. -/
structure Underway (problem : FlowProblem) (count : Nat)
    (state : FlowState) : Prop where
  size : state.values.size = problem.nodeCount
  keeps : ∀ node bit, problem.Starts node bit → state.Holds node bit
  sound : ∀ node bit, state.Holds node bit → problem.Reaches node bit
  settled : ∀ node, node ∉ state.queue → ∀ target, problem.Flows node target →
    ∀ bit, state.Holds node bit → state.Holds target bit
  distinct : state.queue.Nodup
  paid : count + state.queue.length + problem.start.weight ≤
    problem.nodeCount + state.weight

theorem underway_start (problem : FlowProblem) :
    problem.Underway 0 problem.start where
  size := rfl
  keeps := fun _ _ starts => starts
  sound := fun node _ starts => ⟨node, .refl, starts⟩
  settled := by
    intro node absent target edge bit held
    have inRange := FlowState.lt_size_of_holds held
    exact (absent (List.mem_range.mpr inRange)).elim
  distinct := List.nodup_range
  paid := by simp [start]

section Visit

variable {problem : FlowProblem} {count : Nat} {state : FlowState}
  {node : Nat} {rest : List Nat}

/-- After a visit, too, a node that is not queued has nothing more to give. -/
theorem Underway.settled_visit (wellFormed : problem.WellFormed)
    (underway : problem.Underway count state)
    (permuted : state.queue.Perm (node :: rest)) {other target bit : Nat}
    (absent : other ∉ (problem.visit node { state with queue := rest }).queue)
    (edge : problem.Flows other target)
    (held : (problem.visit node { state with queue := rest }).Holds other bit) :
    (problem.visit node { state with queue := rest }).Holds target bit := by
  have absorbed :=
    problem.visit_absorbs node { state with queue := rest }
  have before : state.Holds other bit := by
    apply Classical.byContradiction
    intro missing
    exact absent ((absorbed.queued other).mpr (.inr ⟨bit, held, missing⟩))
  apply (absorbed.holds target bit).mpr
  by_cases visited : other = node
  · subst other
    by_cases loop : target = node
    · exact .inl (loop ▸ before)
    · have inRange : target < state.values.size := by
        rw [underway.size]
        exact wellFormed.target_lt edge
      exact .inr ⟨⟨edge, loop, inRange⟩, before⟩
  · have unqueued : other ∉ state.queue := by
      intro member
      rcases List.mem_cons.mp (permuted.mem_iff.mp member) with same | later
      · exact visited same
      · exact absent ((absorbed.queued other).mpr (.inl later))
    exact .inl (underway.settled other unqueued target edge bit before)

/-- A visit of any queued node keeps the invariant, whatever is left in the
queue, as long as nothing else is taken out of it. -/
theorem Underway.visit (wellFormed : problem.WellFormed)
    (underway : problem.Underway count state)
    (permuted : state.queue.Perm (node :: rest)) :
    problem.Underway (count + 1)
      (problem.visit node { state with queue := rest }) := by
  have absorbed :=
    problem.visit_absorbs node { state with queue := rest }
  have distinct : (node :: rest).Nodup :=
    permuted.nodup_iff.mp underway.distinct
  constructor
  · exact absorbed.size.trans underway.size
  · intro other bit starts
    exact (absorbed.holds other bit).mpr (.inl (underway.keeps other bit starts))
  · intro other bit held
    rcases (absorbed.holds other bit).mp held with
      before | ⟨⟨edge, _⟩, brought⟩
    · exact underway.sound other bit before
    · exact (underway.sound node bit brought).flow edge
  · intro other absent target edge bit held
    exact underway.settled_visit wellFormed permuted absent edge held
  · exact absorbed.distinct (List.nodup_cons.mp distinct).2
  · have paidBefore := underway.paid
    have paidByVisit := absorbed.paid
    have shorter := permuted.length_eq
    have unchanged :
        FlowState.weight { state with queue := rest } = state.weight := rfl
    simp only [List.length_cons] at shorter
    simp only [unchanged] at paidByVisit
    omega

end Visit

/-- When no node is queued, the nodes hold exactly what can flow into them. -/
theorem Underway.holds_iff_of_empty {problem : FlowProblem} {count : Nat}
    {state : FlowState} (underway : problem.Underway count state)
    (empty : state.queue = []) (node bit : Nat) :
    state.Holds node bit ↔ problem.Reaches node bit := by
  constructor
  · exact underway.sound node bit
  · intro reaches
    obtain ⟨source, path, starts⟩ := reaches
    induction path with
    | refl => exact underway.keeps source bit starts
    | @tail between target _ edge induction =>
        exact underway.settled between (by simp [empty]) target edge bit induction

end FlowProblem

end LockAudit
