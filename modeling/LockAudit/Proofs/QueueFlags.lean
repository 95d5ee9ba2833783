import LockAudit.Proofs.LeastSolution

/-!
# Flags of queued nodes

The solver once more, in steps so small that each of them lets a value flow into
one node at most.  Here nobody looks into the queue: a flag for every node says
whether it is queued.  At every moment the flags agree with the queue, so that
no node is queued twice, and what comes out is what the solver gives.
-/

namespace LockAudit

/-- A node that is being visited, the value that it gives, and the nodes that
have not been given it yet. -/
structure OngoingVisit where
  node : Nat
  source : BitVector
  pending : List Nat

/-- The solver at some moment of its work, also in the middle of a visit. -/
structure FlowMoment where
  values : Array BitVector
  queue : List Nat
  /-- For every node, whether it is queued. -/
  flags : Array Bool
  /-- The number of visits so far, with the one that is under way. -/
  steps : Nat
  visit : Option OngoingVisit

namespace FlowMoment

def state (moment : FlowMoment) : FlowState :=
  ⟨moment.values, moment.queue⟩

/-- Gives a node what it lacks of a value, and queues it unless its flag says
that it is queued already. -/
def give (moment : FlowMoment) (node : Nat) (source : BitVector)
    (dependent : Nat) : FlowMoment :=
  if dependent = node then moment
  else
    match moment.values[dependent]? with
    | none => moment
    | some value =>
        if value.lacks source then
          let values :=
            moment.values.setIfInBounds dependent (value ∪ source)
          if moment.flags[dependent]? = some true then { moment with values }
          else
            { moment with
              values
              queue := moment.queue ++ [dependent]
              flags := moment.flags.setIfInBounds dependent true }
        else moment

/-- The state in which the visit that is under way will leave the solver. -/
def finished (moment : FlowMoment) : FlowState :=
  match moment.visit with
  | none => moment.state
  | some visit =>
      visit.pending.foldl (FlowState.flow visit.node visit.source) moment.state

/-- The flags say which nodes are queued. -/
def Flagged (moment : FlowMoment) : Prop :=
  ∀ node < moment.values.size,
    moment.flags[node]? = some (decide (node ∈ moment.queue))

end FlowMoment

namespace FlowProblem

def startMoment (problem : FlowProblem) : FlowMoment where
  values := problem.initial
  queue := List.range problem.nodeCount
  flags := Array.replicate problem.nodeCount true
  steps := 0
  visit := none

/-- One small step: a visit is begun with the first node of the queue, the value
is given to one more node, or there is none left to give it to. -/
inductive Moves (problem : FlowProblem) : FlowMoment → FlowMoment → Prop where
  | begin {moment : FlowMoment} {node : Nat} {queue : List Nat} :
      moment.visit = none → moment.queue = node :: queue →
      Moves problem moment
        { moment with
          queue
          flags := moment.flags.setIfInBounds node false
          steps := moment.steps + 1
          visit := some ⟨node, moment.values[node]?.getD ∅,
            problem.flowsInto[node]?.getD []⟩ }
  | give {moment : FlowMoment} {node : Nat} {source : BitVector}
      {dependent : Nat} {pending : List Nat} :
      moment.visit = some ⟨node, source, dependent :: pending⟩ →
      Moves problem moment
        { moment.give node source dependent with
          visit := some ⟨node, source, pending⟩ }
  | finish {moment : FlowMoment} {node : Nat} {source : BitVector} :
      moment.visit = some ⟨node, source, []⟩ →
      Moves problem moment { moment with visit := none }

/-- The moments that a solve passes through. -/
def Passes (problem : FlowProblem) : FlowMoment → FlowMoment → Prop :=
  Relation.ReflTransGen problem.Moves

end FlowProblem

namespace FlowMoment

variable {moment : FlowMoment}

theorem finished_of_idle (idle : moment.visit = none) :
    moment.finished = moment.state := by
  rw [finished, idle]

theorem finished_of_visiting {visit : OngoingVisit}
    (visiting : moment.visit = some visit) :
    moment.finished =
      visit.pending.foldl (FlowState.flow visit.node visit.source)
        moment.state := by
  rw [finished, visiting]

/-- Giving a value changes nothing, or the node grows and is queued after
it, unless it was queued before. -/
theorem give_cases (moment : FlowMoment) (node : Nat) (source : BitVector)
    (dependent : Nat) :
    (moment.give node source dependent = moment ∧
      FlowState.flow node source moment.state dependent = moment.state) ∨
    ∃ values, values.size = moment.values.size ∧
      dependent < moment.values.size ∧
      FlowState.flow node source moment.state dependent =
        ⟨values, FlowState.enqueue moment.queue dependent⟩ ∧
      moment.give node source dependent =
        if moment.flags[dependent]? = some true then { moment with values }
        else
          { moment with
            values
            queue := moment.queue ++ [dependent]
            flags := moment.flags.setIfInBounds dependent true } := by
  unfold give FlowState.flow
  by_cases loop : dependent = node
  · exact .inl ⟨if_pos loop, if_pos loop⟩
  · simp only [if_neg loop, state]
    cases present : moment.values[dependent]? with
    | none => exact .inl ⟨rfl, rfl⟩
    | some value =>
        by_cases lacking : value.lacks source = true
        · right
          refine ⟨moment.values.setIfInBounds dependent (value ∪ source),
            Array.size_setIfInBounds, ?_, if_pos lacking, if_pos lacking⟩
          exact (Array.getElem?_eq_some_iff.mp present).1
        · exact .inl ⟨if_neg lacking, if_neg lacking⟩

theorem steps_give (moment : FlowMoment) (node : Nat) (source : BitVector)
    (dependent : Nat) :
    (moment.give node source dependent).steps = moment.steps := by
  rcases give_cases moment node source dependent with
    ⟨same, _⟩ | ⟨values, _, _, _, given⟩
  · rw [same]
  · rw [given]
    split <;> rfl

theorem Flagged.flag_eq_true_iff (flagged : moment.Flagged) {dependent : Nat}
    (inRange : dependent < moment.values.size) :
    moment.flags[dependent]? = some true ↔ dependent ∈ moment.queue := by
  rw [flagged dependent inRange]
  simp

/-- Where the flags agree with the queue, they stand in for a look into it. -/
theorem Flagged.state_give (flagged : moment.Flagged) (node : Nat)
    (source : BitVector) (dependent : Nat) :
    (moment.give node source dependent).state =
      FlowState.flow node source moment.state dependent := by
  rcases give_cases moment node source dependent with
    ⟨same, unchanged⟩ | ⟨values, _, inRange, flown, given⟩
  · rw [same, unchanged]
  · rw [given, flown, FlowState.enqueue]
    simp only [flagged.flag_eq_true_iff inRange]
    split <;> rfl

theorem Flagged.give (flagged : moment.Flagged) (node : Nat)
    (source : BitVector) (dependent : Nat) :
    (moment.give node source dependent).Flagged := by
  rcases give_cases moment node source dependent with
    ⟨same, _⟩ | ⟨values, size, inRange, _, given⟩
  · rw [same]
    exact flagged
  · rw [given]
    by_cases queued : moment.flags[dependent]? = some true
    · rw [if_pos queued]
      intro other within
      exact flagged other (size ▸ within)
    · rw [if_neg queued]
      intro other within
      have old := flagged other (size ▸ within)
      have bound : dependent < moment.flags.size := by
        have flag := flagged dependent inRange
        exact (Array.getElem?_eq_some_iff.mp flag).1
      simp only [Array.getElem?_setIfInBounds, List.mem_append,
        List.mem_singleton]
      by_cases same : dependent = other
      · subst other
        simp [bound]
      · simp [same, Ne.symm same, old]

end FlowMoment

namespace FlowProblem

variable {problem : FlowProblem} {moment later : FlowMoment}

/-- What holds at every moment: the flags agree with the queue, no node is
queued twice, and the visit that is under way continues the visits of the
solver. -/
structure Tracks (problem : FlowProblem) (moment : FlowMoment) : Prop where
  size : moment.values.size = problem.nodeCount
  flagged : moment.Flagged
  distinct : moment.queue.Nodup
  visits : problem.Visits moment.steps problem.start moment.finished

theorem tracks_start (problem : FlowProblem) :
    problem.Tracks problem.startMoment where
  size := rfl
  flagged := by
    intro node inRange
    have there : node < problem.nodeCount := inRange
    simp [startMoment, there]
  distinct := List.nodup_range
  visits := .done problem.start

/-- One more visit can be made at the end. -/
theorem Visits.visit {count node : Nat} {state : FlowState}
    {values : Array BitVector} {queue : List Nat}
    (visits : problem.Visits count state ⟨values, node :: queue⟩) :
    problem.Visits (count + 1) state (problem.visit node ⟨values, queue⟩) := by
  generalize ends : (⟨values, node :: queue⟩ : FlowState) = final at visits
  induction visits with
  | done state =>
      subst ends
      exact .next (.done _)
  | next _ induction => exact .next (induction ends)

/-- A node is queued once only, so that it is gone together with its flag. -/
theorem Tracks.begin {node : Nat} {queue : List Nat}
    (tracks : problem.Tracks moment) (idle : moment.visit = none)
    (queued : moment.queue = node :: queue) :
    problem.Tracks
      { moment with
        queue
        flags := moment.flags.setIfInBounds node false
        steps := moment.steps + 1
        visit := some ⟨node, moment.values[node]?.getD ∅,
          problem.flowsInto[node]?.getD []⟩ } := by
  have distinct := tracks.distinct
  rw [queued] at distinct
  obtain ⟨absent, restDistinct⟩ := List.nodup_cons.mp distinct
  refine ⟨tracks.size, ?_, restDistinct, ?_⟩
  · intro other inRange
    have old := tracks.flagged other inRange
    have bound := (Array.getElem?_eq_some_iff.mp old).1
    simp only [Array.getElem?_setIfInBounds]
    by_cases same : node = other
    · subst other
      simp [bound, absent]
    · simp [same, Ne.symm same, old, queued]
  · have visits := tracks.visits
    rw [FlowMoment.finished_of_idle idle, FlowMoment.state, queued] at visits
    exact visits.visit

/-- Giving to a dependent does not change what the visit will lead to. -/
theorem Tracks.give {node : Nat} {source : BitVector} {dependent : Nat}
    {pending : List Nat} (tracks : problem.Tracks moment)
    (visiting : moment.visit = some ⟨node, source, dependent :: pending⟩) :
    problem.Tracks
      { moment.give node source dependent with
        visit := some ⟨node, source, pending⟩ } := by
  have state := tracks.flagged.state_give node source dependent
  have absorbed := FlowState.flow_absorbs node source moment.state dependent
  rw [← state] at absorbed
  refine ⟨absorbed.size.trans tracks.size,
    tracks.flagged.give node source dependent,
    absorbed.distinct tracks.distinct, ?_⟩
  have visits := tracks.visits
  rw [FlowMoment.finished_of_visiting visiting, List.foldl_cons, ← state,
    ← moment.steps_give node source dependent] at visits
  exact visits

theorem Tracks.moves (tracks : problem.Tracks moment)
    (moves : problem.Moves moment later) : problem.Tracks later := by
  cases moves with
  | begin idle queued => exact tracks.begin idle queued
  | give visiting => exact tracks.give visiting
  | finish visiting =>
      have visits := tracks.visits
      rw [FlowMoment.finished_of_visiting visiting] at visits
      exact ⟨tracks.size, tracks.flagged, tracks.distinct, visits⟩

theorem Tracks.passes (tracks : problem.Tracks moment)
    (passes : problem.Passes moment later) : problem.Tracks later := by
  induction passes with
  | refl => exact tracks
  | tail _ moves induction => exact induction.moves moves

/-- A visit that is under way comes to its end. -/
theorem exists_passes_of_visiting (problem : FlowProblem) {node : Nat}
    {source : BitVector} {pending : List Nat} (flagged : moment.Flagged)
    (visiting : moment.visit = some ⟨node, source, pending⟩) :
    ∃ later, problem.Passes moment later ∧ later.visit = none ∧
      later.state = moment.finished ∧ later.steps = moment.steps := by
  induction pending generalizing moment with
  | nil =>
      refine ⟨_, .single (.finish visiting), rfl, ?_, rfl⟩
      rw [FlowMoment.finished_of_visiting visiting]
      rfl
  | cons dependent pending induction =>
      have moves : problem.Moves moment
          { moment.give node source dependent with
            visit := some ⟨node, source, pending⟩ } := .give visiting
      have given : FlowMoment.Flagged
          { moment.give node source dependent with
            visit := some ⟨node, source, pending⟩ } :=
        flagged.give node source dependent
      obtain ⟨later, passes, idle, state, steps⟩ := induction given rfl
      refine ⟨later, .head moves passes, idle, ?_,
        steps.trans (moment.steps_give node source dependent)⟩
      rw [state, FlowMoment.finished_of_visiting visiting, List.foldl_cons,
        ← flagged.state_give node source dependent]
      rfl

/-- The small steps make the visits of the solver. -/
theorem Visits.exists_passes {count : Nat} {state final : FlowState}
    (visits : problem.Visits count state final)
    (tracks : problem.Tracks moment) (idle : moment.visit = none)
    (same : moment.state = state) :
    ∃ later, problem.Passes moment later ∧ later.visit = none ∧
      later.state = final ∧ later.steps = moment.steps + count := by
  induction visits generalizing moment with
  | done state => exact ⟨moment, .refl, idle, same, rfl⟩
  | @next values node queue count final _ induction =>
      obtain ⟨sameValues, queued⟩ := FlowState.mk.inj same
      have begins : problem.Moves moment _ := .begin idle queued
      obtain ⟨visited, ends, visitedIdle, visitedState, visitedSteps⟩ :=
        problem.exists_passes_of_visiting (tracks.moves begins).flagged rfl
      have passes : problem.Passes moment visited := .head begins ends
      obtain ⟨later, rest, laterIdle, laterState, laterSteps⟩ :=
        induction (tracks.passes passes) visitedIdle (by
          rw [visitedState, ← sameValues]
          rfl)
      refine ⟨later, passes.trans rest, laterIdle, laterState, ?_⟩
      rw [laterSteps, visitedSteps]
      exact Nat.add_right_comm _ 1 count

end FlowProblem

end LockAudit
