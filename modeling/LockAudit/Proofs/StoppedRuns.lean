import LockAudit.Proofs.AuditOutcomes

/-!
# Runs that are stopped

A signal decides whether a run gives its result, never which one.  Runs are
compared with the same run under a signal that stops nothing: up to the first
check that fails they take the same steps.
-/

namespace LockAudit

namespace StopSignal

theorem check_limit (limit steps : Nat) :
    check ⟨false, some limit⟩ steps =
      if limit < steps then .error ⟨steps⟩ else .ok () := by
  simp [check, overLimit]

theorem check_raised (stepLimit : Option Nat) (steps : Nat) :
    check ⟨true, stepLimit⟩ steps = .error ⟨steps⟩ := by
  simp [check]

end StopSignal

namespace FlowProblem

variable {problem : FlowProblem} {signal : StopSignal}

theorem steps_le_of_run {fuel steps : Nat} {state : FlowState}
    {solution : FlowSolution}
    (success : problem.run signal fuel steps state = .ok solution) :
    steps ≤ solution.steps := by
  induction fuel generalizing steps state with
  | zero =>
      cases success
      exact Nat.le_refl steps
  | succ fuel induction =>
      obtain ⟨values, queue⟩ := state
      cases queue with
      | nil =>
          cases success
          exact Nat.le_refl steps
      | cons node queue =>
          obtain ⟨_, _, continued⟩ := bind_eq_ok_iff.mp success
          exact Nat.le_of_succ_le (induction continued)

/-- A run is not stopped when the checks of all its steps succeed. -/
theorem run_eq_of_checks {fuel steps : Nat} {state : FlowState}
    {solution : FlowSolution}
    (free : problem.run {} fuel steps state = .ok solution)
    (quiet : ∀ step, steps < step → step ≤ solution.steps →
      signal.check step = .ok ()) :
    problem.run signal fuel steps state = .ok solution := by
  induction fuel generalizing steps state with
  | zero => exact free
  | succ fuel induction =>
      obtain ⟨values, queue⟩ := state
      cases queue with
      | nil => exact free
      | cons node queue =>
          obtain ⟨_, _, continued⟩ := bind_eq_ok_iff.mp free
          have checked := quiet (steps + 1) (Nat.lt_succ_self steps)
            (steps_le_of_run continued)
          apply bind_eq_ok_iff.mpr
          refine ⟨(), checked, induction continued ?_⟩
          intro step after before
          exact quiet step (Nat.lt_of_succ_lt after) before

/-- A run is stopped at the first of its steps whose check fails. -/
theorem run_eq_error_of_check {fuel steps stop : Nat} {state : FlowState}
    {solution : FlowSolution}
    (free : problem.run {} fuel steps state = .ok solution)
    (after : steps < stop) (before : stop ≤ solution.steps)
    (quiet : ∀ step, steps < step → step < stop → signal.check step = .ok ())
    (stops : signal.check stop = .error ⟨stop⟩) :
    problem.run signal fuel steps state = .error ⟨stop⟩ := by
  induction fuel generalizing steps state with
  | zero =>
      cases free
      exact (Nat.not_le_of_gt after before).elim
  | succ fuel induction =>
      obtain ⟨values, queue⟩ := state
      cases queue with
      | nil =>
          cases free
          exact (Nat.not_le_of_gt after before).elim
      | cons node queue =>
          obtain ⟨_, _, continued⟩ := bind_eq_ok_iff.mp free
          apply bind_eq_error_iff.mpr
          rcases Nat.eq_or_lt_of_le after with here | later
          · exact .inl (here ▸ stops)
          · have checked := quiet (steps + 1) (Nat.lt_succ_self steps) later
            refine .inr ⟨(), checked, induction continued later ?_⟩
            intro step after before
            exact quiet step (Nat.lt_of_succ_lt after) before

/-- A step limit is either no limit, or where the solve is stopped. -/
theorem solve_limit {solution : FlowSolution}
    (free : problem.solve {} = .ok solution) (limit : Nat) :
    problem.solve ⟨false, some limit⟩ =
      if solution.steps ≤ limit then .ok solution
      else .error ⟨limit + 1⟩ := by
  by_cases enough : solution.steps ≤ limit
  · rw [if_pos enough]
    apply run_eq_of_checks free
    intro step _ before
    rw [StopSignal.check_limit,
      if_neg (Nat.not_lt_of_le (Nat.le_trans before enough))]
  · rw [if_neg enough]
    apply run_eq_error_of_check free (Nat.succ_pos limit)
      (Nat.lt_of_not_le enough)
    · intro step _ below
      rw [StopSignal.check_limit,
        if_neg (Nat.not_lt_of_le (Nat.le_of_lt_succ below))]
    · rw [StopSignal.check_limit, if_pos (Nat.lt_succ_self limit)]

/-- A solve makes a visit unless there are no nodes. -/
theorem steps_eq_zero_iff {solution : FlowSolution}
    (solved : problem.solve signal = .ok solution) :
    solution.steps = 0 ↔ problem.nodeCount = 0 := by
  constructor
  · intro noSteps
    apply Classical.byContradiction
    intro inhabited
    obtain ⟨last, nodes⟩ := Nat.exists_eq_succ_of_ne_zero inhabited
    have fuelled : problem.stepBound ≠ 0 :=
      Nat.mul_ne_zero inhabited (by omega)
    obtain ⟨fuel, bound⟩ := Nat.exists_eq_succ_of_ne_zero fuelled
    rw [solve, bound, start, nodes, List.range_succ_eq_map] at solved
    obtain ⟨_, _, continued⟩ := bind_eq_ok_iff.mp solved
    have visited := steps_le_of_run continued
    omega
  · intro empty
    have unfuelled : problem.stepBound = 0 := by
      simp [stepBound, empty]
    rw [solve, unfuelled] at solved
    cases solved
    rfl

/-- A signal that is already raised is seen by a solve that makes a visit. -/
theorem solve_raised {solution : FlowSolution}
    (free : problem.solve {} = .ok solution) (stepLimit : Option Nat) :
    problem.solve ⟨true, stepLimit⟩ =
      if problem.nodeCount = 0 then .ok solution else .error ⟨1⟩ := by
  by_cases empty : problem.nodeCount = 0
  · rw [if_pos empty]
    have noSteps := (steps_eq_zero_iff free).mpr empty
    apply run_eq_of_checks free
    intro step after before
    omega
  · rw [if_neg empty]
    have visited := mt (steps_eq_zero_iff free).mp empty
    apply run_eq_error_of_check free Nat.zero_lt_one
      (Nat.one_le_iff_ne_zero.mpr visited)
    · intro step after before
      omega
    · exact StopSignal.check_raised stepLimit 1

end FlowProblem

namespace Program

variable {program : Program}

/-- Under any signal an audit ends as it would if it were not stopped, or it
is stopped. -/
theorem Accepted.audit_same_or_stopped (accepted : program.Accepted)
    (signal : StopSignal) :
    program.audit program.callGraph signal =
        program.audit program.callGraph {} ∨
      (∃ outcome, program.audit program.callGraph {} = .ok outcome) ∧
        ∃ steps, program.audit program.callGraph signal =
          .error (.stopped steps) := by
  by_cases region : program.HasExposedRegion
  · cases seeded : program.scope.seed with
    | error error =>
        left
        rw [accepted.audit_faulty region seeded,
          accepted.audit_faulty region seeded]
    | ok seeds =>
        obtain ⟨free, freeSolved⟩ :=
          accepted.solve_ok_of_silent seeded StopSignal.silent_default
        obtain ⟨findings, explains, freeAudit⟩ :=
          accepted.audit_reported region seeded freeSolved
        cases solved :
            (seeds.flowProblem program.callGraph).solve signal with
        | error stopped =>
            right
            exact ⟨⟨_, freeAudit⟩, _,
              accepted.audit_stopped region seeded solved⟩
        | ok solution =>
            left
            have same := FlowProblem.run_eq_ok_of_ok
              StopSignal.silent_default solved
            cases freeSolved.symm.trans same
            obtain ⟨others, otherExplains, audited⟩ :=
              accepted.audit_reported region seeded solved
            rw [freeAudit, audited, explains.unique otherExplains]
  · left
    rw [accepted.audit_idle region, accepted.audit_idle region]

/-- A step limit lets a solve end with its own result when it is at least the
number of steps of the free solve, and stops it right after the limit
otherwise; a raised signal stops it at its first step, if it makes one.  An
audit under any signal ends as the free audit does, or is stopped where the
free one succeeds. -/
theorem signal_never_changes_result (problem : FlowProblem)
    (wellFormed : problem.WellFormed) (program : Program)
    (accepted : program.Accepted) (signal : StopSignal) :
    (∃ solution, problem.solve {} = .ok solution ∧
      (∀ limit, problem.solve ⟨false, some limit⟩ =
        if solution.steps ≤ limit then .ok solution
        else .error ⟨limit + 1⟩) ∧
      ∀ stepLimit, problem.solve ⟨true, stepLimit⟩ =
        if problem.nodeCount = 0 then .ok solution else .error ⟨1⟩) ∧
    (∀ error, program.audit program.callGraph {} = .error error →
      program.audit program.callGraph signal = .error error) ∧
    ∀ outcome, program.audit program.callGraph {} = .ok outcome →
      program.audit program.callGraph signal = .ok outcome ∨
        ∃ steps, program.audit program.callGraph signal =
          .error (.stopped steps) := by
  refine ⟨?_, ?_, ?_⟩
  · obtain ⟨count, final, _, _, _, free⟩ :=
      FlowProblem.solve_eq_ok_of_silent wellFormed StopSignal.silent_default
    exact ⟨_, free, FlowProblem.solve_limit free,
      FlowProblem.solve_raised free⟩
  · intro error failed
    rcases accepted.audit_same_or_stopped signal with same | stopped
    · exact same.trans failed
    · obtain ⟨⟨outcome, success⟩, _⟩ := stopped
      cases success.symm.trans failed
  · intro outcome success
    rcases accepted.audit_same_or_stopped signal with same | stopped
    · exact .inl (same.trans success)
    · exact .inr stopped.2

theorem mutualCounter_stopped :
    FlowProblem.cyclicFlow.WellFormed ∧ mutualCounter.Accepted ∧
      FlowProblem.cyclicFlow.solve ⟨false, some 2⟩ = .error ⟨3⟩ ∧
      FlowProblem.cyclicFlow.solve ⟨true, none⟩ = .error ⟨1⟩ ∧
      ∃ steps, mutualCounter.audit mutualCounter.callGraph ⟨false, some 1⟩ =
        .error (.stopped steps) := by
  have accepted : mutualCounter.Accepted := by decide +kernel
  obtain ⟨⟨solution, solved, limited, raised⟩, _, audits⟩ :=
    signal_never_changes_result FlowProblem.cyclicFlow
      FlowProblem.cyclicFlow_wellFormed mutualCounter accepted
      ⟨false, some 1⟩
  refine ⟨FlowProblem.cyclicFlow_wellFormed, accepted, ?_, raised none, ?_⟩
  · have free : FlowProblem.cyclicFlow.solve {} =
        .ok ⟨#[⟨[1, 64]⟩, ⟨[1, 64]⟩, ⟨[1, 64]⟩], 4⟩ := by decide +kernel
    cases solved.symm.trans free
    exact limited 2
  · have succeeds :
        (mutualCounter.audit mutualCounter.callGraph {}).isOk = true := rfl
    have fails : (mutualCounter.audit mutualCounter.callGraph
        ⟨false, some 1⟩).isOk = false := rfl
    cases free : mutualCounter.audit mutualCounter.callGraph {} with
    | error error => simp [free, Except.isOk, Except.toBool] at succeeds
    | ok outcome =>
        rcases audits outcome free with same | stopped
        · simp [same, Except.isOk, Except.toBool] at fails
        · exact stopped

end Program

end LockAudit
