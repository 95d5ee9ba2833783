import LockAudit.Proofs.ReportedRegions

/-!
# How audits end

An audit without exposed regions ends at once.  Any other ends with the first
fault of seeding, is stopped while writes are propagated, or reports; nothing
fails after propagation.  What an audit reports, and when it fails, is stated
here about the program alone.
-/

namespace LockAudit

namespace Program

variable {program : Program}

theorem Accepted.audit_idle (accepted : program.Accepted)
    (noRegion : ¬program.HasExposedRegion) (signal : StopSignal) :
    program.audit program.callGraph signal =
      .ok ⟨program.scope, program.scope.regions, none, []⟩ := by
  have empty := accepted.isEmpty_regions_iff.mpr noRegion
  simp [audit, empty, pure, Except.pure]

/-- The phases of an audit that has something to look at. -/
theorem Accepted.audit_phases (accepted : program.Accepted)
    (region : program.HasExposedRegion) (signal : StopSignal) :
    program.audit program.callGraph signal =
      (do
        let seeds ← program.scope.seed
        let reach ← seeds.propagate program.callGraph signal
        let findings ←
          (program.survey reach).findings program.scope.regions
        return ⟨program.scope, program.scope.regions, some reach,
          findings⟩) := by
  have notEmpty : program.scope.regions.isEmpty = false := by
    rw [Bool.eq_false_iff, Ne, accepted.isEmpty_regions_iff, not_not]
    exact region
  simp [audit, notEmpty]

theorem Accepted.audit_faulty (accepted : program.Accepted)
    (region : program.HasExposedRegion) {error : AuditError}
    (failed : program.scope.seed = .error error) (signal : StopSignal) :
    program.audit program.callGraph signal = .error error := by
  rw [accepted.audit_phases region, failed]
  rfl

theorem Accepted.audit_stopped (accepted : program.Accepted)
    (region : program.HasExposedRegion) {seeds : Seeds}
    (seeded : program.scope.seed = .ok seeds) {signal : StopSignal}
    {stopped : Stopped}
    (halted : (seeds.flowProblem program.callGraph).solve signal =
      .error stopped) :
    program.audit program.callGraph signal =
      .error (.stopped stopped.steps) := by
  rw [accepted.audit_phases region, seeded]
  simp only [Seeds.propagate, halted, bind, Except.bind]

theorem Accepted.audit_reported (accepted : program.Accepted)
    (region : program.HasExposedRegion) {seeds : Seeds}
    (seeded : program.scope.seed = .ok seeds) {signal : StopSignal}
    {solution : FlowSolution}
    (solved : (seeds.flowProblem program.callGraph).solve signal =
      .ok solution) :
    ∃ findings, program.Explains findings ∧
      program.audit program.callGraph signal =
        .ok ⟨program.scope, program.scope.regions,
          some ⟨seeds.numbering, seeds.facts, solution⟩, findings⟩ := by
  have propagated : seeds.propagate program.callGraph signal =
      .ok ⟨seeds.numbering, seeds.facts, solution⟩ :=
    Seeds.propagate_eq_ok_iff.mpr ⟨solution, solved, rfl⟩
  obtain ⟨findings, success, explains⟩ :=
    accepted.findings_ok (accepted.knows seeded propagated)
  refine ⟨findings, explains, ?_⟩
  rw [accepted.audit_phases region, seeded]
  simp only [propagated, success, bind, Except.bind, pure, Except.pure]

theorem Accepted.audit_ok_of_propagated (accepted : program.Accepted)
    {seeds : Seeds} (seeded : program.scope.seed = .ok seeds)
    {signal : StopSignal} {reach : Reach}
    (propagated : seeds.propagate program.callGraph signal = .ok reach) :
    ∃ outcome, program.audit program.callGraph signal = .ok outcome := by
  by_cases region : program.HasExposedRegion
  · obtain ⟨solution, solved, _⟩ := Seeds.propagate_eq_ok_iff.mp propagated
    obtain ⟨findings, _, audited⟩ :=
      accepted.audit_reported region seeded solved
    exact ⟨_, audited⟩
  · exact ⟨_, accepted.audit_idle region signal⟩

theorem explains_nil (noRegion : ¬program.HasExposedRegion) :
    program.Explains [] := by
  refine ⟨∅, ∅, [], [], ?_, ?_, .nil, .nil, rfl⟩
  · intro enter
    constructor
    · intro member
      exact (SortedSet.not_mem_empty enter member).elim
    · intro reported
      obtain ⟨procedure, lock, exposed, _⟩ := reported
      exact (noRegion (.inl ⟨enter, procedure, lock, exposed⟩)).elim
  · intro id
    constructor
    · intro member
      exact (SortedSet.not_mem_empty id member).elim
    · intro reported
      obtain ⟨procedure, exposed, _⟩ := reported
      exact (noRegion (.inr ⟨id, procedure, exposed⟩)).elim

theorem Accepted.solve_ok_of_silent (accepted : program.Accepted)
    {seeds : Seeds} (seeded : program.scope.seed = .ok seeds)
    {signal : StopSignal} (silent : signal.Silent) :
    ∃ solution, (seeds.flowProblem program.callGraph).solve signal =
      .ok solution := by
  have wellFormed :=
    Seeds.flowProblem_wellFormed (accepted.seed_ok seeded).1
  obtain ⟨count, final, _, _, _, solved⟩ :=
    FlowProblem.solve_eq_ok_of_silent wellFormed silent
  exact ⟨_, solved⟩

/-- An audit that is not stopped succeeds exactly when there is nothing to look
at or no unguarded write is faulty.  It then reports the blocks and methods in
which a seeded write is performed while an untrusted lock is held, each with
the static fields that those writes modify, in the order of the program, and
nothing else. -/
theorem audit_reports_exposed_writes (program : Program)
    (accepted : program.Accepted) (signal : StopSignal)
    (silent : signal.Silent) (findings : List Finding) :
    (∃ outcome, program.audit program.callGraph signal = .ok outcome ∧
        outcome.findings = findings) ↔
      (program.HasExposedRegion →
        ∀ place error, ¬program.Faulty place error) ∧
        program.Explains findings := by
  by_cases region : program.HasExposedRegion
  · cases seeded : program.scope.seed with
    | error error =>
        rw [accepted.audit_faulty region seeded]
        obtain ⟨place, first⟩ := accepted.seed_error_iff.mp seeded
        constructor
        · intro ended
          obtain ⟨_, success, _⟩ := ended
          cases success
        · intro expected
          obtain ⟨faultless, _⟩ := expected
          exact (faultless region place error first.1).elim
    | ok seeds =>
        obtain ⟨solution, solved⟩ := accepted.solve_ok_of_silent seeded silent
        obtain ⟨reported, explains, success⟩ :=
          accepted.audit_reported region seeded solved
        rw [success]
        constructor
        · intro ended
          obtain ⟨outcome, same, found⟩ := ended
          cases same
          cases found
          exact ⟨fun _ => accepted.not_faulty_of_seed_ok seeded, explains⟩
        · intro expected
          obtain ⟨_, otherExplains⟩ := expected
          exact ⟨_, rfl, explains.unique otherExplains⟩
  · rw [accepted.audit_idle region]
    constructor
    · intro ended
      obtain ⟨outcome, same, found⟩ := ended
      cases same
      cases found
      exact ⟨fun has => (region has).elim, explains_nil region⟩
    · intro expected
      obtain ⟨_, explains⟩ := expected
      exact ⟨_, rfl, (explains_nil region).unique explains⟩

/-- A block and a synchronized method that call each other, on locks about
which nothing is known. -/
def mutualCounter : Program where
  classes :=
    [{ name := "Counter", fields := [{ name := "total", isStatic := true }] }]
  procedures :=
    [{ className := "Counter"
       name := "add"
       descriptor := "()V"
       body := some
        [⟨some 3, .monitorEnter 1⟩, ⟨none, .invoke 0⟩, ⟨none, .monitorExit 1⟩]
       calls := [⟨0, [1]⟩] },
     { className := "Counter"
       name := "store"
       descriptor := "()V"
       isSynchronized := true
       body := some
        [⟨none, .fieldWrite ⟨"Counter", "total"⟩ none⟩, ⟨none, .invoke 0⟩]
       calls := [⟨0, [0]⟩] }]

theorem mutualCounter_reports :
    mutualCounter.Accepted ∧ StopSignal.Silent {} ∧
      mutualCounter.Explains
        [⟨"LCK06J", .block,
          ⟨"Counter", "Counter", "add", "()V", none, some 3⟩,
          .ofList ["Counter.total"]⟩,
        ⟨"LCK06J", .method,
          ⟨"Counter", "Counter", "store", "()V", none, none⟩,
          .ofList ["Counter.total"]⟩] := by
  have accepted : mutualCounter.Accepted := by decide +kernel
  refine ⟨accepted, StopSignal.silent_default, ?_⟩
  apply And.right
  apply (audit_reports_exposed_writes mutualCounter accepted {}
    StopSignal.silent_default _).mp
  apply map_eq_ok_iff.mp
  decide +kernel

theorem Accepted.audit_eq_error_iff (accepted : program.Accepted)
    {signal : StopSignal} (silent : signal.Silent) {error : AuditError} :
    program.audit program.callGraph signal = .error error ↔
      program.HasExposedRegion ∧ program.scope.seed = .error error := by
  constructor
  · intro failed
    by_cases region : program.HasExposedRegion
    · cases seeded : program.scope.seed with
      | error other =>
          cases (accepted.audit_faulty region seeded signal).symm.trans failed
          exact ⟨region, rfl⟩
      | ok seeds =>
          obtain ⟨solution, solved⟩ :=
            accepted.solve_ok_of_silent seeded silent
          obtain ⟨findings, _, success⟩ :=
            accepted.audit_reported region seeded solved
          cases success.symm.trans failed
    · cases (accepted.audit_idle region signal).symm.trans failed
  · intro failing
    obtain ⟨region, failed⟩ := failing
    exact accepted.audit_faulty region failed signal

/-- An audit that is not stopped fails exactly when there is something to look
at and an unguarded write is faulty, and with the error of the first such
write.  After seeding nothing fails: reporting succeeds, and the fields of all
writes that were propagated can be told. -/
theorem audit_fails_at_first_fault (program : Program)
    (accepted : program.Accepted) (signal : StopSignal)
    (silent : signal.Silent) :
    ((∃ error, program.audit program.callGraph signal = .error error) ↔
      program.HasExposedRegion ∧ ∃ place error, program.Faulty place error) ∧
    (∀ error, program.audit program.callGraph signal = .error error ↔
      program.HasExposedRegion ∧
        ∃ place, program.FirstFault place error) ∧
    ∀ seeds, program.scope.seed = .ok seeds →
      ∃ reach, seeds.propagate program.callGraph signal = .ok reach ∧
        (∃ findings, (program.survey reach).findings program.scope.regions =
          .ok findings) ∧
        ∀ id, ∀ place ∈ reach.writes id,
          ∃ fields, program.scope.modifiedFields place = .ok fields := by
  refine ⟨?_, ?_, ?_⟩
  · constructor
    · intro failing
      obtain ⟨error, failed⟩ := failing
      obtain ⟨region, failed⟩ := (accepted.audit_eq_error_iff silent).mp failed
      obtain ⟨place, first⟩ := accepted.seed_error_iff.mp failed
      exact ⟨region, place, error, first.1⟩
    · intro faulting
      obtain ⟨region, place, error, faulty⟩ := faulting
      cases seeded : program.scope.seed with
      | error first => exact ⟨first, accepted.audit_faulty region seeded signal⟩
      | ok seeds =>
          exact (accepted.not_faulty_of_seed_ok seeded place error faulty).elim
  · intro error
    rw [accepted.audit_eq_error_iff silent, accepted.seed_error_iff]
  · intro seeds seeded
    obtain ⟨solution, solved⟩ := accepted.solve_ok_of_silent seeded silent
    have propagated : seeds.propagate program.callGraph signal =
        .ok ⟨seeds.numbering, seeds.facts, solution⟩ :=
      Seeds.propagate_eq_ok_iff.mpr ⟨solution, solved, rfl⟩
    have knows := accepted.knows seeded propagated
    obtain ⟨findings, success, _⟩ := accepted.findings_ok knows
    refine ⟨_, propagated, ⟨findings, success⟩, ?_⟩
    intro id place member
    have performs := (knows.writes id place).mp member
    obtain ⟨fields, success, _⟩ := accepted.modifiedFields_ok performs.2
    exact ⟨fields, success⟩

/-- A faulty write in an exposed block, and another one after it. -/
def faultyCounter : Program where
  classes := [{ name := "Counter", fields := [{ name := "last" }] }]
  procedures :=
    [{ className := "Counter"
       name := "add"
       descriptor := "()V"
       body := some
        [⟨none, .monitorEnter 1⟩,
          ⟨none, .fieldWrite ⟨"Counter", "last"⟩ none⟩,
          ⟨none, .fieldWrite ⟨"Counter", "total"⟩ (some 1)⟩] }]

theorem faultyCounter_fails :
    faultyCounter.Accepted ∧ StopSignal.Silent {} ∧
      faultyCounter.HasExposedRegion ∧
      ∃ place, faultyCounter.FirstFault place
        (.missingReceiver ⟨"Counter", "last"⟩ "Counter.add()V") := by
  have accepted : faultyCounter.Accepted := by decide +kernel
  refine ⟨accepted, StopSignal.silent_default, ?_⟩
  obtain ⟨_, failure, _⟩ := audit_fails_at_first_fault faultyCounter accepted
    {} StopSignal.silent_default
  apply (failure _).mp
  rfl

end Program

end LockAudit
