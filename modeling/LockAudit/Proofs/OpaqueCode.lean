import LockAudit.Proofs.AuditedCode

/-!
# Opaque code

Two kinds of code are not looked into.  The platform's code is passed over by
every phase, so that audits that differ in it end alike, steps and errors
included.  The code of a guarded method is passed over where writes are seeded
and where blocks are reported; its blocks are still listed, but they have no
findings.
-/

namespace LockAudit

/-- The audit as that of another program. -/
def Audit.transfer (audit : Audit) (program : Program) : Audit :=
  { audit with scope := { audit.scope with program } }

namespace Program

structure SameCalls (left right : Program) : Prop where
  count : right.procedures.length = left.procedures.length
  calls : ∀ id leftProcedure rightProcedure,
    left.procedure? id = some leftProcedure →
    right.procedure? id = some rightProcedure →
    rightProcedure.calls = leftProcedure.calls

section Calls

variable {left right : Program} (same : left.SameCalls right)

include same

theorem SameCalls.symm : right.SameCalls left where
  count := same.count.symm
  calls := by
    intro id rightProcedure leftProcedure rightFound leftFound
    exact (same.calls id _ _ leftFound rightFound).symm

theorem SameCalls.callsAt {caller callee : ProcedureId} {site : SiteNumber}
    (calls : left.CallsAt caller site callee) :
    right.CallsAt caller site callee := by
  obtain ⟨leftProcedure, found, called⟩ := calls
  obtain ⟨rightProcedure, rightFound⟩ :=
    exists_procedure_of_count same.count found
  rw [← same.calls caller _ _ found rightFound] at called
  exact ⟨rightProcedure, rightFound, called⟩

end Calls

section Audits

variable {left right : Program} (same : left.SameAudited right)
  (accepted : left.Accepted) (rightAccepted : right.Accepted)

include same accepted rightAccepted

theorem SameAudited.scope_eq :
    right.scope = { left.scope with program := right } := by
  calc
    right.scope = ⟨right, right.scope.staticFields, right.scope.globals⟩ := rfl
    _ = { left.scope with program := right } := by
      rw [same.staticFields_eq, same.globals_eq accepted rightAccepted]

/-- Programs with the same audited code and the same calls have the same audit,
under every signal. -/
theorem SameAudited.audit_eq_of_callsAt
    (calls : ∀ caller site callee, right.CallsAt caller site callee ↔
      left.CallsAt caller site callee) (signal : StopSignal) :
    right.audit right.callGraph signal =
      (left.audit left.callGraph signal).map (·.transfer right) := by
  have scopes := same.scope_eq accepted rightAccepted
  have regions := same.regions_eq accepted rightAccepted
  have exposed := same.hasExposedRegion_iff accepted rightAccepted
  by_cases region : left.HasExposedRegion
  · have rightRegion := exposed.mpr region
    have sameSeeds := same.seed_eq accepted rightAccepted
    cases seeded : left.scope.seed with
    | error error =>
        rw [accepted.audit_faulty region seeded,
          rightAccepted.audit_faulty rightRegion (sameSeeds.trans seeded)]
        rfl
    | ok seeds =>
        have rightSeeded := sameSeeds.trans seeded
        have sameSolve : (seeds.flowProblem right.callGraph).solve signal =
            (seeds.flowProblem left.callGraph).solve signal := by
          rw [callGraph_eq_of_callsAt same.count calls]
        cases solved : (seeds.flowProblem left.callGraph).solve signal with
        | error stopped =>
            rw [accepted.audit_stopped region seeded solved,
              rightAccepted.audit_stopped rightRegion rightSeeded
                (sameSolve.trans solved)]
            rfl
        | ok solution =>
            have forth := same.coarsens fun _ _ _ => (calls _ _ _).mpr
            have back := same.symm.coarsens fun _ _ _ => (calls _ _ _).mp
            obtain ⟨findings, explains, audited⟩ :=
              accepted.audit_reported region seeded solved
            obtain ⟨others, otherExplains, rightAudited⟩ :=
              rightAccepted.audit_reported rightRegion rightSeeded
                (sameSolve.trans solved)
            have sameFindings :=
              otherExplains.unique (forth.explains back explains)
            rw [audited, rightAudited, sameFindings, regions, scopes]
            rfl
  · rw [accepted.audit_idle region,
      rightAccepted.audit_idle (mt exposed.mp region), regions, scopes]
    rfl

end Audits

theorem SameAudited.audit_eq {left right : Program}
    (same : left.SameAudited right) (calls : left.SameCalls right)
    (accepted : left.Accepted) (rightAccepted : right.Accepted)
    (signal : StopSignal) :
    right.audit right.callGraph signal =
      (left.audit left.callGraph signal).map (·.transfer right) :=
  same.audit_eq_of_callsAt accepted rightAccepted
    (fun _ _ _ => ⟨calls.symm.callsAt, calls.callsAt⟩) signal

/-- The programs are the same but for the code, the modifiers and the values of
procedures of the platform, and for what its static fields hold. -/
structure DiffersInPlatform (left right : Program) : Prop
    extends SameDeclarations left right where
  count : right.procedures.length = left.procedures.length
  procedures : ∀ id procedure other, left.procedure? id = some procedure →
    right.procedure? id = some other →
    procedure = other ∨ left.OfPlatform procedure.className ∧
      { procedure with
        isStatic := other.isStatic
        isSynchronized := other.isSynchronized
        body := other.body } = other
  locals : ∀ id procedure, left.procedure? id = some procedure →
    ¬left.OfPlatform procedure.className →
    ∀ value, right.pointsToLocal id value = left.pointsToLocal id value

theorem DiffersInPlatform.sameAudited {left right : Program}
    (differs : left.DiffersInPlatform right) : left.SameAudited right where
  toSameLookups := differs.sameLookups
  count := differs.count
  className := by
    intro id procedure other found otherFound
    rcases differs.procedures id _ _ found otherFound with same | ⟨_, same⟩
    · rw [same]
    · rw [← same]
  code := by
    intro id procedure other found otherFound audited
    have locals := differs.locals id procedure found audited
    rcases differs.procedures id _ _ found otherFound with same | ⟨platform, _⟩
    · subst same
      exact ⟨⟨.refl procedure, rfl, rfl, locals⟩, rfl⟩
    · exact (audited platform).elim

theorem DiffersInPlatform.sameCalls {left right : Program}
    (differs : left.DiffersInPlatform right) : left.SameCalls right where
  count := differs.count
  calls := by
    intro id procedure other found otherFound
    rcases differs.procedures id _ _ found otherFound with same | ⟨_, same⟩
    · rw [same]
    · rw [← same]

/-- The programs are the same but for the code of methods that are guarded in
both. -/
structure DiffersInGuarded (left right : Program) : Prop
    extends SameDeclarations left right where
  count : right.procedures.length = left.procedures.length
  procedures : ∀ id procedure other, left.procedure? id = some procedure →
    right.procedure? id = some other →
    procedure = other ∨ left.scope.isGuarded id procedure = true ∧
      right.scope.isGuarded id other = true ∧
      { procedure with body := other.body } = other
  locals : ∀ id value,
    right.pointsToLocal id value = left.pointsToLocal id value

section Guarded

variable {left right : Program} (differs : left.DiffersInGuarded right)

include differs

theorem DiffersInGuarded.same_but_body {id : ProcedureId}
    {procedure other : Procedure} (found : left.procedure? id = some procedure)
    (otherFound : right.procedure? id = some other) :
    { procedure with body := other.body } = other := by
  rcases differs.procedures id _ _ found otherFound with same | ⟨_, _, same⟩
  · subst same
    rfl
  · exact same

theorem DiffersInGuarded.symm : right.DiffersInGuarded left where
  classes := differs.classes.symm
  statics := differs.sameLookups.symm.statics
  count := differs.count.symm
  procedures := by
    intro id other procedure otherFound found
    rcases differs.procedures id _ _ found otherFound with
      same | ⟨guarded, otherGuarded, same⟩
    · exact .inl same.symm
    · refine .inr ⟨otherGuarded, guarded, ?_⟩
      rw [← same]
  locals := fun id value => (differs.locals id value).symm

theorem DiffersInGuarded.sameCalls : left.SameCalls right where
  count := differs.count
  calls := by
    intro id procedure other found otherFound
    rw [← differs.same_but_body found otherFound]

theorem DiffersInGuarded.coarsens (accepted : left.Accepted) :
    left.Coarsens right where
  toSameLookups := differs.sameLookups
  calls := fun _ _ _ => differs.sameCalls.callsAt
  procedures := by
    intro id procedure found _
    obtain ⟨other, otherFound⟩ :=
      exists_procedure_of_count differs.count found
    refine ⟨other, otherFound, ?_, ?_⟩
    · apply differs.sameLookups.resembles
      rw [← differs.same_but_body found otherFound]
      exact ⟨⟨rfl, rfl, rfl, rfl, rfl⟩, rfl, rfl, differs.locals id⟩
    · intro unguarded
      rcases differs.procedures id _ _ found otherFound with
        same | ⟨guarded, _⟩
      · subst same
        exact .refl left right id procedure.code
      · exact (unguarded (accepted.isGuarded_iff.mp guarded)).elim

end Guarded

theorem Accepted.not_finds_of_guarded {program : Program}
    (accepted : program.Accepted) {signal : StopSignal} {outcome : Audit}
    (success : program.audit program.callGraph signal = .ok outcome)
    {enter : InstructionRef} {procedure : Procedure}
    (found : program.procedure? enter.procedure = some procedure)
    (guarded : program.scope.isGuarded enter.procedure procedure = true)
    {last : Nat} {finding : Finding} :
    ¬outcome.Finds program.callGraph (.block ⟨enter, last⟩) finding := by
  intro finds
  obtain ⟨reports, _⟩ := (accepted.finds_iff success).mp finds
  obtain ⟨_, _, exposed, unguarded, _⟩ := reports.2
  cases found.symm.trans exposed.found
  exact unguarded (accepted.isGuarded_iff.mp guarded)

/-- Programs that differ in the platform alone have the same audit under every
signal, whether it succeeds, fails or is stopped.  Programs that differ in the
code of guarded methods alone have the same findings wherever both audits
succeed.  No block of a guarded method has a finding. -/
theorem unseen_code_changes_no_finding (left right : Program)
    (accepted : left.Accepted) (rightAccepted : right.Accepted) :
    (left.DiffersInPlatform right → ∀ signal,
      right.audit right.callGraph signal =
        (left.audit left.callGraph signal).map (·.transfer right)) ∧
    (left.DiffersInGuarded right → ∀ signal rightSignal outcome rightOutcome,
      left.audit left.callGraph signal = .ok outcome →
      right.audit right.callGraph rightSignal = .ok rightOutcome →
      rightOutcome.findings = outcome.findings) ∧
    ∀ signal outcome, left.audit left.callGraph signal = .ok outcome →
      ∀ enter procedure, left.procedure? enter.procedure = some procedure →
        left.scope.isGuarded enter.procedure procedure = true →
        ∀ last finding,
          ¬outcome.Finds left.callGraph (.block ⟨enter, last⟩) finding := by
  refine ⟨?_, ?_, ?_⟩
  · intro differs signal
    exact differs.sameAudited.audit_eq differs.sameCalls accepted rightAccepted
      signal
  · intro differs signal rightSignal outcome rightOutcome success rightSuccess
    have forth := differs.coarsens accepted
    have back := differs.symm.coarsens rightAccepted
    have explains := (accepted.concludes success).explains
    have rightExplains := (rightAccepted.concludes rightSuccess).explains
    exact rightExplains.unique (forth.explains back explains)
  · intro signal outcome success enter procedure found guarded last finding
    exact accepted.not_finds_of_guarded success found guarded

/-- A block that writes and calls, a guarded method, whose receiver is the
object in `guard`, and a procedure of the platform. -/
def libraryCounter (guarded platform : List Instruction) : Program where
  classes :=
    [{ name := "Counter"
       fields :=
        [{ name := "total", isStatic := true },
          { name := "guard", isStatic := true }] },
     { name := "Library", loader := .primordial }]
  procedures :=
    [{ className := "Counter"
       name := "add"
       descriptor := "()V"
       body := some
        [⟨some 3, .monitorEnter 2⟩,
          ⟨none, .fieldWrite ⟨"Counter", "total"⟩ none⟩,
          ⟨none, .invoke 0⟩, ⟨none, .monitorExit 2⟩]
       calls := [⟨0, [1, 2]⟩] },
     { className := "Counter"
       name := "store"
       descriptor := "()V"
       isSynchronized := true
       body := some guarded },
     { className := "Library"
       name := "run"
       descriptor := "()V"
       body := some platform }]
  localPointsTo := [⟨0, 2, [5]⟩, ⟨1, 1, [1]⟩]
  staticPointsTo := [⟨"Counter", "guard", [1]⟩]

theorem libraryCounter_differsInPlatform
    (guarded platform otherPlatform : List Instruction) :
    (libraryCounter guarded platform).DiffersInPlatform
      (libraryCounter guarded otherPlatform) where
  classes := rfl
  statics := fun _ _ _ => rfl
  count := rfl
  procedures := by
    intro id procedure other found otherFound
    match id with
    | 0 | 1 => exact .inl (Option.some.inj (found.symm.trans otherFound))
    | 2 =>
        cases found
        cases otherFound
        exact .inr ⟨⟨_, .tail _ (.head _), rfl, rfl⟩, rfl⟩
  locals := fun _ _ _ _ _ => rfl

theorem libraryCounter_differsInGuarded
    (guarded otherGuarded platform : List Instruction) :
    (libraryCounter guarded platform).DiffersInGuarded
      (libraryCounter otherGuarded platform) where
  classes := rfl
  statics := fun _ _ _ => rfl
  count := rfl
  procedures := by
    intro id procedure other found otherFound
    match id with
    | 0 | 2 => exact .inl (Option.some.inj (found.symm.trans otherFound))
    | 1 =>
        cases found
        cases otherFound
        exact .inr ⟨rfl, rfl, rfl⟩
  locals := fun _ _ => rfl

/-- A write that would be reported in code that is looked into. -/
def lockedWrite : List Instruction :=
  [⟨none, .monitorEnter 2⟩, ⟨none, .fieldWrite ⟨"Counter", "total"⟩ none⟩,
    ⟨none, .monitorExit 2⟩]

theorem libraryCounter_unseen :
    (libraryCounter lockedWrite []).Accepted ∧
      (libraryCounter lockedWrite lockedWrite).Accepted ∧
      (libraryCounter [] []).Accepted ∧
      ∃ outcome other,
        (libraryCounter lockedWrite []).audit
          (libraryCounter lockedWrite []).callGraph {} = .ok outcome ∧
        outcome.findings =
          [⟨"LCK06J", .block,
            ⟨"Counter", "Counter", "add", "()V", none, some 3⟩,
            .ofList ["Counter.total"]⟩] ∧
        (libraryCounter lockedWrite lockedWrite).audit
          (libraryCounter lockedWrite lockedWrite).callGraph {} =
            .ok (outcome.transfer
              (libraryCounter lockedWrite lockedWrite)) ∧
        (libraryCounter [] []).audit (libraryCounter [] []).callGraph {} =
          .ok other ∧
        other.findings = outcome.findings ∧
        ∀ finding,
          ¬outcome.Finds (libraryCounter lockedWrite []).callGraph
            (.block ⟨⟨1, 0⟩, 2⟩) finding := by
  have accepted : (libraryCounter lockedWrite []).Accepted := by
    decide +kernel
  have platformAccepted :
      (libraryCounter lockedWrite lockedWrite).Accepted := by decide +kernel
  have guardedAccepted : (libraryCounter [] []).Accepted := by decide +kernel
  obtain ⟨platform, _, silent⟩ := unseen_code_changes_no_finding
    (libraryCounter lockedWrite []) (libraryCounter lockedWrite lockedWrite)
    accepted platformAccepted
  obtain ⟨_, guarded, _⟩ := unseen_code_changes_no_finding
    (libraryCounter lockedWrite []) (libraryCounter [] []) accepted
    guardedAccepted
  have computed : ((libraryCounter lockedWrite []).audit
      (libraryCounter lockedWrite []).callGraph {}).map (·.findings) =
        .ok [⟨"LCK06J", .block,
          ⟨"Counter", "Counter", "add", "()V", none, some 3⟩,
          .ofList ["Counter.total"]⟩] := by decide +kernel
  have otherComputed : ((libraryCounter [] []).audit
      (libraryCounter [] []).callGraph {}).map (fun _ => ()) = .ok () := by
    decide +kernel
  obtain ⟨outcome, success, findings⟩ := map_eq_ok_iff.mp computed
  obtain ⟨other, otherSuccess, _⟩ := map_eq_ok_iff.mp otherComputed
  have transferred :=
    platform (libraryCounter_differsInPlatform lockedWrite [] lockedWrite) {}
  rw [success] at transferred
  have sameFindings :=
    guarded (libraryCounter_differsInGuarded lockedWrite [] []) {} {} outcome
      other success otherSuccess
  exact ⟨accepted, platformAccepted, guardedAccepted, outcome, other, success,
    findings, transferred, otherSuccess, sameFindings,
    silent {} outcome success ⟨1, 0⟩ _ rfl rfl 2⟩

end Program

end LockAudit
