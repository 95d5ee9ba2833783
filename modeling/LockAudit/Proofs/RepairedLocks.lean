import LockAudit.Proofs.ChangedCode
import LockAudit.Proofs.CoarserPrograms

/-!
# Repaired locks

A finding advises to lock a static object instead.  Following the advice makes
the program finer: the repaired block covers what stands in it, and all else
stays as it is.  So the audit still succeeds, the finding about the block is
gone, and no other finding appears or grows.
-/

namespace LockAudit

/-- An item that is changed is related to the one that it was. -/
theorem forall₂_modify {related : α → α → Prop}
    (reflexive : ∀ item, related item item) {items : List α} {index : Nat}
    {change : α → α}
    (changed : ∀ item, items[index]? = some item →
      related (change item) item) :
    List.Forall₂ related (items.modify index change) items := by
  induction items generalizing index with
  | nil =>
      rw [List.modify_nil]
      exact .nil
  | cons head tail induction =>
      cases index with
      | zero =>
          exact .cons (changed head rfl)
            (List.forall₂_same.mpr fun item _ => reflexive item)
      | succ index => exact .cons (reflexive head) (induction changed)

/-- The procedure with another lock at a monitor that it enters. -/
def Procedure.relock (procedure : Procedure) (index : Nat)
    (lock : ValueNumber) : Procedure :=
  { procedure with
    body := procedure.body.map fun code =>
      code.modify index fun instruction =>
        { instruction with operation := .monitorEnter lock } }

/-- The program with another lock at a monitor that it enters. -/
def Program.relock (program : Program) (place : InstructionRef)
    (lock : ValueNumber) : Program :=
  { program with
    procedures := program.procedures.modify place.procedure fun procedure =>
      procedure.relock place.index lock }

theorem Procedure.code_relock (procedure : Procedure) (index : Nat)
    (lock : ValueNumber) :
    (procedure.relock index lock).code =
      procedure.code.modify index fun instruction =>
        { instruction with operation := .monitorEnter lock } := by
  unfold Procedure.code Procedure.relock
  cases procedure.body with
  | none => simp
  | some code => rfl

theorem Procedure.operation?_relock {procedure : Procedure} {index : Nat}
    {operation : Operation}
    (listed : procedure.operation? index = some operation)
    (lock : ValueNumber) :
    (procedure.relock index lock).operation? index =
      some (.monitorEnter lock) := by
  obtain ⟨instruction, found, _⟩ := Option.map_eq_some_iff.mp listed
  simp [Procedure.operation?, Procedure.code_relock, found]

namespace Program

section Relock

variable {program : Program} {place : InstructionRef} {lock : ValueNumber}

theorem relock_eq_changeCode : program.relock place lock =
    program.changeCode place.procedure fun code =>
      code.modify place.index fun instruction =>
        { instruction with operation := .monitorEnter lock } :=
  rfl

theorem exists_of_relocked {id : ProcedureId} {left : Procedure}
    (found : (program.relock place lock).procedure? id = some left) :
    ∃ right, program.procedure? id = some right ∧
      left = if place.procedure = id then right.relock place.index lock
        else right := by
  rw [relock_eq_changeCode] at found
  exact exists_of_changedCode found

theorem Accepted.relock (accepted : program.Accepted) :
    (program.relock place lock).Accepted := by
  rw [relock_eq_changeCode]
  exact accepted.changeCode

end Relock

section Repair

variable {program : Program} {place : InstructionRef} {lock old : ValueNumber}
  {procedure : Procedure}
  (found : program.procedure? place.procedure = some procedure)
  (entered : procedure.operation? place.index = some (.monitorEnter old))
  (trusted : program.Trusts place.procedure lock)

include found entered trusted

/-- Whatever the old lock was, the new one is trusted. -/
theorem relaxesCode_relock {id : ProcedureId} {right : Procedure}
    (rightFound : program.procedure? id = some right) :
    (program.relock place lock).RelaxesCode program id
      (if place.procedure = id then right.relock place.index lock
        else right).code right.code := by
  by_cases here : place.procedure = id
  · subst here
    cases found.symm.trans rightFound
    rw [if_pos rfl, Procedure.code_relock]
    apply forall₂_modify fun _ => ⟨rfl, .same _⟩
    intro instruction listed
    have operation : instruction.operation = .monitorEnter old := by
      rw [Procedure.operation?, listed] at entered
      exact Option.some.inj entered
    refine ⟨rfl, ?_⟩
    rw [operation]
    exact .lock fun _ => trusted
  · rw [if_neg here]
    exact .refl _ program id right.code

/-- The program that is repaired is finer: what its values hold, and so what it
trusts, has not changed. -/
theorem coarsens_relock : (program.relock place lock).Coarsens program where
  classes := .refl _
  lookup := fun _ => rfl
  statics := fun _ _ _ => rfl
  calls := by
    intro caller site callee calls
    rw [relock_eq_changeCode] at calls
    exact callsAt_changeCode_iff.mp calls
  procedures := by
    intro id left leftFound _
    obtain ⟨right, rightFound, made⟩ := exists_of_relocked leftFound
    have relaxes := relaxesCode_relock found entered trusted rightFound
    rw [← made] at relaxes
    refine ⟨right, rightFound, ?_, fun _ => relaxes⟩
    rw [made]
    split <;> exact ⟨⟨rfl, rfl, rfl, rfl, rfl⟩, rfl, rfl,
      fun _ _ held => held, fun _ trusts => trusts⟩

theorem hasExposedRegion_of_relocked
    (region : (program.relock place lock).HasExposedRegion) :
    program.HasExposedRegion := by
  have coarsens := coarsens_relock found entered trusted
  apply coarsens.hasExposedRegion ?_ region
  intro id left right leftFound rightFound
  obtain ⟨_, alsoFound, made⟩ := exists_of_relocked leftFound
  cases rightFound.symm.trans alsoFound
  rw [made]
  exact relaxesCode_relock found entered trusted rightFound

/-- The block that is repaired is not exposed any more. -/
theorem not_exposedBlock_relock {left : Procedure} {value : ValueNumber} :
    ¬(program.relock place lock).ExposedBlock place left value := by
  intro exposed
  obtain ⟨_, alsoFound, made⟩ := exists_of_relocked exposed.found
  cases found.symm.trans alsoFound
  have enteredNow := exposed.entered
  rw [made, if_pos rfl, Procedure.operation?_relock entered] at enteredNow
  cases enteredNow
  exact exposed.untrusted trusted

end Repair

/-- When a block is given a lock that is trusted, the program is still accepted
and its audit still succeeds.  It does not report the block, and whatever it
reports was reported before, with at least the same fields. -/
theorem trusted_lock_removes_findings (program : Program)
    (accepted : program.Accepted) (signal : StopSignal)
    (silent : signal.Silent) (outcome : Audit)
    (success : program.audit program.callGraph signal = .ok outcome)
    (place : InstructionRef) (procedure : Procedure) (old lock : ValueNumber)
    (found : program.procedure? place.procedure = some procedure)
    (entered : procedure.operation? place.index = some (.monitorEnter old))
    (trusted : program.scope.trustsLock place.procedure lock = true) :
    (program.relock place lock).Accepted ∧
    ∃ repaired, (program.relock place lock).audit
        (program.relock place lock).callGraph signal = .ok repaired ∧
      (∀ last finding, ¬repaired.Finds (program.relock place lock).callGraph
        (.block ⟨place, last⟩) finding) ∧
      ∀ region finding,
        repaired.Finds (program.relock place lock).callGraph region finding →
        ∃ wider, outcome.Finds program.callGraph region wider ∧
          finding.Within wider := by
  rw [accepted.trustsLock_iff] at trusted
  have coarsens := coarsens_relock found entered trusted
  have repairedAccepted : (program.relock place lock).Accepted :=
    accepted.relock
  refine ⟨repairedAccepted, ?_⟩
  have faultless : (program.relock place lock).HasExposedRegion →
      ∀ write error, ¬(program.relock place lock).Faulty write error := by
    intro region write error faulty
    have before := hasExposedRegion_of_relocked found entered trusted region
    exact accepted.not_faulty_of_audit_ok success before write error
      (coarsens.faulty faulty)
  obtain ⟨repaired, repairedSuccess⟩ :=
    repairedAccepted.audit_succeeds silent faultless
  refine ⟨repaired, repairedSuccess, ?_, ?_⟩
  · intro last finding finds
    obtain ⟨reports, _⟩ :=
      (repairedAccepted.finds_iff repairedSuccess).mp finds
    obtain ⟨_, _, exposed, _⟩ := reports.2
    exact not_exposedBlock_relock found entered trusted exposed
  · intro region finding finds
    exact coarsens.finds repairedAccepted accepted repairedSuccess success finds

/-- A block within a block.  Both lock an object that is not global; value 3
is the object in `guard`. -/
def nestedCounter : Program where
  classes :=
    [{ name := "Counter"
       fields :=
        [{ name := "total", isStatic := true },
          { name := "last", isStatic := true },
          { name := "guard", isStatic := true }] }]
  procedures :=
    [{ className := "Counter"
       name := "add"
       descriptor := "()V"
       body := some
        [⟨some 3, .monitorEnter 2⟩,
          ⟨none, .fieldWrite ⟨"Counter", "total"⟩ none⟩,
          ⟨some 5, .monitorEnter 2⟩,
          ⟨none, .fieldWrite ⟨"Counter", "last"⟩ none⟩,
          ⟨none, .monitorExit 2⟩, ⟨none, .monitorExit 2⟩] }]
  localPointsTo := [⟨0, 2, [5]⟩, ⟨0, 3, [1]⟩]
  staticPointsTo := [⟨"Counter", "guard", [1]⟩]

theorem nestedCounter_repaired :
    nestedCounter.Accepted ∧ StopSignal.Silent {} ∧
      nestedCounter.scope.trustsLock 0 3 = true ∧
      ∃ outcome repaired finding wider,
        nestedCounter.audit nestedCounter.callGraph {} = .ok outcome ∧
        (nestedCounter.relock ⟨0, 2⟩ 3).audit
          (nestedCounter.relock ⟨0, 2⟩ 3).callGraph {} = .ok repaired ∧
        (∀ last finding,
          ¬repaired.Finds (nestedCounter.relock ⟨0, 2⟩ 3).callGraph
            (.block ⟨⟨0, 2⟩, last⟩) finding) ∧
        repaired.Finds (nestedCounter.relock ⟨0, 2⟩ 3).callGraph
          (.block ⟨⟨0, 0⟩, 5⟩) finding ∧
        outcome.Finds nestedCounter.callGraph (.block ⟨⟨0, 0⟩, 5⟩) wider ∧
        finding.Within wider := by
  have accepted : nestedCounter.Accepted := by decide +kernel
  have trusted : nestedCounter.scope.trustsLock 0 3 = true := by
    decide +kernel
  have computed : (nestedCounter.audit nestedCounter.callGraph {}).map
      (fun _ => ()) = .ok () := by decide +kernel
  obtain ⟨outcome, success, _⟩ := map_eq_ok_iff.mp computed
  obtain ⟨_, repaired, repairedSuccess, unreported, narrowed⟩ :=
    trusted_lock_removes_findings nestedCounter accepted {}
      StopSignal.silent_default outcome success ⟨0, 2⟩ _ 2 3 rfl rfl trusted
  have repairedComputed : ((nestedCounter.relock ⟨0, 2⟩ 3).audit
      (nestedCounter.relock ⟨0, 2⟩ 3).callGraph {}).map
        (fun repaired => decide (repaired.Finds
          (nestedCounter.relock ⟨0, 2⟩ 3).callGraph (.block ⟨⟨0, 0⟩, 5⟩)
          ⟨"LCK06J", .block,
            ⟨"Counter", "Counter", "add", "()V", none, some 3⟩,
            .ofList ["Counter.total"]⟩)) = .ok true := by decide +kernel
  rw [repairedSuccess] at repairedComputed
  have finds := of_decide_eq_true (Except.ok.inj repairedComputed)
  obtain ⟨wider, widerFinds, within⟩ := narrowed _ _ finds
  exact ⟨accepted, StopSignal.silent_default, trusted, outcome, repaired, _,
    wider, success, repairedSuccess, unreported, finds, widerFinds, within⟩

end Program

end LockAudit
