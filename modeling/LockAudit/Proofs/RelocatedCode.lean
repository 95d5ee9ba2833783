import LockAudit.Proofs.CoarserPrograms
import Mathlib.Data.List.Perm.Basic
import Mathlib.Logic.Embedding.Basic

/-!
# Relocated code

A program may be another one at new places: its procedures have other numbers,
its instructions other indices, and there may be instructions in between that
an audit passes over.  What the audit looks for is then found at the new places
and nowhere else, and findings do not tell the programs apart.
-/

namespace LockAudit

/-- An audit passes over the operation. -/
def Operation.isIdle : Operation → Bool
  | .fieldRead _ _ | .other => true
  | _ => false

/-- The new numbers of procedures and the new indices of instructions. -/
structure Relocation where
  procedure : ProcedureId ↪ ProcedureId
  index : ProcedureId → Nat ↪ Nat

namespace Relocation

/-- The new place of an instruction. -/
def place (moves : Relocation) (place : InstructionRef) : InstructionRef :=
  ⟨moves.procedure place.procedure,
    moves.index place.procedure place.index⟩

theorem place_injective (moves : Relocation) :
    Function.Injective moves.place := by
  intro left right same
  obtain ⟨leftProcedure, leftIndex⟩ := left
  obtain ⟨rightProcedure, rightIndex⟩ := right
  obtain ⟨procedures, indices⟩ := InstructionRef.mk.inj same
  have sameProcedure : leftProcedure = rightProcedure :=
    moves.procedure.injective procedures
  subst sameProcedure
  have sameIndex : leftIndex = rightIndex :=
    (moves.index leftProcedure).injective indices
  rw [sameIndex]

end Relocation

/-- Items in another order have their findings in another order. -/
theorem perm_of_forall₂ {describes : α → β → Prop}
    (unique : Relator.RightUnique describes) {left right : List α}
    {findings others : List β} (arranged : right.Perm left)
    (described : List.Forall₂ describes left findings)
    (otherDescribed : List.Forall₂ describes right others) :
    others.Perm findings := by
  obtain ⟨_, alsoDescribed, sameFindings⟩ :=
    List.perm_comp_forall₂ arranged described
  rw [List.right_unique_forall₂' unique otherDescribed alsoDescribed]
  exact sameFindings

namespace Program

/-- The second procedure is the first one at its new place. -/
structure Carries (left right : Program) (moves : Relocation)
    (id : ProcedureId) (leftProcedure rightProcedure : Procedure) : Prop where
  heading : leftProcedure.SameHeading rightProcedure
  isStatic : rightProcedure.isStatic = leftProcedure.isStatic
  isSynchronized :
    rightProcedure.isSynchronized = leftProcedure.isSynchronized
  locals : ∀ value, right.pointsToLocal (moves.procedure id) value =
    left.pointsToLocal id value
  moved : ∀ index instruction,
    leftProcedure.code[index]? = some instruction →
    rightProcedure.code[moves.index id index]? = some instruction
  origin : ∀ index instruction,
    rightProcedure.code[index]? = some instruction →
    instruction.operation.isIdle = false →
    ∃ origin, moves.index id origin = index ∧
      leftProcedure.code[origin]? = some instruction
  inBlock : ∀ enter index, enter < leftProcedure.code.length →
    index < leftProcedure.code.length →
    (rightProcedure.InBlock (moves.index id enter) (moves.index id index) ↔
      leftProcedure.InBlock enter index)

/-- The second program is the first one at its new places. -/
structure Relocates (left right : Program) (moves : Relocation) : Prop
    extends SameLookups left right where
  moved : ∀ id leftProcedure, left.procedure? id = some leftProcedure →
    ∃ rightProcedure,
      right.procedure? (moves.procedure id) = some rightProcedure ∧
        left.Carries right moves id leftProcedure rightProcedure
  origin : ∀ id rightProcedure, right.procedure? id = some rightProcedure →
    ∃ origin leftProcedure, moves.procedure origin = id ∧
      left.procedure? origin = some leftProcedure
  calls : ∀ caller site target,
    right.CallsAt (moves.procedure caller) site target ↔
      ∃ callee, moves.procedure callee = target ∧
        left.CallsAt caller site callee

section Procedures

variable {left right : Program} {moves : Relocation} {id : ProcedureId}
  {leftProcedure rightProcedure : Procedure}
  (carries : left.Carries right moves id leftProcedure rightProcedure)

include carries

theorem Carries.operation?_moved {index : Nat} {operation : Operation}
    (listed : leftProcedure.operation? index = some operation) :
    rightProcedure.operation? (moves.index id index) = some operation := by
  obtain ⟨instruction, found, same⟩ :=
    Procedure.operation?_eq_some_iff.mp listed
  exact Procedure.operation?_eq_some_iff.mpr
    ⟨instruction, carries.moved index instruction found, same⟩

theorem Carries.operation?_origin {index : Nat} {operation : Operation}
    (busy : operation.isIdle = false)
    (listed : rightProcedure.operation? index = some operation) :
    ∃ origin, moves.index id origin = index ∧
      leftProcedure.operation? origin = some operation := by
  obtain ⟨instruction, found, same⟩ :=
    Procedure.operation?_eq_some_iff.mp listed
  subst same
  obtain ⟨origin, there, foundThere⟩ :=
    carries.origin index instruction found busy
  exact ⟨origin, there, Procedure.operation?_eq_some_iff.mpr
    ⟨instruction, foundThere, rfl⟩⟩

theorem Carries.localMayHold_iff {value : ValueNumber} {object : InstanceKey} :
    right.LocalMayHold (moves.procedure id) value object ↔
      left.LocalMayHold id value object := by
  rw [← mem_pointsToLocal, carries.locals, mem_pointsToLocal]

variable (same : left.SameLookups right)

include same

theorem Carries.trusts_iff {value : ValueNumber} :
    right.Trusts (moves.procedure id) value ↔ left.Trusts id value := by
  simp only [Trusts, carries.localMayHold_iff, same.global_iff]

theorem Carries.trustsMethod_iff :
    right.TrustsMethod (moves.procedure id) rightProcedure ↔
      left.TrustsMethod id leftProcedure := by
  simp only [TrustsMethod, carries.isStatic, carries.trusts_iff same]

theorem Carries.guarded_iff :
    right.Guarded (moves.procedure id) rightProcedure ↔
      left.Guarded id leftProcedure := by
  simp only [Guarded, carries.isSynchronized, carries.trustsMethod_iff same]

theorem Carries.exposed_iff :
    right.Exposed (moves.procedure id) rightProcedure ↔
      left.Exposed id leftProcedure := by
  simp only [Exposed, carries.isSynchronized, carries.trustsMethod_iff same]

theorem Carries.ofPlatform_iff :
    right.OfPlatform rightProcedure.className ↔
      left.OfPlatform leftProcedure.className := by
  rw [carries.heading.className, same.ofPlatform_iff]

theorem Carries.covered_iff {index : Nat}
    (inRange : index < leftProcedure.code.length) :
    right.Covered (moves.procedure id) rightProcedure
        (moves.index id index) ↔
      left.Covered id leftProcedure index := by
  constructor
  · intro covered
    obtain ⟨enter, lock, entered, trusted, inside⟩ := covered
    obtain ⟨origin, there, enteredThere⟩ :=
      carries.operation?_origin rfl entered
    subst there
    have enterInRange := Procedure.lt_of_operation? enteredThere
    exact ⟨origin, lock, enteredThere, (carries.trusts_iff same).mp trusted,
      (carries.inBlock origin index enterInRange inRange).mp inside⟩
  · intro covered
    obtain ⟨enter, lock, entered, trusted, inside⟩ := covered
    have enterInRange := Procedure.lt_of_operation? entered
    exact ⟨moves.index id enter, lock, carries.operation?_moved entered,
      (carries.trusts_iff same).mpr trusted,
      (carries.inBlock enter index enterInRange inRange).mpr inside⟩

theorem Carries.sharedWrite_iff {operation : Operation} :
    right.SharedWrite (moves.procedure id) operation ↔
      left.SharedWrite id operation := by
  constructor
  · exact same.symm.sharedWrite fun _ _ => carries.localMayHold_iff.mp
  · exact same.sharedWrite fun _ _ => carries.localMayHold_iff.mpr

theorem Carries.writeFault_iff {operation : Operation} {error : AuditError} :
    right.WriteFault rightProcedure operation error ↔
      left.WriteFault leftProcedure operation error :=
  ⟨same.symm.writeFault carries.heading.symm, same.writeFault carries.heading⟩

theorem Carries.modifies_iff {operation : Operation} {name : String} :
    right.Modifies (moves.procedure id) operation name ↔
      left.Modifies id operation name := by
  constructor
  · exact same.symm.modifies fun _ _ => carries.localMayHold_iff.mp
  · exact same.modifies fun _ _ => carries.localMayHold_iff.mpr

end Procedures

theorem SharedWrite.busy {program : Program} {id : ProcedureId}
    {operation : Operation} (shared : program.SharedWrite id operation) :
    operation.isIdle = false := by
  cases shared with
  | static => rfl
  | object => rfl

theorem WriteFault.busy {program : Program} {procedure : Procedure}
    {operation : Operation} {error : AuditError}
    (fault : program.WriteFault procedure operation error) :
    operation.isIdle = false := by
  cases fault with
  | unresolved => rfl
  | noReceiver => rfl

theorem Modifies.busy {program : Program} {id : ProcedureId}
    {operation : Operation} {name : String}
    (modifies : program.Modifies id operation name) :
    operation.isIdle = false := by
  cases modifies with
  | static => rfl
  | holder => rfl

section Programs

variable {left right : Program} {moves : Relocation}
  (relocates : left.Relocates right moves)

include relocates

theorem Relocates.exists_origin {id : ProcedureId} {rightProcedure : Procedure}
    (found : right.procedure? id = some rightProcedure) :
    ∃ origin leftProcedure, moves.procedure origin = id ∧
      left.procedure? origin = some leftProcedure ∧
      left.Carries right moves origin leftProcedure rightProcedure := by
  obtain ⟨origin, leftProcedure, there, leftFound⟩ :=
    relocates.origin id rightProcedure found
  subst there
  obtain ⟨other, alsoFound, carries⟩ :=
    relocates.moved origin leftProcedure leftFound
  cases found.symm.trans alsoFound
  exact ⟨origin, leftProcedure, rfl, leftFound, carries⟩

/-- An instruction that is not idle comes from an old place. -/
theorem Relocates.exists_operation_origin {place : InstructionRef}
    {rightProcedure : Procedure} {operation : Operation}
    (found : right.procedure? place.procedure = some rightProcedure)
    (listed : rightProcedure.operation? place.index = some operation)
    (busy : operation.isIdle = false) :
    ∃ origin leftProcedure, moves.place origin = place ∧
      left.procedure? origin.procedure = some leftProcedure ∧
      leftProcedure.operation? origin.index = some operation ∧
      left.Carries right moves origin.procedure leftProcedure
        rightProcedure := by
  obtain ⟨procedure, leftProcedure, there, leftFound, carries⟩ :=
    relocates.exists_origin found
  obtain ⟨index, thereIndex, leftListed⟩ :=
    carries.operation?_origin busy listed
  exact ⟨⟨procedure, index⟩, leftProcedure,
    congrArg₂ InstructionRef.mk there thereIndex, leftFound, leftListed,
    carries⟩

theorem Relocates.unguarded_moved {place : InstructionRef}
    {leftProcedure : Procedure} {operation : Operation}
    (bare : left.Unguarded place leftProcedure operation) :
    ∃ rightProcedure,
      right.Unguarded (moves.place place) rightProcedure operation ∧
        left.Carries right moves place.procedure leftProcedure
          rightProcedure := by
  obtain ⟨rightProcedure, found, carries⟩ :=
    relocates.moved place.procedure leftProcedure bare.found
  have inRange := Procedure.lt_of_operation? bare.listed
  have same := relocates.toSameLookups
  exact ⟨rightProcedure,
    ⟨found, mt (carries.ofPlatform_iff same).mp bare.audited,
      mt (carries.guarded_iff same).mp bare.unguarded,
      carries.operation?_moved bare.listed,
      mt (carries.covered_iff same inRange).mp bare.uncovered⟩, carries⟩

theorem Relocates.unguarded_origin {place : InstructionRef}
    {rightProcedure : Procedure} {operation : Operation}
    (busy : operation.isIdle = false)
    (bare : right.Unguarded place rightProcedure operation) :
    ∃ origin leftProcedure, moves.place origin = place ∧
      left.Unguarded origin leftProcedure operation ∧
      left.Carries right moves origin.procedure leftProcedure
        rightProcedure := by
  obtain ⟨origin, leftProcedure, there, found, listed, carries⟩ :=
    relocates.exists_operation_origin bare.found bare.listed busy
  subst there
  have inRange := Procedure.lt_of_operation? listed
  have same := relocates.toSameLookups
  exact ⟨origin, leftProcedure, rfl,
    ⟨found, mt (carries.ofPlatform_iff same).mpr bare.audited,
      mt (carries.guarded_iff same).mpr bare.unguarded, listed,
      mt (carries.covered_iff same inRange).mpr bare.uncovered⟩, carries⟩

theorem Relocates.seeded_iff {place : InstructionRef} :
    right.Seeded place ↔
      ∃ origin, moves.place origin = place ∧ left.Seeded origin := by
  have same := relocates.toSameLookups
  constructor
  · intro seeded
    obtain ⟨rightProcedure, operation, bare, shared⟩ := seeded
    obtain ⟨origin, leftProcedure, there, leftBare, carries⟩ :=
      relocates.unguarded_origin shared.busy bare
    subst there
    exact ⟨origin, rfl, leftProcedure, operation, leftBare,
      (carries.sharedWrite_iff same).mp shared⟩
  · intro seeded
    obtain ⟨origin, there, leftProcedure, operation, bare, shared⟩ := seeded
    subst there
    obtain ⟨rightProcedure, rightBare, carries⟩ :=
      relocates.unguarded_moved bare
    exact ⟨rightProcedure, operation, rightBare,
      (carries.sharedWrite_iff same).mpr shared⟩

theorem Relocates.faulty_iff {place : InstructionRef} {error : AuditError} :
    right.Faulty place error ↔
      ∃ origin, moves.place origin = place ∧ left.Faulty origin error := by
  have same := relocates.toSameLookups
  constructor
  · intro faulty
    obtain ⟨rightProcedure, operation, bare, fault⟩ := faulty
    obtain ⟨origin, leftProcedure, there, leftBare, carries⟩ :=
      relocates.unguarded_origin fault.busy bare
    exact ⟨origin, there, leftProcedure, operation, leftBare,
      (carries.writeFault_iff same).mp fault⟩
  · intro faulty
    obtain ⟨origin, there, leftProcedure, operation, bare, fault⟩ := faulty
    subst there
    obtain ⟨rightProcedure, rightBare, carries⟩ :=
      relocates.unguarded_moved bare
    exact ⟨rightProcedure, operation, rightBare,
      (carries.writeFault_iff same).mpr fault⟩

theorem Relocates.modifiesAt_iff {place : InstructionRef} {name : String} :
    right.ModifiesAt (moves.place place) name ↔
      left.ModifiesAt place name := by
  have same := relocates.toSameLookups
  constructor
  · intro modified
    obtain ⟨rightProcedure, operation, found, listed, modifies⟩ := modified
    obtain ⟨origin, leftProcedure, there, leftFound, leftListed, carries⟩ :=
      relocates.exists_operation_origin found listed modifies.busy
    cases moves.place_injective there
    exact ⟨leftProcedure, operation, leftFound, leftListed,
      (carries.modifies_iff same).mp modifies⟩
  · intro modified
    obtain ⟨leftProcedure, operation, found, listed, modifies⟩ := modified
    obtain ⟨rightProcedure, rightFound, carries⟩ :=
      relocates.moved place.procedure leftProcedure found
    exact ⟨rightProcedure, operation, rightFound,
      carries.operation?_moved listed, (carries.modifies_iff same).mpr modifies⟩

theorem Relocates.calls_iff {caller target : ProcedureId} :
    right.Calls (moves.procedure caller) target ↔
      ∃ callee, moves.procedure callee = target ∧
        left.Calls caller callee := by
  simp only [Calls, relocates.calls]
  constructor
  · intro called
    obtain ⟨site, callee, there, calls⟩ := called
    exact ⟨callee, there, site, calls⟩
  · intro called
    obtain ⟨callee, there, site, calls⟩ := called
    exact ⟨site, callee, there, calls⟩

/-- Calls lead from a procedure to the new places of those that it reached
before. -/
theorem Relocates.reflTransGen_calls_iff {caller target : ProcedureId} :
    Relation.ReflTransGen right.Calls (moves.procedure caller) target ↔
      ∃ callee, moves.procedure callee = target ∧
        Relation.ReflTransGen left.Calls caller callee := by
  constructor
  · intro path
    induction path with
    | refl => exact ⟨caller, rfl, .refl⟩
    | tail _ call induction =>
        obtain ⟨between, there, leftPath⟩ := induction
        subst there
        obtain ⟨callee, reached, leftCall⟩ := relocates.calls_iff.mp call
        exact ⟨callee, reached, leftPath.tail leftCall⟩
  · intro path
    obtain ⟨callee, there, path⟩ := path
    subst there
    induction path with
    | refl => exact .refl
    | tail _ call induction =>
        exact induction.tail (relocates.calls_iff.mpr ⟨_, rfl, call⟩)

theorem Relocates.performs_iff {id : ProcedureId} {place : InstructionRef} :
    right.Performs (moves.procedure id) place ↔
      ∃ origin, moves.place origin = place ∧ left.Performs id origin := by
  simp only [Performs, relocates.reflTransGen_calls_iff, relocates.seeded_iff]
  constructor
  · intro performs
    obtain ⟨⟨callee, there, path⟩, origin, moved, seeded⟩ := performs
    subst moved
    cases moves.procedure.injective there
    exact ⟨origin, rfl, path, seeded⟩
  · intro performs
    obtain ⟨origin, moved, path, seeded⟩ := performs
    subst moved
    exact ⟨⟨origin.procedure, rfl, path⟩, origin, rfl, seeded⟩

theorem Relocates.performsIn_iff {enter : InstructionRef}
    {leftProcedure rightProcedure : Procedure}
    (carries : left.Carries right moves enter.procedure leftProcedure
      rightProcedure)
    (found : left.procedure? enter.procedure = some leftProcedure)
    (inRange : enter.index < leftProcedure.code.length)
    {place : InstructionRef} :
    right.PerformsIn (moves.place enter) rightProcedure place ↔
      ∃ origin, moves.place origin = place ∧
        left.PerformsIn enter leftProcedure origin := by
  have same := relocates.toSameLookups
  constructor
  · intro performs
    cases performs with
    | own sameProcedure inside seeded =>
        obtain ⟨origin, there, leftSeeded⟩ := relocates.seeded_iff.mp seeded
        subst there
        have here := moves.procedure.injective sameProcedure
        have originInRange := leftSeeded.lt_length (here ▸ found)
        rw [Relocation.place, Relocation.place, here] at inside
        exact ⟨origin, rfl, .own here
          ((carries.inBlock _ _ inRange originInRange).mp inside) leftSeeded⟩
    | called inside invoked uncovered calls performs =>
        obtain ⟨index, there, leftInvoked⟩ :=
          carries.operation?_origin rfl invoked
        subst there
        have indexInRange := Procedure.lt_of_operation? leftInvoked
        obtain ⟨callee, reached, leftCalls⟩ :=
          (relocates.calls _ _ _).mp calls
        subst reached
        obtain ⟨origin, moved, leftPerforms⟩ := relocates.performs_iff.mp performs
        exact ⟨origin, moved, .called
          ((carries.inBlock _ _ inRange indexInRange).mp inside) leftInvoked
          (mt (carries.covered_iff same indexInRange).mpr uncovered) leftCalls
          leftPerforms⟩
  · intro performs
    obtain ⟨origin, there, performs⟩ := performs
    subst there
    cases performs with
    | own sameProcedure inside seeded =>
        have originInRange := seeded.lt_length (sameProcedure ▸ found)
        refine .own (congrArg moves.procedure sameProcedure) ?_
          (relocates.seeded_iff.mpr ⟨origin, rfl, seeded⟩)
        rw [Relocation.place, Relocation.place, sameProcedure]
        exact (carries.inBlock _ _ inRange originInRange).mpr inside
    | called inside invoked uncovered calls performs =>
        have indexInRange := Procedure.lt_of_operation? invoked
        exact .called ((carries.inBlock _ _ inRange indexInRange).mpr inside)
          (carries.operation?_moved invoked)
          (mt (carries.covered_iff same indexInRange).mp uncovered)
          ((relocates.calls _ _ _).mpr ⟨_, rfl, calls⟩)
          (relocates.performs_iff.mpr ⟨origin, rfl, performs⟩)

theorem Relocates.exposedBlock_moved {enter : InstructionRef}
    {leftProcedure : Procedure} {lock : ValueNumber}
    (exposed : left.ExposedBlock enter leftProcedure lock) :
    ∃ rightProcedure,
      right.ExposedBlock (moves.place enter) rightProcedure lock ∧
        left.Carries right moves enter.procedure leftProcedure
          rightProcedure := by
  obtain ⟨rightProcedure, found, carries⟩ :=
    relocates.moved enter.procedure leftProcedure exposed.found
  have same := relocates.toSameLookups
  exact ⟨rightProcedure,
    ⟨found, mt (carries.ofPlatform_iff same).mp exposed.audited,
      carries.operation?_moved exposed.entered,
      mt (carries.trusts_iff same).mp exposed.untrusted⟩, carries⟩

theorem Relocates.exposedBlock_origin {enter : InstructionRef}
    {rightProcedure : Procedure} {lock : ValueNumber}
    (exposed : right.ExposedBlock enter rightProcedure lock) :
    ∃ origin leftProcedure, moves.place origin = enter ∧
      left.ExposedBlock origin leftProcedure lock ∧
      left.Carries right moves origin.procedure leftProcedure
        rightProcedure := by
  obtain ⟨origin, leftProcedure, there, found, entered, carries⟩ :=
    relocates.exists_operation_origin exposed.found exposed.entered rfl
  subst there
  have same := relocates.toSameLookups
  exact ⟨origin, leftProcedure, rfl,
    ⟨found, mt (carries.ofPlatform_iff same).mpr exposed.audited, entered,
      mt (carries.trusts_iff same).mpr exposed.untrusted⟩, carries⟩

theorem Relocates.exposedMethod_moved {id : ProcedureId}
    {leftProcedure : Procedure}
    (exposed : left.ExposedMethod id leftProcedure) :
    ∃ rightProcedure,
      right.ExposedMethod (moves.procedure id) rightProcedure ∧
        left.Carries right moves id leftProcedure rightProcedure := by
  obtain ⟨rightProcedure, found, carries⟩ :=
    relocates.moved id leftProcedure exposed.found
  have same := relocates.toSameLookups
  exact ⟨rightProcedure,
    ⟨found, mt (carries.ofPlatform_iff same).mp exposed.audited,
      (carries.exposed_iff same).mpr exposed.exposed⟩, carries⟩

theorem Relocates.exposedMethod_origin {id : ProcedureId}
    {rightProcedure : Procedure}
    (exposed : right.ExposedMethod id rightProcedure) :
    ∃ origin leftProcedure, moves.procedure origin = id ∧
      left.ExposedMethod origin leftProcedure := by
  obtain ⟨origin, leftProcedure, there, found, carries⟩ :=
    relocates.exists_origin exposed.found
  subst there
  have same := relocates.toSameLookups
  exact ⟨origin, leftProcedure, rfl, found,
    mt (carries.ofPlatform_iff same).mpr exposed.audited,
    (carries.exposed_iff same).mp exposed.exposed⟩

theorem Relocates.hasExposedRegion_iff :
    right.HasExposedRegion ↔ left.HasExposedRegion := by
  constructor
  · intro region
    rcases region with ⟨enter, procedure, lock, exposed⟩ |
      ⟨id, procedure, exposed⟩
    · obtain ⟨origin, leftProcedure, _, leftExposed, _⟩ :=
        relocates.exposedBlock_origin exposed
      exact .inl ⟨origin, leftProcedure, lock, leftExposed⟩
    · obtain ⟨origin, leftProcedure, _, leftExposed⟩ :=
        relocates.exposedMethod_origin exposed
      exact .inr ⟨origin, leftProcedure, leftExposed⟩
  · intro region
    rcases region with ⟨enter, procedure, lock, exposed⟩ |
      ⟨id, procedure, exposed⟩
    · obtain ⟨rightProcedure, rightExposed, _⟩ :=
        relocates.exposedBlock_moved exposed
      exact .inl ⟨_, rightProcedure, lock, rightExposed⟩
    · obtain ⟨rightProcedure, rightExposed, _⟩ :=
        relocates.exposedMethod_moved exposed
      exact .inr ⟨_, rightProcedure, rightExposed⟩

theorem Relocates.reportsBlock_iff {enter : InstructionRef} :
    right.ReportsBlock enter ↔
      ∃ origin, moves.place origin = enter ∧ left.ReportsBlock origin := by
  have same := relocates.toSameLookups
  constructor
  · intro reports
    obtain ⟨rightProcedure, lock, exposed, unguarded, place, performs⟩ :=
      reports
    obtain ⟨origin, leftProcedure, there, leftExposed, carries⟩ :=
      relocates.exposedBlock_origin exposed
    subst there
    have inRange := Procedure.lt_of_operation? leftExposed.entered
    obtain ⟨write, _, leftPerforms⟩ :=
      (relocates.performsIn_iff carries leftExposed.found inRange).mp performs
    exact ⟨origin, rfl, leftProcedure, lock, leftExposed,
      mt (carries.guarded_iff same).mpr unguarded, write, leftPerforms⟩
  · intro reports
    obtain ⟨origin, there, leftProcedure, lock, exposed, unguarded, place,
      performs⟩ := reports
    subst there
    obtain ⟨rightProcedure, rightExposed, carries⟩ :=
      relocates.exposedBlock_moved exposed
    have inRange := Procedure.lt_of_operation? exposed.entered
    have rightPerforms :=
      (relocates.performsIn_iff carries exposed.found inRange).mpr
        ⟨place, rfl, performs⟩
    exact ⟨rightProcedure, lock, rightExposed,
      mt (carries.guarded_iff same).mp unguarded, _, rightPerforms⟩

theorem Relocates.reportsMethod_iff {id : ProcedureId} :
    right.ReportsMethod id ↔
      ∃ origin, moves.procedure origin = id ∧ left.ReportsMethod origin := by
  constructor
  · intro reports
    obtain ⟨rightProcedure, exposed, place, performs⟩ := reports
    obtain ⟨origin, leftProcedure, there, leftExposed⟩ :=
      relocates.exposedMethod_origin exposed
    subst there
    obtain ⟨write, _, leftPerforms⟩ := relocates.performs_iff.mp performs
    exact ⟨origin, rfl, leftProcedure, leftExposed, write, leftPerforms⟩
  · intro reports
    obtain ⟨origin, there, leftProcedure, exposed, place, performs⟩ := reports
    subst there
    obtain ⟨rightProcedure, rightExposed, _⟩ :=
      relocates.exposedMethod_moved exposed
    exact ⟨rightProcedure, rightExposed, _,
      relocates.performs_iff.mpr ⟨place, rfl, performs⟩⟩

/-- A finding describes a region wherever it stands: the fields of a write do
not depend on its place. -/
theorem Relocates.describes {kind : RegionKind}
    {position otherPosition : Option CodePosition}
    (samePosition : otherPosition = position)
    {performed otherPerformed : InstructionRef → Prop}
    (performs_iff : ∀ place, otherPerformed place ↔
      ∃ origin, moves.place origin = place ∧ performed origin)
    {finding : Finding}
    (describes : left.Describes kind position performed finding) :
    right.Describes kind otherPosition otherPerformed finding where
  pattern := describes.pattern
  region := describes.region
  position := samePosition.trans describes.position
  fields := by
    intro name
    rw [describes.fields]
    constructor
    · intro modified
      obtain ⟨place, performs, modifies⟩ := modified
      exact ⟨moves.place place, (performs_iff _).mpr ⟨place, rfl, performs⟩,
        relocates.modifiesAt_iff.mpr modifies⟩
    · intro modified
      obtain ⟨place, performs, modifies⟩ := modified
      obtain ⟨origin, there, performsHere⟩ := (performs_iff place).mp performs
      subst there
      exact ⟨origin, performsHere, relocates.modifiesAt_iff.mp modifies⟩

theorem Relocates.describesBlock {enter : InstructionRef} {finding : Finding}
    (reports : left.ReportsBlock enter)
    (describes : left.DescribesBlock enter finding) :
    right.DescribesBlock (moves.place enter) finding := by
  obtain ⟨leftProcedure, lock, exposed, _⟩ := reports
  obtain ⟨other, alsoFound, describes⟩ := describes
  cases exposed.found.symm.trans alsoFound
  obtain ⟨rightProcedure, rightExposed, carries⟩ :=
    relocates.exposedBlock_moved exposed
  have inRange := Procedure.lt_of_operation? exposed.entered
  have sameLine : rightProcedure.code[(moves.place enter).index]?.bind
      (·.line) = leftProcedure.code[enter.index]?.bind (·.line) := by
    have listed := List.getElem?_eq_getElem inRange
    rw [listed, Relocation.place, carries.moved _ _ listed]
  refine ⟨rightProcedure, rightExposed.found,
    relocates.describes ?_ ?_ describes⟩
  · exact relocates.instructionPosition?_eq carries.heading exposed.found
      rightExposed.found sameLine
  · intro place
    exact relocates.performsIn_iff carries exposed.found inRange

theorem Relocates.describesMethod {id : ProcedureId} {finding : Finding}
    (reports : left.ReportsMethod id)
    (describes : left.DescribesMethod id finding) :
    right.DescribesMethod (moves.procedure id) finding := by
  obtain ⟨leftProcedure, exposed, _⟩ := reports
  obtain ⟨rightProcedure, rightExposed, carries⟩ :=
    relocates.exposedMethod_moved exposed
  apply relocates.describes ?_ (fun _ => relocates.performs_iff) describes
  exact relocates.procedurePosition?_eq carries.heading exposed.found
    rightExposed.found

theorem Relocates.forall₂_describesBlock {blocks : List InstructionRef}
    {findings : List Finding}
    (reported : ∀ enter ∈ blocks, left.ReportsBlock enter)
    (described : List.Forall₂ left.DescribesBlock blocks findings) :
    List.Forall₂ right.DescribesBlock (blocks.map moves.place) findings := by
  rw [List.forall₂_map_left_iff]
  have both := (List.forall₂_and_left _ _).mpr ⟨reported, described⟩
  apply both.imp
  intro enter finding both
  exact relocates.describesBlock both.1 both.2

theorem Relocates.forall₂_describesMethod {methods : List ProcedureId}
    {findings : List Finding}
    (reported : ∀ id ∈ methods, left.ReportsMethod id)
    (described : List.Forall₂ left.DescribesMethod methods findings) :
    List.Forall₂ right.DescribesMethod (methods.map moves.procedure)
      findings := by
  rw [List.forall₂_map_left_iff]
  have both := (List.forall₂_and_left _ _).mpr ⟨reported, described⟩
  apply both.imp
  intro id finding both
  exact relocates.describesMethod both.1 both.2

theorem Relocates.mem_map_place {blocks : SortedSet InstructionRef}
    (reported : ∀ enter, enter ∈ blocks ↔ left.ReportsBlock enter)
    (enter : InstructionRef) :
    enter ∈ blocks.toList.map moves.place ↔ right.ReportsBlock enter := by
  rw [List.mem_map, relocates.reportsBlock_iff]
  simp only [SortedSet.mem_toList, reported, and_comm]

theorem Relocates.mem_map_procedure {methods : SortedSet ProcedureId}
    (reported : ∀ id, id ∈ methods ↔ left.ReportsMethod id)
    (id : ProcedureId) :
    id ∈ methods.toList.map moves.procedure ↔ right.ReportsMethod id := by
  rw [List.mem_map, relocates.reportsMethod_iff]
  simp only [SortedSet.mem_toList, reported, and_comm]

/-- The findings are the same up to their order. -/
theorem Relocates.explains_perm {findings others : List Finding}
    (explains : left.Explains findings)
    (otherExplains : right.Explains others) : others.Perm findings := by
  obtain ⟨blocks, methods, blockFindings, methodFindings, reportedBlocks,
    reportedMethods, describedBlocks, describedMethods, made⟩ := explains
  obtain ⟨otherBlocks, otherMethods, otherBlockFindings, otherMethodFindings,
    otherReportedBlocks, otherReportedMethods, otherDescribedBlocks,
    otherDescribedMethods, otherMade⟩ := otherExplains
  have blocksArranged :
      otherBlocks.toList.Perm (blocks.toList.map moves.place) := by
    apply (List.perm_ext_iff_of_nodup otherBlocks.nodup_toList
      (blocks.nodup_toList.map moves.place_injective)).mpr
    intro enter
    rw [relocates.mem_map_place reportedBlocks]
    exact otherReportedBlocks enter
  have methodsArranged :
      otherMethods.toList.Perm (methods.toList.map moves.procedure) := by
    apply (List.perm_ext_iff_of_nodup otherMethods.nodup_toList
      (methods.nodup_toList.map moves.procedure.injective)).mpr
    intro id
    rw [relocates.mem_map_procedure reportedMethods]
    exact otherReportedMethods id
  rw [made, otherMade]
  apply List.Perm.append
  · exact perm_of_forall₂ right.rightUnique_describesBlock blocksArranged
      (relocates.forall₂_describesBlock
        (fun enter => (reportedBlocks enter).mp) describedBlocks)
      otherDescribedBlocks
  · exact perm_of_forall₂ right.rightUnique_describesMethod methodsArranged
      (relocates.forall₂_describesMethod
        (fun id => (reportedMethods id).mp) describedMethods)
      otherDescribedMethods

end Programs

section Audits

variable {left right : Program} {moves : Relocation}
  (relocates : left.Relocates right moves) (accepted : left.Accepted)
  (rightAccepted : right.Accepted)

include relocates accepted rightAccepted

/-- At new places an audit that is not stopped still succeeds, or fails. -/
theorem Relocates.audit_succeeds_iff {signal : StopSignal}
    (silent : signal.Silent) :
    (∃ outcome, right.audit right.callGraph signal = .ok outcome) ↔
      ∃ outcome, left.audit left.callGraph signal = .ok outcome := by
  constructor
  · intro succeeded
    obtain ⟨outcome, success⟩ := succeeded
    apply accepted.audit_succeeds silent
    intro region place error faulty
    have rightRegion := relocates.hasExposedRegion_iff.mpr region
    exact rightAccepted.not_faulty_of_audit_ok success rightRegion _ error
      (relocates.faulty_iff.mpr ⟨place, rfl, faulty⟩)
  · intro succeeded
    obtain ⟨outcome, success⟩ := succeeded
    apply rightAccepted.audit_succeeds silent
    intro region place error faulty
    have leftRegion := relocates.hasExposedRegion_iff.mp region
    obtain ⟨origin, _, leftFaulty⟩ := relocates.faulty_iff.mp faulty
    exact accepted.not_faulty_of_audit_ok success leftRegion origin error
      leftFaulty

variable {signal rightSignal : StopSignal} {outcome rightOutcome : Audit}
  (success : left.audit left.callGraph signal = .ok outcome)
  (rightSuccess : right.audit right.callGraph rightSignal = .ok rightOutcome)

include success rightSuccess

theorem Relocates.reach_eq_none_iff :
    rightOutcome.reach = none ↔ outcome.reach = none := by
  have exposed := relocates.hasExposedRegion_iff
  rcases (accepted.concludes success).reach with
    ⟨noRegion, idle⟩ | ⟨region, reach, reached, _⟩
  · rcases (rightAccepted.concludes rightSuccess).reach with
      ⟨_, rightIdle⟩ | ⟨rightRegion, _⟩
    · simp [idle, rightIdle]
    · exact (noRegion (exposed.mp rightRegion)).elim
  · rcases (rightAccepted.concludes rightSuccess).reach with
      ⟨noRightRegion, _⟩ | ⟨_, rightReach, rightReached, _⟩
    · exact (noRightRegion (exposed.mpr region)).elim
    · simp [reached, rightReached]

/-- A write is reached at its new place from the procedures that reached it
before. -/
theorem Relocates.mem_writes_iff {reach rightReach : Reach}
    (reached : outcome.reach = some reach)
    (rightReached : rightOutcome.reach = some rightReach) {id : ProcedureId}
    {place : InstructionRef} :
    moves.place place ∈ rightReach.writes (moves.procedure id) ↔
      place ∈ reach.writes id := by
  have knows := (accepted.concludes success).knows reached
  have rightKnows := (rightAccepted.concludes rightSuccess).knows rightReached
  rw [knows.writes, rightKnows.writes, relocates.performs_iff]
  constructor
  · intro performs
    obtain ⟨origin, there, performs⟩ := performs
    cases moves.place_injective there
    exact performs
  · intro performs
    exact ⟨place, rfl, performs⟩

theorem Relocates.findings_perm :
    rightOutcome.findings.Perm outcome.findings :=
  relocates.explains_perm (accepted.concludes success).explains
    (rightAccepted.concludes rightSuccess).explains

end Audits

end Program

end LockAudit
