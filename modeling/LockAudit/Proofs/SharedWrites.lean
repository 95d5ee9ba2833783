import LockAudit.Proofs.TrustedLocks
import LockAudit.Write.Target

/-!
# What writes do

A write of a field modifies a static field or an object, or cannot be told.
The rules for each are stated once; the verdict on a write, its error and the
names of the fields it modifies are all read off from them.
-/

namespace LockAudit

namespace Program

/-- A write whose target cannot be told, and the error that says so. -/
inductive WriteFault (program : Program) (procedure : Procedure) :
    Operation → AuditError → Prop where
  | unresolved {field : FieldReference} {receiver : Option ValueNumber} :
      program.resolveField field = none →
      WriteFault program procedure (.fieldWrite field receiver)
        (.unresolvedField field procedure.signature)
  | noReceiver {field : FieldReference} {resolved : ResolvedField} :
      program.resolveField field = some resolved →
      resolved.declaration.isStatic = false →
      WriteFault program procedure (.fieldWrite field none)
        (.missingReceiver field procedure.signature)

/-- A write of global state: of a static field that is neither final nor the
platform's, or of an object that may be a global one. -/
inductive SharedWrite (program : Program) (id : ProcedureId) :
    Operation → Prop where
  | static {field : FieldReference} {receiver : Option ValueNumber}
      {resolved : ResolvedField} :
      program.resolveField field = some resolved →
      resolved.declaration.isStatic = true →
      resolved.declaration.isFinal = false →
      ¬program.OfPlatform resolved.className →
      SharedWrite program id (.fieldWrite field receiver)
  | object {field : FieldReference} {receiver : ValueNumber}
      {resolved : ResolvedField} {object : InstanceKey} :
      program.resolveField field = some resolved →
      resolved.declaration.isStatic = false →
      program.LocalMayHold id receiver object →
      program.Global object →
      SharedWrite program id (.fieldWrite field (some receiver))

/-- The static fields that a write is reported to modify: the one that it
writes, or those that may hold the object that it writes. -/
inductive Modifies (program : Program) (id : ProcedureId) :
    Operation → String → Prop where
  | static {field : FieldReference} {receiver : Option ValueNumber}
      {resolved : ResolvedField} :
      program.resolveField field = some resolved →
      resolved.declaration.isStatic = true →
      Modifies program id (.fieldWrite field receiver)
        (qualifiedName resolved.className resolved.declaration.name)
  | holder {field : FieldReference} {receiver : ValueNumber}
      {resolved : ResolvedField} {className fieldName : String}
      {object : InstanceKey} :
      program.resolveField field = some resolved →
      resolved.declaration.isStatic = false →
      program.AuditedStatic className fieldName →
      program.StaticMayHold className fieldName object →
      program.LocalMayHold id receiver object →
      Modifies program id (.fieldWrite field (some receiver))
        (qualifiedName className fieldName)

theorem WriteFault.unique {program : Program} {procedure : Procedure}
    {operation : Operation} {left right : AuditError}
    (leftFault : program.WriteFault procedure operation left)
    (rightFault : program.WriteFault procedure operation right) :
    left = right := by
  cases leftFault with
  | unresolved unknown =>
      cases rightFault with
      | unresolved => rfl
      | noReceiver found => simp [unknown] at found
  | noReceiver found =>
      cases rightFault with
      | unresolved unknown => simp [unknown] at found
      | noReceiver => rfl

/-- The four ways in which looking for the target of a write can end. -/
inductive TargetSought (program : Program) (procedure : Procedure)
    (field : FieldReference) :
    Option ValueNumber → Except AuditError WriteTarget → Prop where
  | unresolved {receiver : Option ValueNumber} :
      program.resolveField field = none →
      TargetSought program procedure field receiver
        (.error (.unresolvedField field procedure.signature))
  | static {receiver : Option ValueNumber} {resolved : ResolvedField} :
      program.resolveField field = some resolved →
      resolved.declaration.isStatic = true →
      TargetSought program procedure field receiver
        (.ok (.staticField
          ⟨resolved.className, resolved.declaration.name,
            resolved.declaration.isFinal⟩))
  | object {receiver : ValueNumber} {resolved : ResolvedField} :
      program.resolveField field = some resolved →
      resolved.declaration.isStatic = false →
      TargetSought program procedure field (some receiver)
        (.ok (.fieldOf receiver))
  | noReceiver {resolved : ResolvedField} :
      program.resolveField field = some resolved →
      resolved.declaration.isStatic = false →
      TargetSought program procedure field none
        (.error (.missingReceiver field procedure.signature))

theorem targetSought_writeTarget (program : Program) (procedure : Procedure)
    (field : FieldReference) (receiver : Option ValueNumber) :
    program.TargetSought procedure field receiver
      (program.writeTarget procedure field receiver) := by
  unfold writeTarget
  cases found : program.resolveField field with
  | none => exact .unresolved found
  | some resolved =>
      cases static : resolved.declaration.isStatic with
      | true =>
          simp only [static, if_true]
          exact .static found static
      | false =>
          simp only [static, Bool.false_eq_true, if_false]
          cases receiver with
          | none => exact .noReceiver found static
          | some receiver => exact .object found static

section Found

variable {program : Program} {procedure : Procedure} {id : ProcedureId}
  {field : FieldReference} {resolved : ResolvedField}

theorem not_writeFault_of_static
    (found : program.resolveField field = some resolved)
    (static : resolved.declaration.isStatic = true)
    (receiver : Option ValueNumber) (error : AuditError) :
    ¬program.WriteFault procedure (.fieldWrite field receiver) error := by
  intro fault
  cases fault with
  | unresolved unknown => simp [unknown] at found
  | noReceiver found' notStatic =>
      cases found.symm.trans found'
      simp [static] at notStatic

theorem not_writeFault_of_receiver
    (found : program.resolveField field = some resolved)
    (receiver : ValueNumber) (error : AuditError) :
    ¬program.WriteFault procedure (.fieldWrite field (some receiver))
      error := by
  intro fault
  cases fault with
  | unresolved unknown => simp [unknown] at found

theorem sharedWrite_static_iff
    (found : program.resolveField field = some resolved)
    (static : resolved.declaration.isStatic = true)
    {receiver : Option ValueNumber} :
    program.SharedWrite id (.fieldWrite field receiver) ↔
      resolved.declaration.isFinal = false ∧
        ¬program.OfPlatform resolved.className := by
  constructor
  · intro shared
    cases shared with
    | static found' _ notFinal audited =>
        cases found.symm.trans found'
        exact ⟨notFinal, audited⟩
    | object found' notStatic =>
        cases found.symm.trans found'
        simp [static] at notStatic
  · intro shared
    obtain ⟨notFinal, audited⟩ := shared
    exact .static found static notFinal audited

theorem sharedWrite_object_iff
    (found : program.resolveField field = some resolved)
    (notStatic : resolved.declaration.isStatic = false)
    {receiver : ValueNumber} :
    program.SharedWrite id (.fieldWrite field (some receiver)) ↔
      ∃ object, program.LocalMayHold id receiver object ∧
        program.Global object := by
  constructor
  · intro shared
    cases shared with
    | static found' static =>
        cases found.symm.trans found'
        simp [static] at notStatic
    | object _ _ held global => exact ⟨_, held, global⟩
  · intro shared
    obtain ⟨object, held, global⟩ := shared
    exact .object found notStatic held global

theorem modifies_static_iff
    (found : program.resolveField field = some resolved)
    (static : resolved.declaration.isStatic = true)
    {receiver : Option ValueNumber} {name : String} :
    program.Modifies id (.fieldWrite field receiver) name ↔
      name = qualifiedName resolved.className resolved.declaration.name := by
  constructor
  · intro modifies
    cases modifies with
    | static found' _ =>
        cases found.symm.trans found'
        rfl
    | holder found' notStatic =>
        cases found.symm.trans found'
        simp [static] at notStatic
  · intro same
    exact same ▸ .static found static

theorem modifies_object_iff
    (found : program.resolveField field = some resolved)
    (notStatic : resolved.declaration.isStatic = false)
    {receiver : ValueNumber} {name : String} :
    program.Modifies id (.fieldWrite field (some receiver)) name ↔
      ∃ className fieldName object,
        program.AuditedStatic className fieldName ∧
        program.StaticMayHold className fieldName object ∧
        program.LocalMayHold id receiver object ∧
        name = qualifiedName className fieldName := by
  constructor
  · intro modifies
    cases modifies with
    | static found' static =>
        cases found.symm.trans found'
        simp [static] at notStatic
    | holder _ _ audited held mayBe =>
        exact ⟨_, _, _, audited, held, mayBe, rfl⟩
  · intro modified
    obtain ⟨className, fieldName, object, audited, held, mayBe,
      same⟩ := modified
    exact same ▸ .holder found notStatic audited held mayBe

end Found

theorem SharedWrite.not_writeFault {program : Program} {id : ProcedureId}
    {operation : Operation} (shared : program.SharedWrite id operation)
    (procedure : Procedure) (error : AuditError) :
    ¬program.WriteFault procedure operation error := by
  cases shared with
  | static found static => exact not_writeFault_of_static found static _ error
  | object found => exact not_writeFault_of_receiver found _ error

/-- The verdict on an operation is an error exactly when it is a write whose
target cannot be told. -/
theorem Accepted.isSharedWrite_verdict {program : Program}
    (accepted : program.Accepted) (id : ProcedureId) (procedure : Procedure)
    (operation : Operation) :
    (∃ error,
      program.scope.isSharedWrite id procedure operation = .error error ∧
        program.WriteFault procedure operation error) ∨
    (∃ shared,
      program.scope.isSharedWrite id procedure operation = .ok shared ∧
        (shared = true ↔ program.SharedWrite id operation) ∧
        ∀ error, ¬program.WriteFault procedure operation error) := by
  cases operation with
  | fieldWrite field receiver =>
      have sought := program.targetSought_writeTarget procedure field receiver
      simp only [Scope.isSharedWrite]
      change program.TargetSought procedure field receiver
        (program.scope.program.writeTarget procedure field receiver) at sought
      generalize program.scope.program.writeTarget procedure field receiver =
        target at sought
      cases sought with
      | unresolved unknown => exact .inl ⟨_, rfl, .unresolved unknown⟩
      | noReceiver found static => exact .inl ⟨_, rfl, .noReceiver found static⟩
      | @static _ resolved found static =>
          refine .inr ⟨_, rfl, ?_, not_writeFault_of_static found static _⟩
          rw [sharedWrite_static_iff found static, ← accepted.isIgnoredClass_iff]
          simp [scope]
      | @object receiver resolved found notStatic =>
          refine .inr ⟨_, rfl, ?_, not_writeFault_of_receiver found receiver⟩
          rw [sharedWrite_object_iff found notStatic, SortedSet.meets_iff]
          simp only [accepted.mem_globals]
          simp only [scope, mem_pointsToLocal]
  | _ =>
      refine .inr ⟨false, rfl, ?_, ?_⟩
      · constructor
        · intro impossible
          cases impossible
        · intro shared
          cases shared
      · intro error fault
        cases fault

theorem Accepted.mem_holders {program : Program}
    (accepted : program.Accepted) {objects : SortedSet InstanceKey}
    {name : String} :
    name ∈ program.scope.holders objects ↔
      ∃ className fieldName object,
        program.AuditedStatic className fieldName ∧
        program.StaticMayHold className fieldName object ∧
        object ∈ objects ∧ name = qualifiedName className fieldName := by
  simp only [Scope.holders, scope, SortedSet.mem_ofList, List.mem_map,
    List.mem_filter, SortedSet.meets_iff, mem_pointsToStatic]
  constructor
  · intro holder
    obtain ⟨field, ⟨listed, object, held, member⟩, same⟩ := holder
    exact ⟨field.className, field.name, object,
      accepted.mem_staticFields.mp ⟨field, listed, rfl, rfl⟩, held, member,
      same.symm⟩
  · intro holder
    obtain ⟨className, fieldName, object, audited, held, member, same⟩ := holder
    obtain ⟨field, listed, sameClass, sameField⟩ :=
      accepted.mem_staticFields.mpr audited
    subst sameClass
    subst sameField
    exact ⟨field, ⟨listed, object, held, member⟩, same.symm⟩

/-- The names of the fields that an instruction modifies, unless it is a write
whose target cannot be told. -/
theorem Accepted.modifiedFields_verdict {program : Program}
    (accepted : program.Accepted) {place : InstructionRef}
    {procedure : Procedure} {operation : Operation}
    (found : program.procedure? place.procedure = some procedure)
    (listed : procedure.operation? place.index = some operation) :
    (∃ error, program.scope.modifiedFields place = .error error ∧
      program.WriteFault procedure operation error) ∨
    (∃ fields, program.scope.modifiedFields place = .ok fields ∧
      (∀ name, name ∈ fields ↔
        program.Modifies place.procedure operation name) ∧
      ∀ error, ¬program.WriteFault procedure operation error) := by
  have located : program.scope.program.procedure? place.procedure =
      some procedure := found
  simp only [Scope.modifiedFields, located, listed]
  cases operation with
  | fieldWrite field receiver =>
      have sought := program.targetSought_writeTarget procedure field receiver
      change program.TargetSought procedure field receiver
        (program.scope.program.writeTarget procedure field receiver) at sought
      simp only
      generalize program.scope.program.writeTarget procedure field receiver =
        target at sought
      cases sought with
      | unresolved unknown => exact .inl ⟨_, rfl, .unresolved unknown⟩
      | noReceiver found static => exact .inl ⟨_, rfl, .noReceiver found static⟩
      | @static _ resolved found static =>
          refine .inr ⟨_, rfl, ?_, not_writeFault_of_static found static _⟩
          intro name
          rw [modifies_static_iff found static, SortedSet.mem_ofList,
            List.mem_singleton]
          rfl
      | @object receiver resolved found notStatic =>
          refine .inr ⟨_, rfl, ?_, not_writeFault_of_receiver found receiver⟩
          intro name
          rw [modifies_object_iff found notStatic, accepted.mem_holders]
          simp only [scope, mem_pointsToLocal]
  | _ =>
      refine .inr ⟨∅, rfl, ?_, ?_⟩
      · intro name
        constructor
        · intro member
          exact (SortedSet.not_mem_empty name member).elim
        · intro modifies
          cases modifies
      · intro error fault
        cases fault

end Program

end LockAudit
