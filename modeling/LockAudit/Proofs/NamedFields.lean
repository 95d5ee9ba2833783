import LockAudit.Proofs.RegionFindings

/-!
# The fields that findings name

Whether an instruction writes global state and which static fields it modifies
are decided separately: the first from one set of all global objects, the second
field by field.  The two agree, and so every finding names at least one static
field, and only fields of audited classes.
-/

namespace LockAudit

theorem SortedSet.isEmpty_eq_false_iff [Ord α] {set : SortedSet α} :
    set.isEmpty = false ↔ ∃ item, item ∈ set := by
  rw [← Bool.not_eq_true, SortedSet.isEmpty_iff, not_forall_not]

namespace Program

variable {program : Program}

/-- The name of a static field that an audited class declares. -/
def AuditedName (program : Program) (name : String) : Prop :=
  ∃ className fieldName, program.AuditedStatic className fieldName ∧
    name = qualifiedName className fieldName

theorem Accepted.auditedName_iff (accepted : program.Accepted)
    {name : String} :
    program.AuditedName name ↔
      ∃ field ∈ program.staticFields, name = field.qualifiedName := by
  constructor
  · intro named
    obtain ⟨className, fieldName, audited, same⟩ := named
    obtain ⟨field, listed, sameClass, sameField⟩ :=
      accepted.mem_staticFields.mpr audited
    refine ⟨field, listed, ?_⟩
    rw [same, ← sameClass, ← sameField, StaticField.qualifiedName]
  · intro named
    obtain ⟨field, listed, same⟩ := named
    exact ⟨field.className, field.name,
      accepted.mem_staticFields.mp ⟨field, listed, rfl, rfl⟩, same⟩

/-- A search ends in a class that declares the field. -/
theorem resolveFrom_declared {fieldName className : String} {fuel : Nat}
    {resolved : ResolvedField}
    (found : program.resolveFrom fieldName fuel className = some resolved) :
    ∃ declaration ∈ program.classes,
      declaration.name = resolved.className ∧
        resolved.declaration ∈ declaration.fields := by
  induction fuel generalizing className with
  | zero => cases found
  | succ fuel induction =>
      rw [resolveFrom] at found
      cases classFound : program.class? className with
      | none => simp [classFound] at found
      | some declaration =>
          simp only [classFound] at found
          cases fieldFound : declaration.field? fieldName with
          | some field =>
              simp only [fieldFound] at found
              cases found
              exact ⟨declaration, List.mem_of_find?_eq_some classFound, rfl,
                List.mem_of_find?_eq_some fieldFound⟩
          | none =>
              simp only [fieldFound] at found
              cases inherits : declaration.superName with
              | none => simp [inherits] at found
              | some superName =>
                  simp only [inherits] at found
                  exact induction found

theorem auditedStatic_of_resolved {field : FieldReference}
    {resolved : ResolvedField}
    (found : program.resolveField field = some resolved)
    (static : resolved.declaration.isStatic = true)
    (audited : ¬program.OfPlatform resolved.className) :
    program.AuditedStatic resolved.className resolved.declaration.name := by
  obtain ⟨declaration, listed, named, declared⟩ := resolveFrom_declared found
  refine ⟨declaration, listed, named, ?_, resolved.declaration, declared, rfl,
    static⟩
  intro primordial
  exact audited ⟨declaration, listed, named, primordial⟩

variable {id : ProcedureId} {operation : Operation}

/-- A write of global state modifies some static field. -/
theorem SharedWrite.exists_modifies
    (shared : program.SharedWrite id operation) :
    ∃ name, program.Modifies id operation name := by
  cases shared with
  | static found static => exact ⟨_, .static found static⟩
  | object found notStatic held global =>
      obtain ⟨className, fieldName, audited, alsoHeld⟩ := global
      exact ⟨_, .holder found notStatic audited alsoHeld held⟩

theorem SharedWrite.auditedName (shared : program.SharedWrite id operation)
    {name : String} (modifies : program.Modifies id operation name) :
    program.AuditedName name := by
  cases modifies with
  | holder _ _ audited => exact ⟨_, _, audited, rfl⟩
  | static found static =>
      obtain ⟨_, audited⟩ := (sharedWrite_static_iff found static).mp shared
      exact ⟨_, _, auditedStatic_of_resolved found static audited, rfl⟩

/-- A write of an object modifies a static field only if the object may be a
global one.  Of static fields this is not so: a write of a final one modifies it
and is no write of global state. -/
theorem Modifies.sharedWrite {field : FieldReference}
    {receiver : Option ValueNumber} {resolved : ResolvedField} {name : String}
    (found : program.resolveField field = some resolved)
    (notStatic : resolved.declaration.isStatic = false)
    (modifies : program.Modifies id (.fieldWrite field receiver) name) :
    program.SharedWrite id (.fieldWrite field receiver) := by
  cases modifies with
  | static foundAgain static =>
      cases found.symm.trans foundAgain
      simp [static] at notStatic
  | holder _ _ audited held mayBe =>
      exact .object found notStatic mayBe ⟨_, _, audited, held⟩

/-- Whatever region it is about, a finding names a field for some write that is
performed there, and no fields but those of such writes. -/
theorem Describes.namesFields {region : RegionKind}
    {position : Option CodePosition} {performed : InstructionRef → Prop}
    {finding : Finding}
    (describes : program.Describes region position performed finding)
    (seeded : ∀ place, performed place → program.Seeded place)
    (some : ∃ place, performed place) :
    finding.staticFields.isEmpty = false ∧
      ∀ name ∈ finding.staticFields, program.AuditedName name := by
  constructor
  · obtain ⟨place, performedHere⟩ := some
    obtain ⟨procedure, operation, unguarded, shared⟩ :=
      seeded place performedHere
    obtain ⟨name, modifies⟩ := shared.exists_modifies
    refine SortedSet.isEmpty_eq_false_iff.mpr ⟨name, ?_⟩
    exact (describes.fields name).mpr ⟨place, performedHere, procedure,
      operation, unguarded.found, unguarded.listed, modifies⟩
  · intro name member
    obtain ⟨place, performedHere, procedure, operation, found, listed,
      modifies⟩ := (describes.fields name).mp member
    obtain ⟨other, otherOperation, unguarded, shared⟩ :=
      seeded place performedHere
    cases unguarded.found.symm.trans found
    cases unguarded.listed.symm.trans listed
    exact shared.auditedName modifies

theorem Accepted.finding_namesFields (accepted : program.Accepted)
    {signal : StopSignal} {outcome : Audit}
    (success : program.audit program.callGraph signal = .ok outcome)
    {finding : Finding} (reported : finding ∈ outcome.findings) :
    finding.staticFields.isEmpty = false ∧
      ∀ name ∈ finding.staticFields, program.AuditedName name := by
  obtain ⟨region, finds⟩ := (mem_findings_iff success).mp reported
  obtain ⟨reports, describes⟩ := (accepted.finds_iff success).mp finds
  cases region with
  | block block =>
      obtain ⟨_, procedure, lock, exposed, _, place, performs⟩ := reports
      apply (describesBlock_iff.mp describes).namesFields
      · intro other performed
        obtain ⟨_, _, performs⟩ := performed
        exact performs.seeded
      · exact ⟨place, procedure, exposed.found, performs⟩
  | method id =>
      obtain ⟨procedure, exposed, place, performs⟩ := reports
      apply describes.namesFields
      · intro other performed
        exact performed.2
      · exact ⟨place, performs⟩

/-- How the verdict on an instruction and its fields are found: both fail alike,
or both say what the rules for writes say. -/
theorem Accepted.verdict_and_fields (accepted : program.Accepted)
    {procedure : Procedure} {index : Nat}
    (found : program.procedure? id = some procedure)
    (listed : procedure.operation? index = some operation) :
    (∃ error,
      program.scope.isSharedWrite id procedure operation = .error error ∧
        program.scope.modifiedFields ⟨id, index⟩ = .error error) ∨
    ∃ shared fields,
      program.scope.isSharedWrite id procedure operation = .ok shared ∧
        program.scope.modifiedFields ⟨id, index⟩ = .ok fields ∧
        (shared = true ↔ program.SharedWrite id operation) ∧
        ∀ name, name ∈ fields ↔ program.Modifies id operation name := by
  have located : program.procedure? (InstructionRef.mk id index).procedure =
      some procedure := found
  rcases accepted.isSharedWrite_verdict id procedure operation with
    ⟨error, failed, fault⟩ | ⟨shared, judged, rule, faultless⟩
  · rcases accepted.modifiedFields_verdict located listed with
      ⟨other, alsoFailed, otherFault⟩ | ⟨_, _, _, faultless⟩
    · cases fault.unique otherFault
      exact .inl ⟨error, failed, alsoFailed⟩
    · exact (faultless error fault).elim
  · rcases accepted.modifiedFields_verdict located listed with
      ⟨error, _, fault⟩ | ⟨fields, told, members, _⟩
    · exact (faultless error fault).elim
    · exact .inr ⟨shared, fields, judged, told, rule, members⟩

/-- The verdict on an instruction and the fields that it is said to modify
agree: both fail on the same writes with the same error, a write of global
state modifies static fields of audited classes and at least one of them, and a
write of an object is one of global state exactly when it modifies any.  Every
finding therefore names static fields of audited classes, and at least one. -/
theorem verdict_agrees_with_fields (program : Program)
    (accepted : program.Accepted) :
    (∀ id procedure index operation,
      program.procedure? id = some procedure →
      procedure.operation? index = some operation →
      (∀ error,
        program.scope.isSharedWrite id procedure operation = .error error ↔
          program.scope.modifiedFields ⟨id, index⟩ = .error error) ∧
      (program.scope.isSharedWrite id procedure operation = .ok true →
        ∃ fields, program.scope.modifiedFields ⟨id, index⟩ = .ok fields ∧
          fields.isEmpty = false ∧
          ∀ name ∈ fields,
            ∃ field ∈ program.staticFields, name = field.qualifiedName) ∧
      ∀ field receiver resolved,
        operation = .fieldWrite field receiver →
        program.resolveField field = some resolved →
        resolved.declaration.isStatic = false →
        (program.scope.isSharedWrite id procedure operation = .ok true ↔
          ∃ fields, program.scope.modifiedFields ⟨id, index⟩ = .ok fields ∧
            fields.isEmpty = false)) ∧
    ∀ signal outcome,
      program.audit program.callGraph signal = .ok outcome →
      ∀ finding ∈ outcome.findings,
        finding.staticFields.isEmpty = false ∧
          ∀ name ∈ finding.staticFields,
            ∃ className fieldName,
              program.AuditedStatic className fieldName ∧
                name = qualifiedName className fieldName := by
  refine ⟨?_, fun _ _ success _ => accepted.finding_namesFields success⟩
  intro id procedure index operation found listed
  rcases accepted.verdict_and_fields found listed with
    ⟨error, failed, alsoFailed⟩ | ⟨shared, fields, judged, told, rule, members⟩
  · rw [failed, alsoFailed]
    simp
  · rw [judged, told]
    have nonempty : fields.isEmpty = false ↔
        ∃ name, program.Modifies id operation name := by
      rw [SortedSet.isEmpty_eq_false_iff]
      exact exists_congr members
    simp only [reduceCtorEq, implies_true, true_and, Except.ok.injEq,
      exists_eq_left', rule, nonempty]
    constructor
    · intro write
      refine ⟨write.exists_modifies, ?_⟩
      intro name member
      exact accepted.auditedName_iff.mp
        (write.auditedName ((members name).mp member))
    · intro field receiver resolved isWrite resolvedField notStatic
      subst isWrite
      constructor
      · exact SharedWrite.exists_modifies
      · intro modified
        obtain ⟨name, modifies⟩ := modified
        exact modifies.sharedWrite resolvedField notStatic

/-- A counter that a static field may hold, written under a lock that need not
be that counter. -/
def heldCounter : Program where
  classes :=
    [{ name := "Counter"
       fields := [{ name := "shared", isStatic := true }, { name := "total" }] }]
  procedures :=
    [{ className := "Counter"
       name := "add"
       descriptor := "()V"
       isSynchronized := true
       body := some [⟨none, .fieldWrite ⟨"Counter", "total"⟩ (some 1)⟩] }]
  localPointsTo := [⟨0, 1, [7, 8]⟩]
  staticPointsTo := [⟨"Counter", "shared", [8]⟩]

theorem heldCounter_names_holder :
    heldCounter.Accepted ∧
      (∃ fields, heldCounter.scope.modifiedFields ⟨0, 0⟩ = .ok fields ∧
        fields.isEmpty = false ∧
        ∀ name ∈ fields,
          ∃ field ∈ heldCounter.staticFields, name = field.qualifiedName) ∧
      ∃ outcome, heldCounter.audit heldCounter.callGraph {} = .ok outcome ∧
        ∃ finding ∈ outcome.findings,
          ∃ name ∈ finding.staticFields,
            ∃ className fieldName,
              heldCounter.AuditedStatic className fieldName ∧
                name = qualifiedName className fieldName := by
  have accepted : heldCounter.Accepted := by decide +kernel
  obtain ⟨instructions, findings⟩ :=
    verdict_agrees_with_fields heldCounter accepted
  refine ⟨accepted, ?_, ?_⟩
  · obtain ⟨_, written, _⟩ := instructions 0 _ 0 _ rfl rfl
    exact written (by decide +kernel)
  · obtain ⟨outcome, success, found⟩ :
        ∃ outcome, heldCounter.audit heldCounter.callGraph {} = .ok outcome ∧
          outcome.findings =
            [⟨"LCK06J", .method,
              ⟨"Counter", "Counter", "add", "()V", none, none⟩,
              .ofList ["Counter.shared"]⟩] := by
      apply map_eq_ok_iff.mp
      decide +kernel
    obtain ⟨finding, reported⟩ : ∃ finding, finding ∈ outcome.findings := by
      simp [found]
    obtain ⟨nonempty, named⟩ := findings {} outcome success finding reported
    obtain ⟨name, member⟩ := SortedSet.isEmpty_eq_false_iff.mp nonempty
    exact ⟨outcome, success, finding, reported, name, member,
      named name member⟩

end Program

end LockAudit
