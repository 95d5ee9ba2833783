import LockAudit.Proofs.RegionFindings

/-!
# Coarser programs

A program is coarser than another one when it trusts no lock that the other
does not trust, while its values may hold more objects and its procedures may
call more.  Everything that an audit looks for then grows: the exposed regions
that no guarded method hides, the unguarded writes and what is performed under
a lock, and with them the findings.  The code of guarded methods and of the
platform plays no part.
-/

namespace LockAudit

theorem forall₂_getElem? {related : α → β → Prop} {left : List α}
    {right : List β} (each : List.Forall₂ related left right) (index : Nat) :
    Option.Rel related left[index]? right[index]? := by
  induction each generalizing index with
  | nil => exact .none
  | cons here _ induction =>
      cases index with
      | zero => exact .some here
      | succ index => exact induction index

namespace Program

/-- The programs declare the same classes, and the static fields of audited
classes may hold the same objects. -/
structure SameDeclarations (left right : Program) : Prop where
  classes : right.classes = left.classes
  statics : ∀ className fieldName, left.AuditedStatic className fieldName →
    right.pointsToStatic className fieldName =
      left.pointsToStatic className fieldName

/-- The programs find the same classes by name, whatever the order in which
they declare them. -/
structure SameLookups (left right : Program) : Prop where
  classes : right.classes.Perm left.classes
  lookup : ∀ name, right.class? name = left.class? name
  statics : ∀ className fieldName, left.AuditedStatic className fieldName →
    right.pointsToStatic className fieldName =
      left.pointsToStatic className fieldName

theorem SameDeclarations.sameLookups {left right : Program}
    (same : left.SameDeclarations right) : left.SameLookups right where
  classes := same.classes ▸ .refl _
  lookup := by
    intro name
    rw [class?, same.classes, ← class?]
  statics := same.statics

section Declarations

variable {left right : Program} (same : left.SameLookups right)

include same

theorem SameLookups.ofPlatform_iff {className : String} :
    right.OfPlatform className ↔ left.OfPlatform className := by
  simp only [OfPlatform, same.classes.mem_iff]

theorem SameLookups.auditedStatic_iff {className fieldName : String} :
    right.AuditedStatic className fieldName ↔
      left.AuditedStatic className fieldName := by
  simp only [AuditedStatic, same.classes.mem_iff]

theorem SameLookups.symm : right.SameLookups left where
  classes := same.classes.symm
  lookup := fun name => (same.lookup name).symm
  statics := by
    intro className fieldName audited
    rw [same.auditedStatic_iff] at audited
    exact (same.statics className fieldName audited).symm

theorem SameLookups.resolveField_eq (field : FieldReference) :
    right.resolveField field = left.resolveField field := by
  have search : ∀ fuel className, right.resolveFrom field.name fuel className =
      left.resolveFrom field.name fuel className := by
    intro fuel
    induction fuel with
    | zero =>
        intro className
        rfl
    | succ fuel induction =>
        intro className
        simp only [resolveFrom, same.lookup, induction]
  rw [resolveField, resolveField, same.classes.length_eq, search]

end Declarations

end Program

/-- What names the procedures, and where they stand, is the same. -/
structure Procedure.SameHeading (left right : Procedure) : Prop where
  className : right.className = left.className
  name : right.name = left.name
  descriptor : right.descriptor = left.descriptor
  context : right.context = left.context
  line : right.line = left.line

namespace Procedure

variable {left right : Procedure}

theorem SameHeading.refl (procedure : Procedure) :
    procedure.SameHeading procedure :=
  ⟨rfl, rfl, rfl, rfl, rfl⟩

theorem SameHeading.symm (heading : left.SameHeading right) :
    right.SameHeading left :=
  ⟨heading.className.symm, heading.name.symm, heading.descriptor.symm,
    heading.context.symm, heading.line.symm⟩

theorem SameHeading.signature_eq (heading : left.SameHeading right) :
    right.signature = left.signature := by
  simp only [signature, heading.className, heading.name, heading.descriptor,
    heading.context]

end Procedure

namespace Program

section Positions

variable {left right : Program} {leftProcedure rightProcedure : Procedure}
  {id otherId : ProcedureId}

theorem SameLookups.positionAt_eq (same : left.SameLookups right)
    (heading : leftProcedure.SameHeading rightProcedure)
    (line : Option LineNumber) :
    right.positionAt rightProcedure line =
      left.positionAt leftProcedure line := by
  simp only [positionAt, same.lookup, heading.className, heading.name,
    heading.descriptor]

theorem SameLookups.procedurePosition?_eq
    (same : left.SameLookups right)
    (heading : leftProcedure.SameHeading rightProcedure)
    (leftFound : left.procedure? id = some leftProcedure)
    (rightFound : right.procedure? otherId = some rightProcedure) :
    right.procedurePosition? otherId = left.procedurePosition? id := by
  simp only [procedurePosition?, leftFound, rightFound, Option.map_some,
    heading.line, same.positionAt_eq heading]

theorem SameLookups.instructionPosition?_eq
    (same : left.SameLookups right)
    (heading : leftProcedure.SameHeading rightProcedure)
    (leftFound : left.procedure? id = some leftProcedure)
    (rightFound : right.procedure? otherId = some rightProcedure)
    {index otherIndex : Nat}
    (line : rightProcedure.code[otherIndex]?.bind (·.line) =
      leftProcedure.code[index]?.bind (·.line)) :
    right.instructionPosition? otherId otherIndex =
      left.instructionPosition? id index := by
  simp only [instructionPosition?, leftFound, rightFound, Option.map_some,
    heading.line, line, same.positionAt_eq heading]

end Positions

section Objects

variable {left right : Program} (same : left.SameLookups right)

include same

theorem SameLookups.staticMayHold_iff {className fieldName : String}
    (audited : left.AuditedStatic className fieldName) {object : InstanceKey} :
    right.StaticMayHold className fieldName object ↔
      left.StaticMayHold className fieldName object := by
  rw [← mem_pointsToStatic, same.statics className fieldName audited,
    mem_pointsToStatic]

theorem SameLookups.global_iff {object : InstanceKey} :
    right.Global object ↔ left.Global object := by
  simp only [Global, same.auditedStatic_iff]
  constructor
  · intro global
    obtain ⟨className, fieldName, audited, held⟩ := global
    exact ⟨className, fieldName, audited,
      (same.staticMayHold_iff audited).mp held⟩
  · intro global
    obtain ⟨className, fieldName, audited, held⟩ := global
    exact ⟨className, fieldName, audited,
      (same.staticMayHold_iff audited).mpr held⟩

variable {id otherId : ProcedureId} {operation : Operation}

theorem SameLookups.writeFault {leftProcedure rightProcedure : Procedure}
    (heading : leftProcedure.SameHeading rightProcedure) {error : AuditError}
    (fault : left.WriteFault leftProcedure operation error) :
    right.WriteFault rightProcedure operation error := by
  cases fault with
  | unresolved unknown =>
      rw [← heading.signature_eq]
      exact .unresolved ((same.resolveField_eq _).trans unknown)
  | noReceiver found notStatic =>
      rw [← heading.signature_eq]
      exact .noReceiver ((same.resolveField_eq _).trans found) notStatic

variable (held : ∀ value object, left.LocalMayHold id value object →
  right.LocalMayHold otherId value object)

include held

theorem SameLookups.sharedWrite
    (shared : left.SharedWrite id operation) :
    right.SharedWrite otherId operation := by
  cases shared with
  | static found isStatic notFinal audited =>
      exact .static ((same.resolveField_eq _).trans found) isStatic notFinal
        (mt same.ofPlatform_iff.mp audited)
  | object found notStatic mayHold global =>
      exact .object ((same.resolveField_eq _).trans found) notStatic
        (held _ _ mayHold) (same.global_iff.mpr global)

theorem SameLookups.modifies {name : String}
    (modifies : left.Modifies id operation name) :
    right.Modifies otherId operation name := by
  cases modifies with
  | static found isStatic =>
      exact .static ((same.resolveField_eq _).trans found) isStatic
  | holder found notStatic audited holds mayHold =>
      exact .holder ((same.resolveField_eq _).trans found) notStatic
        (same.auditedStatic_iff.mpr audited)
        ((same.staticMayHold_iff audited).mpr holds) (held _ _ mayHold)

end Objects

/-- The operations are the same, or both enter monitors and the coarse program
trusts its lock only if the fine one does. -/
inductive Relaxes (fine coarse : Program) (id : ProcedureId) :
    Operation → Operation → Prop where
  | same (operation : Operation) : Relaxes fine coarse id operation operation
  | lock {lock other : ValueNumber} :
      (coarse.Trusts id other → fine.Trusts id lock) →
      Relaxes fine coarse id (.monitorEnter lock) (.monitorEnter other)

/-- The code is the same instruction by instruction, but for locks. -/
def RelaxesCode (fine coarse : Program) (id : ProcedureId) :
    List Instruction → List Instruction → Prop :=
  List.Forall₂ fun left right => right.line = left.line ∧
    fine.Relaxes coarse id left.operation right.operation

section Code

variable {fine coarse : Program} {id : ProcedureId}

theorem RelaxesCode.refl (fine coarse : Program) (id : ProcedureId)
    (code : List Instruction) : fine.RelaxesCode coarse id code code :=
  List.forall₂_same.mpr fun _ _ => ⟨rfl, .same _⟩

/-- The search for an exit counts monitors and does not look at their locks. -/
theorem RelaxesCode.closingExit?_eq {left right : List Instruction}
    (relaxes : fine.RelaxesCode coarse id left right) (depth index : Nat) :
    closingExit? depth index right = closingExit? depth index left := by
  induction relaxes generalizing depth index with
  | nil => rfl
  | @cons head other rest others related _ induction =>
      simp only [closingExit?, induction]
      have operations := related.2
      generalize head.operation = operation at operations
      generalize other.operation = otherOperation at operations
      cases operations with
      | same => rfl
      | lock => rfl

theorem RelaxesCode.matchingExit_eq {left right : List Instruction}
    (relaxes : fine.RelaxesCode coarse id left right) (enter : Nat) :
    matchingExit right enter = matchingExit left enter := by
  have rest : fine.RelaxesCode coarse id (left.drop enter)
      (right.drop enter) := List.forall₂_drop enter relaxes
  rw [matchingExit, matchingExit, rest.closingExit?_eq,
    List.Forall₂.length_eq relaxes]

theorem RelaxesCode.line_eq {left right : List Instruction}
    (relaxes : fine.RelaxesCode coarse id left right) (index : Nat) :
    right[index]?.bind (·.line) = left[index]?.bind (·.line) := by
  have related := forall₂_getElem? relaxes index
  generalize left[index]? = item at related
  generalize right[index]? = other at related
  cases related with
  | none => rfl
  | some lines => exact lines.1

variable {left right : Procedure}
  (relaxes : fine.RelaxesCode coarse id left.code right.code)

include relaxes

theorem RelaxesCode.inBlock_iff {enter index : Nat} :
    right.InBlock enter index ↔ left.InBlock enter index := by
  rw [Procedure.InBlock, Procedure.InBlock, relaxes.matchingExit_eq]

theorem RelaxesCode.operation? (index : Nat) :
    Option.Rel (fine.Relaxes coarse id) (left.operation? index)
      (right.operation? index) := by
  have related := forall₂_getElem? relaxes index
  unfold Procedure.operation?
  generalize left.code[index]? = item at related
  generalize right.code[index]? = other at related
  cases related with
  | none => exact .none
  | some operations => exact .some operations.2

/-- Only locks differ. -/
theorem RelaxesCode.operation?_eq {index : Nat} {operation : Operation}
    (listed : left.operation? index = some operation)
    (noEnter : ∀ lock, operation ≠ .monitorEnter lock) :
    right.operation? index = some operation := by
  have related := relaxes.operation? index
  rw [listed] at related
  generalize right.operation? index = other at related
  cases related with
  | some operations =>
      cases operations with
      | same => rfl
      | lock => exact (noEnter _ rfl).elim

theorem RelaxesCode.entered {index : Nat} {lock : ValueNumber}
    (trusted : ∀ value, coarse.Trusts id value → fine.Trusts id value)
    (entered : left.operation? index = some (.monitorEnter lock)) :
    ∃ other, right.operation? index = some (.monitorEnter other) ∧
      (coarse.Trusts id other → fine.Trusts id lock) := by
  have related := relaxes.operation? index
  rw [entered] at related
  generalize right.operation? index = other at related
  cases related with
  | some operations =>
      cases operations with
      | same => exact ⟨lock, rfl, trusted lock⟩
      | lock trustsOther => exact ⟨_, rfl, trustsOther⟩

theorem RelaxesCode.enters {index : Nat} {other : ValueNumber}
    (trusted : ∀ value, coarse.Trusts id value → fine.Trusts id value)
    (entered : right.operation? index = some (.monitorEnter other)) :
    ∃ lock, left.operation? index = some (.monitorEnter lock) ∧
      (coarse.Trusts id other → fine.Trusts id lock) := by
  have related := relaxes.operation? index
  rw [entered] at related
  generalize left.operation? index = lock at related
  cases related with
  | some operations =>
      cases operations with
      | same => exact ⟨other, rfl, trusted other⟩
      | lock trustsOther => exact ⟨_, rfl, trustsOther⟩

end Code

/-- The procedures are synchronized alike, and the second one's values may hold
more, which makes none of them trusted that the first one does not trust. -/
structure Resembles (fine coarse : Program) (id : ProcedureId)
    (left right : Procedure) : Prop where
  heading : left.SameHeading right
  isStatic : right.isStatic = left.isStatic
  isSynchronized : right.isSynchronized = left.isSynchronized
  held : ∀ value object, fine.LocalMayHold id value object →
    coarse.LocalMayHold id value object
  trusted : ∀ value, coarse.Trusts id value → fine.Trusts id value

section Procedures

variable {fine coarse : Program} {id : ProcedureId} {left right : Procedure}
  (resembles : fine.Resembles coarse id left right)

include resembles

theorem Resembles.trustsMethod (trusts : coarse.TrustsMethod id right) :
    fine.TrustsMethod id left := by
  rcases trusts with isStatic | receiver
  · exact .inl (resembles.isStatic ▸ isStatic)
  · exact .inr (resembles.trusted 1 receiver)

theorem Resembles.guarded (guarded : coarse.Guarded id right) :
    fine.Guarded id left :=
  ⟨resembles.isSynchronized ▸ guarded.1, resembles.trustsMethod guarded.2⟩

theorem Resembles.exposed (exposed : fine.Exposed id left) :
    coarse.Exposed id right :=
  ⟨resembles.isSynchronized.trans exposed.1,
    mt resembles.trustsMethod exposed.2⟩

theorem Resembles.covered
    (relaxes : fine.RelaxesCode coarse id left.code right.code) {index : Nat}
    (covered : coarse.Covered id right index) :
    fine.Covered id left index := by
  obtain ⟨enter, other, entered, trusts, inside⟩ := covered
  obtain ⟨lock, enteredHere, trusted⟩ :=
    relaxes.enters resembles.trusted entered
  exact ⟨enter, lock, enteredHere, trusted trusts,
    relaxes.inBlock_iff.mp inside⟩

end Procedures

section Regions

variable {fine coarse : Program} (same : fine.SameLookups coarse)

include same

theorem SameLookups.exposedBlock {enter : InstructionRef}
    {left right : Procedure} {lock : ValueNumber}
    (found : coarse.procedure? enter.procedure = some right)
    (resembles : fine.Resembles coarse enter.procedure left right)
    (relaxes : fine.RelaxesCode coarse enter.procedure left.code right.code)
    (exposed : fine.ExposedBlock enter left lock) :
    ∃ other, coarse.ExposedBlock enter right other := by
  obtain ⟨other, entered, trusted⟩ :=
    relaxes.entered resembles.trusted exposed.entered
  refine ⟨other, found, ?_, entered, mt trusted exposed.untrusted⟩
  rw [resembles.heading.className, same.ofPlatform_iff]
  exact exposed.audited

theorem SameLookups.exposedMethod {id : ProcedureId}
    {left right : Procedure} (found : coarse.procedure? id = some right)
    (resembles : fine.Resembles coarse id left right)
    (exposed : fine.ExposedMethod id left) : coarse.ExposedMethod id right := by
  refine ⟨found, ?_, resembles.exposed exposed.exposed⟩
  rw [resembles.heading.className, same.ofPlatform_iff]
  exact exposed.audited

theorem SameLookups.mem_blocks (accepted : fine.Accepted)
    (coarseAccepted : coarse.Accepted) {block : Block} {left right : Procedure}
    (found : fine.procedure? block.enter.procedure = some left)
    (coarseFound : coarse.procedure? block.enter.procedure = some right)
    (resembles : fine.Resembles coarse block.enter.procedure left right)
    (relaxes :
      fine.RelaxesCode coarse block.enter.procedure left.code right.code)
    (listed : block ∈ fine.scope.regions.blocks) :
    block ∈ coarse.scope.regions.blocks := by
  obtain ⟨_, _, exposed, last⟩ := accepted.mem_blocks_regions.mp listed
  cases found.symm.trans exposed.found
  obtain ⟨other, coarseExposed⟩ :=
    same.exposedBlock coarseFound resembles relaxes exposed
  rw [← relaxes.matchingExit_eq] at last
  exact coarseAccepted.mem_blocks_regions.mpr
    ⟨right, other, coarseExposed, last⟩

end Regions

/-- The second program is coarser than the first one. -/
structure Coarsens (fine coarse : Program) : Prop
    extends SameLookups fine coarse where
  calls : ∀ caller site callee, fine.CallsAt caller site callee →
    coarse.CallsAt caller site callee
  procedures : ∀ id left, fine.procedure? id = some left →
    ¬fine.OfPlatform left.className →
    ∃ right, coarse.procedure? id = some right ∧
      fine.Resembles coarse id left right ∧
      (¬fine.Guarded id left →
        fine.RelaxesCode coarse id left.code right.code)

section Programs

variable {fine coarse : Program} (coarsens : fine.Coarsens coarse)

include coarsens

/-- Code corresponds only where the method is not guarded. -/
theorem Coarsens.unguarded {place : InstructionRef} {left : Procedure}
    {operation : Operation} (bare : fine.Unguarded place left operation)
    (noEnter : ∀ lock, operation ≠ .monitorEnter lock) :
    ∃ right, coarse.Unguarded place right operation ∧
      fine.Resembles coarse place.procedure left right := by
  obtain ⟨right, found, resembles, code⟩ :=
    coarsens.procedures place.procedure left bare.found bare.audited
  have relaxes := code bare.unguarded
  refine ⟨right, ⟨found, ?_, mt resembles.guarded bare.unguarded,
    relaxes.operation?_eq bare.listed noEnter,
    mt (resembles.covered relaxes) bare.uncovered⟩, resembles⟩
  rw [resembles.heading.className, coarsens.ofPlatform_iff]
  exact bare.audited

theorem Coarsens.seeded {place : InstructionRef}
    (seeded : fine.Seeded place) : coarse.Seeded place := by
  obtain ⟨left, operation, bare, shared⟩ := seeded
  have noEnter : ∀ lock, operation ≠ .monitorEnter lock := by
    rintro lock rfl
    cases shared
  obtain ⟨right, coarseBare, resembles⟩ := coarsens.unguarded bare noEnter
  exact ⟨right, operation, coarseBare,
    coarsens.sharedWrite resembles.held shared⟩

theorem Coarsens.faulty {place : InstructionRef} {error : AuditError}
    (faulty : fine.Faulty place error) : coarse.Faulty place error := by
  obtain ⟨left, operation, bare, fault⟩ := faulty
  have noEnter : ∀ lock, operation ≠ .monitorEnter lock := by
    rintro lock rfl
    cases fault
  obtain ⟨right, coarseBare, resembles⟩ := coarsens.unguarded bare noEnter
  exact ⟨right, operation, coarseBare,
    coarsens.writeFault resembles.heading fault⟩

theorem Coarsens.modifiesAt {place : InstructionRef} {name : String}
    (seeded : fine.Seeded place) (modifies : fine.ModifiesAt place name) :
    coarse.ModifiesAt place name := by
  obtain ⟨left, operation, bare, _⟩ := seeded
  obtain ⟨other, otherOperation, found, listed, modifies⟩ := modifies
  cases bare.found.symm.trans found
  cases bare.listed.symm.trans listed
  have noEnter : ∀ lock, operation ≠ .monitorEnter lock := by
    rintro lock rfl
    cases modifies
  obtain ⟨right, coarseBare, resembles⟩ := coarsens.unguarded bare noEnter
  exact ⟨right, operation, coarseBare.found, coarseBare.listed,
    coarsens.modifies resembles.held modifies⟩

theorem Coarsens.performs {id : ProcedureId} {place : InstructionRef}
    (performs : fine.Performs id place) : coarse.Performs id place := by
  have calls : ∀ caller callee, fine.Calls caller callee →
      coarse.Calls caller callee := by
    intro caller callee called
    obtain ⟨site, called⟩ := called
    exact ⟨site, coarsens.calls caller site callee called⟩
  exact ⟨Relation.ReflTransGen.mono calls _ _ performs.1,
    coarsens.seeded performs.2⟩

theorem Coarsens.performsIn {enter : InstructionRef} {left right : Procedure}
    (resembles : fine.Resembles coarse enter.procedure left right)
    (relaxes : fine.RelaxesCode coarse enter.procedure left.code right.code)
    {place : InstructionRef} (performs : fine.PerformsIn enter left place) :
    coarse.PerformsIn enter right place := by
  cases performs with
  | own same inside seeded =>
      exact .own same (relaxes.inBlock_iff.mpr inside)
        (coarsens.seeded seeded)
  | called inside invoked uncovered calls performs =>
      have invokedThere := relaxes.operation?_eq invoked (by simp)
      exact .called (relaxes.inBlock_iff.mpr inside) invokedThere
        (mt (resembles.covered relaxes) uncovered)
        (coarsens.calls _ _ _ calls) (coarsens.performs performs)

theorem Coarsens.exposedMethod {id : ProcedureId} {left : Procedure}
    (exposed : fine.ExposedMethod id left) :
    ∃ right, coarse.ExposedMethod id right ∧
      fine.Resembles coarse id left right := by
  obtain ⟨right, found, resembles, _⟩ :=
    coarsens.procedures id left exposed.found exposed.audited
  have coarseExposed :=
    coarsens.toSameLookups.exposedMethod found resembles exposed
  exact ⟨right, coarseExposed, resembles⟩

/-- Where guarded code too is the same but for locks, exposed regions stay
exposed. -/
theorem Coarsens.hasExposedRegion
    (code : ∀ id left right, fine.procedure? id = some left →
      coarse.procedure? id = some right →
      fine.RelaxesCode coarse id left.code right.code)
    (region : fine.HasExposedRegion) : coarse.HasExposedRegion := by
  rcases region with ⟨enter, left, lock, exposed⟩ | ⟨id, left, exposed⟩
  · obtain ⟨right, found, resembles, _⟩ :=
      coarsens.procedures enter.procedure left exposed.found exposed.audited
    have relaxes := code enter.procedure left right exposed.found found
    exact .inl ⟨enter, right,
      coarsens.exposedBlock found resembles relaxes exposed⟩
  · obtain ⟨right, coarseExposed, _⟩ := coarsens.exposedMethod exposed
    exact .inr ⟨id, right, coarseExposed⟩

/-- A block that is reported in one program, and the one that starts at the
same place in a coarser program. -/
structure Counterparts (fine coarse : Program) (enter : InstructionRef)
    (left right : Procedure) : Prop where
  exposed : ∃ lock, fine.ExposedBlock enter left lock
  coarseExposed : ∃ lock, coarse.ExposedBlock enter right lock
  unguarded : ¬fine.Guarded enter.procedure left
  resembles : fine.Resembles coarse enter.procedure left right
  relaxes : fine.RelaxesCode coarse enter.procedure left.code right.code

theorem Coarsens.exists_counterparts {enter : InstructionRef}
    (reports : fine.ReportsBlock enter) :
    ∃ left right, fine.Counterparts coarse enter left right := by
  obtain ⟨left, lock, exposed, unguarded, _⟩ := reports
  obtain ⟨right, found, resembles, code⟩ :=
    coarsens.procedures enter.procedure left exposed.found exposed.audited
  have relaxes := code unguarded
  exact ⟨left, right, ⟨lock, exposed⟩,
    coarsens.exposedBlock found resembles relaxes exposed, unguarded,
    resembles, relaxes⟩

theorem Coarsens.blockPerforms {enter : InstructionRef}
    (reports : fine.ReportsBlock enter) {place : InstructionRef}
    (performed : fine.BlockPerforms enter place) :
    coarse.BlockPerforms enter place := by
  obtain ⟨left, right, ⟨_, exposed⟩, ⟨_, coarseExposed⟩, _, resembles,
    relaxes⟩ := coarsens.exists_counterparts reports
  obtain ⟨procedure, found, performs⟩ := performed
  cases exposed.found.symm.trans found
  exact ⟨right, coarseExposed.found,
    coarsens.performsIn resembles relaxes performs⟩

theorem Coarsens.reportsBlock {enter : InstructionRef}
    (reports : fine.ReportsBlock enter) : coarse.ReportsBlock enter := by
  have reported := reports
  obtain ⟨left, _, exposed, _, place, performs⟩ := reported
  obtain ⟨other, coarseFound, coarsePerforms⟩ :=
    coarsens.blockPerforms reports ⟨left, exposed.found, performs⟩
  obtain ⟨_, right, _, ⟨lock, coarseExposed⟩, unguarded, resembles, _⟩ :=
    coarsens.exists_counterparts reports
  cases coarseExposed.found.symm.trans coarseFound
  exact ⟨_, lock, coarseExposed, mt resembles.guarded unguarded, place,
    coarsePerforms⟩

theorem Coarsens.blockPosition_eq {enter : InstructionRef}
    (reports : fine.ReportsBlock enter) :
    coarse.instructionPosition? enter.procedure enter.index =
      fine.instructionPosition? enter.procedure enter.index := by
  obtain ⟨left, right, ⟨_, exposed⟩, ⟨_, coarseExposed⟩, _, resembles,
    relaxes⟩ := coarsens.exists_counterparts reports
  exact coarsens.instructionPosition?_eq resembles.heading exposed.found
    coarseExposed.found (relaxes.line_eq enter.index)

theorem Coarsens.reportsMethod {id : ProcedureId}
    (reports : fine.ReportsMethod id) : coarse.ReportsMethod id := by
  obtain ⟨left, exposed, place, performs⟩ := reports
  obtain ⟨right, coarseExposed, _⟩ := coarsens.exposedMethod exposed
  exact ⟨right, coarseExposed, place, coarsens.performs performs⟩

theorem Coarsens.methodPosition_eq {id : ProcedureId}
    (reports : fine.ReportsMethod id) :
    coarse.procedurePosition? id = fine.procedurePosition? id := by
  obtain ⟨left, exposed, _⟩ := reports
  obtain ⟨right, coarseExposed, resembles⟩ := coarsens.exposedMethod exposed
  exact coarsens.procedurePosition?_eq resembles.heading exposed.found
    coarseExposed.found

theorem Coarsens.reportsRegion (accepted : fine.Accepted)
    (coarseAccepted : coarse.Accepted) {region : Region}
    (reports : fine.ReportsRegion region) : coarse.ReportsRegion region := by
  cases region with
  | method id => exact coarsens.reportsMethod reports
  | block block =>
      obtain ⟨listed, reports⟩ := reports
      refine ⟨?_, coarsens.reportsBlock reports⟩
      obtain ⟨left, right, ⟨_, exposed⟩, ⟨_, coarseExposed⟩, _, resembles,
        relaxes⟩ := coarsens.exists_counterparts reports
      exact coarsens.mem_blocks accepted coarseAccepted exposed.found
        coarseExposed.found resembles relaxes listed

/-- A description of a region that a coarser program reports at the same
position names more fields. -/
theorem Coarsens.within {kind : RegionKind}
    {position coarsePosition : Option CodePosition}
    (samePosition : coarsePosition = position)
    {performed coarsePerformed : InstructionRef → Prop}
    (grows : ∀ place, performed place → coarsePerformed place)
    (seeded : ∀ place, performed place → fine.Seeded place)
    {narrow wide : Finding}
    (describes : fine.Describes kind position performed narrow)
    (coarseDescribes :
      coarse.Describes kind coarsePosition coarsePerformed wide) :
    narrow.Within wide where
  patternId := coarseDescribes.pattern.trans describes.pattern.symm
  region := coarseDescribes.region.trans describes.region.symm
  position := by
    have positions := coarseDescribes.position
    rw [samePosition, describes.position] at positions
    exact (Option.some.inj positions).symm
  fields := by
    intro name member
    obtain ⟨place, performs, modifies⟩ := (describes.fields name).mp member
    exact (coarseDescribes.fields name).mpr ⟨place, grows place performs,
      coarsens.modifiesAt (seeded place performs) modifies⟩

theorem Coarsens.describesRegion_within {region : Region}
    (reports : fine.ReportsRegion region) {narrow wide : Finding}
    (describes : fine.DescribesRegion region narrow)
    (coarseDescribes : coarse.DescribesRegion region wide) :
    narrow.Within wide := by
  cases region with
  | block block =>
      apply coarsens.within (coarsens.blockPosition_eq reports.2)
        (fun _ => coarsens.blockPerforms reports.2)
      · intro place performed
        obtain ⟨_, _, performs⟩ := performed
        exact performs.seeded
      · exact describesBlock_iff.mp describes
      · exact describesBlock_iff.mp coarseDescribes
  | method id =>
      exact coarsens.within (coarsens.methodPosition_eq reports)
        (fun _ => coarsens.performs) (fun _ performs => performs.2) describes
        coarseDescribes

/-- What an audit finds about a region, the audit of a coarser program finds
too, with at least the same fields. -/
theorem Coarsens.finds (accepted : fine.Accepted)
    (coarseAccepted : coarse.Accepted) {signal coarseSignal : StopSignal}
    {outcome coarseOutcome : Audit}
    (success : fine.audit fine.callGraph signal = .ok outcome)
    (coarseSuccess : coarse.audit coarse.callGraph coarseSignal =
      .ok coarseOutcome)
    {region : Region} {finding : Finding}
    (finds : outcome.Finds fine.callGraph region finding) :
    ∃ wider, coarseOutcome.Finds coarse.callGraph region wider ∧
      finding.Within wider := by
  obtain ⟨reports, describes⟩ := (accepted.finds_iff success).mp finds
  have coarseReports :=
    coarsens.reportsRegion accepted coarseAccepted reports
  obtain ⟨wider, coarseDescribes, coarseFinds⟩ :=
    coarseAccepted.exists_finds coarseSuccess coarseReports
  exact ⟨wider, coarseFinds,
    coarsens.describesRegion_within reports describes coarseDescribes⟩

/-- What a procedure may perform, it may perform in the coarser program. -/
theorem Coarsens.reach_grows (accepted : fine.Accepted)
    (coarseAccepted : coarse.Accepted)
    (exposed : fine.HasExposedRegion → coarse.HasExposedRegion)
    {signal coarseSignal : StopSignal} {outcome coarseOutcome : Audit}
    (success : fine.audit fine.callGraph signal = .ok outcome)
    (coarseSuccess : coarse.audit coarse.callGraph coarseSignal =
      .ok coarseOutcome)
    {reach : Reach} (reached : outcome.reach = some reach) :
    ∃ coarseReach, coarseOutcome.reach = some coarseReach ∧
      ∀ id, ∀ place ∈ reach.writes id, place ∈ coarseReach.writes id := by
  rcases (accepted.concludes success).reach with
    ⟨_, idle⟩ | ⟨region, _, alsoReached, knows⟩
  · cases idle.symm.trans reached
  · cases alsoReached.symm.trans reached
    rcases (coarseAccepted.concludes coarseSuccess).reach with
      ⟨noRegion, _⟩ | ⟨_, coarseReach, coarseReached, coarseKnows⟩
    · exact (noRegion (exposed region)).elim
    · refine ⟨coarseReach, coarseReached, ?_⟩
      intro id place member
      rw [coarseKnows.writes]
      exact coarsens.performs ((knows.writes id place).mp member)

end Programs

section Mutual

variable {left right : Program} (forth : left.Coarsens right)
  (back : right.Coarsens left)

include forth back

/-- Fields are traced back only from writes that are seeded on both sides. -/
theorem Coarsens.describes {kind : RegionKind}
    {position otherPosition : Option CodePosition}
    (samePosition : otherPosition = position)
    {performed otherPerformed : InstructionRef → Prop}
    (grows : ∀ place, performed place → otherPerformed place)
    (shrinks : ∀ place, otherPerformed place → performed place)
    (seeded : ∀ place, performed place → left.Seeded place)
    {finding : Finding}
    (describes : left.Describes kind position performed finding) :
    right.Describes kind otherPosition otherPerformed finding where
  pattern := describes.pattern
  region := describes.region
  position := samePosition.trans describes.position
  fields := by
    intro name
    rw [describes.fields]
    constructor
    · intro modified
      obtain ⟨place, performs, modifies⟩ := modified
      exact ⟨place, grows place performs,
        forth.modifiesAt (seeded place performs) modifies⟩
    · intro modified
      obtain ⟨place, performs, modifies⟩ := modified
      have performsHere := shrinks place performs
      have seededThere := forth.seeded (seeded place performsHere)
      exact ⟨place, performsHere, back.modifiesAt seededThere modifies⟩

/-- Two such programs have the same findings. -/
theorem Coarsens.explains {findings : List Finding}
    (explains : left.Explains findings) : right.Explains findings := by
  obtain ⟨blocks, methods, blockFindings, methodFindings, reportedBlocks,
    reportedMethods, describedBlocks, describedMethods, made⟩ := explains
  refine ⟨blocks, methods, blockFindings, methodFindings, ?_, ?_, ?_, ?_, made⟩
  · intro enter
    rw [reportedBlocks]
    exact ⟨forth.reportsBlock, back.reportsBlock⟩
  · intro id
    rw [reportedMethods]
    exact ⟨forth.reportsMethod, back.reportsMethod⟩
  · have described := (List.forall₂_and_left _ _).mpr
      ⟨fun enter => (reportedBlocks enter).mp, describedBlocks⟩
    apply described.imp
    intro enter finding described
    obtain ⟨reports, describes⟩ := described
    apply describesBlock_iff.mpr
    apply forth.describes back (forth.blockPosition_eq reports)
      (fun _ => forth.blockPerforms reports)
      (fun _ => back.blockPerforms (forth.reportsBlock reports))
    · intro place performed
      obtain ⟨_, _, performs⟩ := performed
      exact performs.seeded
    · exact describesBlock_iff.mp describes
  · have described := (List.forall₂_and_left _ _).mpr
      ⟨fun id => (reportedMethods id).mp, describedMethods⟩
    apply described.imp
    intro id finding described
    obtain ⟨reports, describes⟩ := described
    exact forth.describes back (forth.methodPosition_eq reports)
      (fun _ => forth.performs) (fun _ => back.performs)
      (fun _ performs => performs.2) describes

end Mutual

end Program

end LockAudit
