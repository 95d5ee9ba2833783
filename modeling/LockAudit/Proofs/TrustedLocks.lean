import LockAudit.Lock.Scope
import LockAudit.Proofs.AcceptedPrograms

/-!
# Which locks are trusted

The classification of locks and regions, stated about the entries of a program
without the indexes that the audit builds.  Everything here is about accepted
programs, whose classes have distinct names.
-/

namespace LockAudit

namespace Program

/-- The class is declared, and by the primordial loader. -/
def OfPlatform (program : Program) (className : String) : Prop :=
  ∃ declaration ∈ program.classes,
    declaration.name = className ∧ declaration.loader = .primordial

/-- A class that is not the platform's declares a static field. -/
def AuditedStatic (program : Program) (className fieldName : String) : Prop :=
  ∃ declaration ∈ program.classes,
    declaration.name = className ∧ declaration.loader ≠ .primordial ∧
      ∃ field ∈ declaration.fields,
        field.name = fieldName ∧ field.isStatic = true

def LocalMayHold (program : Program) (id : ProcedureId) (value : ValueNumber)
    (object : InstanceKey) : Prop :=
  ∃ entry ∈ program.localPointsTo,
    (entry.procedure = id ∧ entry.value = value) ∧ object ∈ entry.instances

def StaticMayHold (program : Program) (className fieldName : String)
    (object : InstanceKey) : Prop :=
  ∃ entry ∈ program.staticPointsTo,
    (entry.className = className ∧ entry.name = fieldName) ∧
      object ∈ entry.instances

/-- Some static field of an audited class may hold the object. -/
def Global (program : Program) (object : InstanceKey) : Prop :=
  ∃ className fieldName, program.AuditedStatic className fieldName ∧
    program.StaticMayHold className fieldName object

theorem mem_pointsToLocal {program : Program} {id : ProcedureId}
    {value : ValueNumber} {object : InstanceKey} :
    object ∈ program.pointsToLocal id value ↔
      program.LocalMayHold id value object := by
  simp only [pointsToLocal, SortedSet.mem_ofList, List.mem_flatMap,
    List.mem_filter, decide_eq_true_eq, LocalMayHold, and_assoc]

theorem mem_pointsToStatic {program : Program} {className fieldName : String}
    {object : InstanceKey} :
    object ∈ program.pointsToStatic className fieldName ↔
      program.StaticMayHold className fieldName object := by
  simp only [pointsToStatic, SortedSet.mem_ofList, List.mem_flatMap,
    List.mem_filter, decide_eq_true_eq, StaticMayHold, and_assoc]

theorem Accepted.isIgnoredClass_iff {program : Program}
    (accepted : program.Accepted) {className : String} :
    program.isIgnoredClass className = true ↔
      program.OfPlatform className := by
  simp only [isIgnoredClass, Option.any_eq_true_iff_get, OfPlatform,
    ClassDeclaration.isIgnored, decide_eq_true_eq]
  constructor
  · intro ignored
    obtain ⟨isSome, loader⟩ := ignored
    have found : program.class? className =
        some ((program.class? className).get isSome) := by simp
    obtain ⟨listed, named⟩ := accepted.class?_eq_some_iff.mp found
    exact ⟨_, listed, named, loader⟩
  · intro platform
    obtain ⟨declaration, listed, named, loader⟩ := platform
    have found := accepted.class?_eq_some_iff.mpr ⟨listed, named⟩
    simp only [found]
    exact ⟨rfl, loader⟩

theorem Accepted.mem_sortedClasses {program : Program}
    (accepted : program.Accepted) {declaration : ClassDeclaration} :
    declaration ∈ program.sortedClasses ↔ declaration ∈ program.classes := by
  simp only [sortedClasses, List.mem_filterMap, SortedSet.mem_toList,
    SortedSet.mem_ofList, List.mem_map]
  constructor
  · intro member
    obtain ⟨name, _, found⟩ := member
    exact (accepted.class?_eq_some_iff.mp found).1
  · intro listed
    exact ⟨declaration.name, ⟨declaration, listed, rfl⟩,
      accepted.class?_eq_some_iff.mpr ⟨listed, rfl⟩⟩

theorem Accepted.mem_staticFields {program : Program}
    (accepted : program.Accepted) {className fieldName : String} :
    (∃ field ∈ program.staticFields,
        field.className = className ∧ field.name = fieldName) ↔
      program.AuditedStatic className fieldName := by
  simp only [staticFields, List.mem_flatMap, List.mem_filter,
    accepted.mem_sortedClasses, ClassDeclaration.isIgnored,
    ClassDeclaration.staticFields, List.mem_map, AuditedStatic,
    Bool.not_eq_true', decide_eq_false_iff_not]
  constructor
  · intro member
    obtain ⟨_, ⟨declaration, ⟨listed, loader⟩, field, ⟨declared, static⟩,
      made⟩, sameClass, sameField⟩ := member
    subst made
    exact ⟨declaration, listed, sameClass, loader, field, declared, sameField,
      static⟩
  · intro audited
    obtain ⟨declaration, listed, sameClass, loader, field, declared, sameField,
      static⟩ := audited
    exact ⟨⟨declaration.name, field.name, field.isFinal⟩,
      ⟨declaration, ⟨listed, loader⟩, field, ⟨declared, static⟩, rfl⟩,
      sameClass, sameField⟩

theorem Accepted.mem_globals {program : Program} (accepted : program.Accepted)
    {object : InstanceKey} :
    object ∈ program.scope.globals ↔ program.Global object := by
  simp only [scope, SortedSet.mem_unions, List.mem_map]
  constructor
  · intro member
    obtain ⟨_, ⟨field, listed, made⟩, member⟩ := member
    subst made
    exact ⟨field.className, field.name,
      accepted.mem_staticFields.mp ⟨field, listed, rfl, rfl⟩,
      mem_pointsToStatic.mp member⟩
  · intro global
    obtain ⟨className, fieldName, audited, held⟩ := global
    obtain ⟨field, listed, sameClass, sameField⟩ :=
      accepted.mem_staticFields.mpr audited
    subst sameClass
    subst sameField
    exact ⟨_, ⟨field, listed, rfl⟩, mem_pointsToStatic.mpr held⟩

/-- Something is known about the lock, and it is a global object. -/
def Trusts (program : Program) (id : ProcedureId) (lock : ValueNumber) :
    Prop :=
  (∃ object, program.LocalMayHold id lock object) ∧
    ∀ object, program.LocalMayHold id lock object → program.Global object

/-- The lock of a synchronized method is trusted: that of a static method is
its class, that of any other is value 1. -/
def TrustsMethod (program : Program) (id : ProcedureId)
    (procedure : Procedure) : Prop :=
  procedure.isStatic = true ∨ program.Trusts id 1

/-- The method is synchronized on a trusted lock. -/
def Guarded (program : Program) (id : ProcedureId) (procedure : Procedure) :
    Prop :=
  procedure.isSynchronized = true ∧ program.TrustsMethod id procedure

/-- The method is synchronized on a lock that is not trusted. -/
def Exposed (program : Program) (id : ProcedureId) (procedure : Procedure) :
    Prop :=
  procedure.isSynchronized = true ∧ ¬program.TrustsMethod id procedure

theorem Accepted.trustsLock_iff {program : Program}
    (accepted : program.Accepted) {id : ProcedureId} {lock : ValueNumber} :
    program.scope.trustsLock id lock = true ↔ program.Trusts id lock := by
  have known : (!(program.pointsToLocal id lock).isEmpty) = true ↔
      ∃ object, program.LocalMayHold id lock object := by
    rw [Bool.not_eq_true', Bool.eq_false_iff, Ne, SortedSet.isEmpty_iff,
      Classical.not_forall]
    simp only [Classical.not_not, mem_pointsToLocal]
  have covered : (program.pointsToLocal id lock).isSubset
        program.scope.globals = true ↔
      ∀ object, program.LocalMayHold id lock object →
        program.Global object := by
    simp only [SortedSet.isSubset_iff, mem_pointsToLocal, accepted.mem_globals]
  exact Bool.and_eq_true _ _ ▸ and_congr known covered

theorem Accepted.trustsMethod_iff {program : Program}
    (accepted : program.Accepted) {id : ProcedureId} {procedure : Procedure} :
    program.scope.trustsMethod id procedure = true ↔
      program.TrustsMethod id procedure := by
  unfold Scope.trustsMethod TrustsMethod Procedure.receiver?
  cases procedure.isStatic with
  | true => simp
  | false => simp [accepted.trustsLock_iff]

theorem Accepted.isGuarded_iff {program : Program}
    (accepted : program.Accepted) {id : ProcedureId} {procedure : Procedure} :
    program.scope.isGuarded id procedure = true ↔
      program.Guarded id procedure := by
  rw [Scope.isGuarded, Bool.and_eq_true, accepted.trustsMethod_iff, Guarded]

theorem Accepted.isExposed_iff {program : Program}
    (accepted : program.Accepted) {id : ProcedureId} {procedure : Procedure} :
    program.scope.isExposed id procedure = true ↔
      program.Exposed id procedure := by
  rw [Scope.isExposed, Bool.and_eq_true, Bool.not_eq_true', Bool.eq_false_iff,
    Ne, accepted.trustsMethod_iff, Exposed]

end Program

/-- The index lies in the block that starts at `enter`. -/
def Procedure.InBlock (procedure : Procedure) (enter index : Nat) : Prop :=
  enter ≤ index ∧ index ≤ matchingExit procedure.code enter

/-- A block on a trusted lock contains the instruction. -/
def Program.Covered (program : Program) (id : ProcedureId)
    (procedure : Procedure) (index : Nat) : Prop :=
  ∃ enter lock, procedure.operation? enter = some (.monitorEnter lock) ∧
    program.Trusts id lock ∧ procedure.InBlock enter index

theorem Procedure.operation?_eq_some_iff {procedure : Procedure} {index : Nat}
    {operation : Operation} :
    procedure.operation? index = some operation ↔
      ∃ instruction, procedure.code[index]? = some instruction ∧
        instruction.operation = operation := by
  rw [Procedure.operation?, Option.map_eq_some_iff]

theorem Procedure.lt_of_operation? {procedure : Procedure} {index : Nat}
    {operation : Operation}
    (listed : procedure.operation? index = some operation) :
    index < procedure.code.length := by
  obtain ⟨instruction, found, _⟩ :=
    Procedure.operation?_eq_some_iff.mp listed
  exact (List.getElem?_eq_some_iff.mp found).1

theorem Block.contains_iff {block : Block} {place : InstructionRef} :
    block.contains place = true ↔
      place.procedure = block.procedure ∧
        block.enter.index ≤ place.index ∧ place.index ≤ block.last := by
  simp only [Block.contains, Bool.and_eq_true, decide_eq_true_eq, and_assoc,
    Block.procedure]

/-- The blocks of a procedure start where it enters a monitor whose lock passes
the test. -/
theorem Procedure.mem_blocks {procedure : Procedure} {id : ProcedureId}
    {test : ValueNumber → Bool} {block : Block} :
    block ∈ procedure.blocks id test ↔
      ∃ enter lock, procedure.operation? enter = some (.monitorEnter lock) ∧
        test lock = true ∧
        block = ⟨⟨id, enter⟩, matchingExit procedure.code enter⟩ := by
  simp only [Procedure.blocks, List.mem_filterMap, Prod.exists,
    List.mem_zipIdx_iff_getElem?, Procedure.operation?_eq_some_iff]
  constructor
  · intro member
    obtain ⟨instruction, enter, listed, made⟩ := member
    split at made
    · next lock entered =>
        split at made
        · next passed =>
            exact ⟨enter, lock, ⟨instruction, listed, entered⟩, passed,
              (Option.some.inj made).symm⟩
        · cases made
    · cases made
  · intro member
    obtain ⟨enter, lock, ⟨instruction, listed, entered⟩, passed, same⟩ := member
    refine ⟨instruction, enter, listed, ?_⟩
    rw [entered]
    simp only [passed, if_true, same]

namespace Program

theorem Accepted.isProtected_iff {program : Program}
    (accepted : program.Accepted) {id : ProcedureId} {procedure : Procedure}
    {index : Nat} :
    isProtected (program.scope.trustedBlocks id procedure) ⟨id, index⟩ = true ↔
      program.Covered id procedure index := by
  simp only [isProtected, List.any_eq_true, Scope.trustedBlocks,
    Procedure.mem_blocks, accepted.trustsLock_iff, Covered]
  constructor
  · intro inTrusted
    obtain ⟨_, ⟨enter, lock, entered, trusted, same⟩, contained⟩ := inTrusted
    subst same
    exact ⟨enter, lock, entered, trusted, (Block.contains_iff.mp contained).2⟩
  · intro covered
    obtain ⟨enter, lock, entered, trusted, inside⟩ := covered
    exact ⟨_, ⟨enter, lock, entered, trusted, rfl⟩,
      Block.contains_iff.mpr ⟨rfl, inside⟩⟩

end Program

end LockAudit
