import LockAudit.Program.Load
import LockAudit.Proofs.KeyedTables
import LockAudit.Proofs.TrustedLocks

/-!
# Tables of a loaded program

The contract of a program can be checked while its parts are entered into
tables: the classes by name, and the points-to sets by what holds them.  Loops
over classes, procedures and points-to entries check each part before they go on
to the next one, and the first breach ends them all.

The breach is the first one that `Program.violations` lists.  Where there is
none, all parts are entered, and the tables answer as the program does.
-/

namespace LockAudit

/-- Fails with the first report, and has the result when there is none. -/
def firstOr (reports : List ε) (result : α) : Except ε α :=
  match reports.head? with
  | some report => .error report
  | none => .ok result

theorem firstOr_bind {reports more : List ε} {result : α} {final : β}
    {next : α → Except ε β} (after : next result = firstOr more final) :
    (firstOr reports result >>= next) = firstOr (reports ++ more) final := by
  cases reports with
  | nil => exact after
  | cons report reports => rfl

theorem firstOr_bind_pure (reports : List ε) (result : α) (final : α → β) :
    (firstOr reports result >>= fun value => pure (final value)) =
      firstOr reports (final result) := by
  cases reports with
  | nil => rfl
  | cons report reports => rfl

/-- A loop that checks every item fails with the first fault of the first item
that has one. -/
theorem forM_eq_firstOr {ι : Type} {check : ι → Except ε Unit}
    {faults : ι → List ε} (checked : ∀ item, check item = firstOr (faults item) ())
    (items : List ι) :
    items.forM check = firstOr (items.flatMap faults) () := by
  induction items with
  | nil => rfl
  | cons item items induction =>
      calc
        (item :: items).forM check =
            (check item >>= fun _ => items.forM check) := rfl
        _ = (firstOr (faults item) () >>= fun _ => items.forM check) := by
          rw [checked]
        _ = firstOr (faults item ++ items.flatMap faults) () :=
          firstOr_bind induction

/-- A loop that enters every item that is free of faults. -/
theorem foldlM_eq_firstOr {ι : Type} {step : α → ι → Except ε α}
    {faults : ι → List ε} {enter : α → ι → α}
    (checked : ∀ table item,
      step table item = firstOr (faults item) (enter table item))
    (items : List ι) (table : α) :
    items.foldlM step table =
      firstOr (items.flatMap faults) (items.foldl enter table) := by
  induction items generalizing table with
  | nil => rfl
  | cons item items induction =>
      rw [List.foldlM_cons, checked, List.flatMap_cons, List.foldl_cons]
      exact firstOr_bind (induction (enter table item))

/-- A loop that ends at the first item for which a test holds. -/
theorem foldlM_eq_firstOr_filter {ι : Type} {step : α → ι → Except ε α}
    {test : ι → Bool} {make : ι → ε} {enter : α → ι → α}
    (checked : ∀ table item, step table item =
      if test item then .error (make item) else .ok (enter table item))
    (items : List ι) (table : α) :
    items.foldlM step table =
      firstOr ((items.filter test).map make) (items.foldl enter table) := by
  rw [← List.filterMap_eq_filter, List.map_filterMap,
    List.filterMap_eq_flatMap_toList]
  apply foldlM_eq_firstOr
  intro table item
  rw [checked, Option.guard]
  split
  · rfl
  · rfl

theorem firstOr_map_filter {ι : Type} {test : ι → Bool} {make : ι → ε}
    {items : List ι} {result : α} :
    firstOr ((items.filter test).map make) result =
      firstOr ((items.find? test).toList.map make) result := by
  rw [firstOr, List.head?_map, List.head?_filter]
  cases items.find? test with
  | none => rfl
  | some item => rfl

/-- The classes that have been met, by name, and the names that have been met
again. -/
structure DeclaredClasses where
  classes : Std.TreeMap String ClassDeclaration
  duplicates : SortedSet String

structure ProgramTables where
  classes : Std.TreeMap String ClassDeclaration
  procedures : List Procedure
  localPointsTo :
    Std.TreeMap (ProcedureId × ValueNumber) (SortedSet InstanceKey) pairOrder
  staticPointsTo :
    Std.TreeMap (String × String) (SortedSet InstanceKey) pairOrder

def checkField (className : String) (field : FieldDeclaration) :
    Except ContractViolation Unit :=
  match field.descriptor with
  | none => .ok ()
  | some descriptor =>
      match fieldType descriptor with
      | .ok _ => .ok ()
      | .error error => .error (.fieldDescriptor className field.name error)

namespace DeclaredClasses

/-- The first class of a name is kept. -/
def add (declared : DeclaredClasses) (declaration : ClassDeclaration) :
    DeclaredClasses :=
  if declared.classes.contains declaration.name then
    { declared with
      duplicates := declared.duplicates.insert declaration.name }
  else
    { declared with
      classes := declared.classes.insert declaration.name declaration }

def enter (declared : DeclaredClasses) (declaration : ClassDeclaration) :
    Except ContractViolation DeclaredClasses := do
  declaration.fields.forM (checkField declaration.name)
  return declared.add declaration

end DeclaredClasses

def checkDuplicates (names : SortedSet String) :
    Except ContractViolation Unit :=
  if names.isEmpty then .ok () else .error (.duplicateClasses names)

def checkClass (classes : Std.TreeMap String ClassDeclaration)
    (id : ProcedureId) (procedure : Procedure) :
    Except ContractViolation Unit :=
  if classes.contains procedure.className then
    .ok ()
  else
    .error (.undeclaredClass id procedure.signature procedure.className)

def checkDescriptor (id : ProcedureId) (procedure : Procedure) :
    Except ContractViolation Unit :=
  match methodType procedure.descriptor with
  | .ok _ => .ok ()
  | .error error => .error (.methodDescriptor id procedure.signature error)

def checkCall (count : Nat) (id : ProcedureId) (call : CallTargets) :
    Except ContractViolation Unit :=
  match call.targets.find? (count ≤ ·) with
  | none => .ok ()
  | some target => .error (.unknownTarget id call.site target)

def checkProcedure (classes : Std.TreeMap String ClassDeclaration)
    (count : Nat) (numbered : Procedure × ProcedureId) :
    Except ContractViolation Unit := do
  checkClass classes numbered.2 numbered.1
  checkDescriptor numbered.2 numbered.1
  numbered.1.calls.forM (checkCall count numbered.2)

def enterLocal (count : Nat)
    (table :
      Std.TreeMap (ProcedureId × ValueNumber) (SortedSet InstanceKey) pairOrder)
    (entry : LocalPointsTo) :
    Except ContractViolation (Std.TreeMap (ProcedureId × ValueNumber)
      (SortedSet InstanceKey) pairOrder) :=
  if count ≤ entry.procedure then
    .error (.unknownProcedure entry.value entry.procedure)
  else
    .ok (extend table (entry.procedure, entry.value) entry.instances)

/-- The first field of the name has to be static. -/
def enterStatic (classes : Std.TreeMap String ClassDeclaration)
    (table : Std.TreeMap (String × String) (SortedSet InstanceKey) pairOrder)
    (entry : StaticPointsTo) :
    Except ContractViolation
      (Std.TreeMap (String × String) (SortedSet InstanceKey) pairOrder) :=
  let field := classes[entry.className]?.bind (·.field? entry.name)
  if field.any (·.isStatic) then
    .ok (extend table (entry.className, entry.name) entry.instances)
  else
    .error (.unknownStaticField entry.className entry.name)

/-- Checks a program part by part, and enters the parts into tables. -/
def Program.tabulate (program : Program) :
    Except ContractViolation ProgramTables := do
  let count := program.procedures.length
  let declared ← program.classes.foldlM DeclaredClasses.enter ⟨∅, ∅⟩
  checkDuplicates declared.duplicates
  program.procedures.zipIdx.forM (checkProcedure declared.classes count)
  let locals ← program.localPointsTo.foldlM (enterLocal count) ∅
  let statics ←
    program.staticPointsTo.foldlM (enterStatic declared.classes) ∅
  return ⟨declared.classes, program.procedures, locals, statics⟩

namespace ProgramTables

def class? (tables : ProgramTables) (name : String) :
    Option ClassDeclaration :=
  tables.classes[name]?

/-- The static fields of the classes that are audited, in the order of the
table. -/
def staticFields (tables : ProgramTables) : List StaticField :=
  ((tables.classes.toList.map Prod.snd).filter (!·.isIgnored)).flatMap
    ClassDeclaration.staticFields

def pointsToLocal (tables : ProgramTables) (procedure : ProcedureId)
    (value : ValueNumber) : SortedSet InstanceKey :=
  tables.localPointsTo.getD (procedure, value) ∅

def pointsToStatic (tables : ProgramTables) (className name : String) :
    SortedSet InstanceKey :=
  tables.staticPointsTo.getD (className, name) ∅

/-- The tables answer questions as the program does. -/
structure Answers (tables : ProgramTables) (program : Program) : Prop where
  classes : ∀ name, tables.class? name = program.class? name
  procedures : ∀ id, tables.procedures[id]? = program.procedure? id
  staticFields : tables.staticFields = program.staticFields
  pointsToLocal : ∀ procedure value,
    tables.pointsToLocal procedure value =
      program.pointsToLocal procedure value
  pointsToStatic : ∀ className name,
    tables.pointsToStatic className name =
      program.pointsToStatic className name

end ProgramTables

theorem checkField_eq_firstOr (declaration : ClassDeclaration) :
    declaration.fields.forM (checkField declaration.name) =
      firstOr declaration.violations () := by
  rw [ClassDeclaration.violations, List.filterMap_eq_flatMap_toList]
  apply forM_eq_firstOr
  intro field
  rw [checkField]
  cases field.descriptor with
  | none => rfl
  | some descriptor =>
      dsimp only
      cases fieldType descriptor with
      | ok type => rfl
      | error error => rfl

namespace DeclaredClasses

theorem enter_eq_firstOr (declared : DeclaredClasses)
    (declaration : ClassDeclaration) :
    declared.enter declaration =
      firstOr declaration.violations (declared.add declaration) := by
  rw [enter, checkField_eq_firstOr]
  exact firstOr_bind_pure _ _ _

/-- The table has the first class of every name, and the names that more than
one class has are known. -/
structure Records (declared : DeclaredClasses)
    (met : List ClassDeclaration) : Prop where
  classes : ∀ name,
    declared.classes[name]? = met.find? (·.name = name)
  duplicates : ∀ name, name ∈ declared.duplicates ↔
    1 < (met.map (·.name)).count name

theorem Records.contains_iff {declared : DeclaredClasses}
    {met : List ClassDeclaration} (recorded : declared.Records met)
    {name : String} :
    declared.classes.contains name = true ↔
      0 < (met.map (·.name)).count name := by
  rw [← Std.TreeMap.isSome_getElem?_eq_contains, recorded.classes,
    List.count_pos_iff]
  simp

theorem Records.add {declared : DeclaredClasses}
    {met : List ClassDeclaration} (recorded : declared.Records met)
    (declaration : ClassDeclaration) :
    (declared.add declaration).Records (met ++ [declaration]) := by
  have found : ∀ name, (met ++ [declaration]).find? (·.name = name) =
      declared.classes[name]?.or
        (if declaration.name = name then some declaration else none) := by
    intro name
    rw [List.find?_append, recorded.classes]
    simp [List.find?_singleton]
  have counted : ∀ name, ((met ++ [declaration]).map (·.name)).count name =
      (met.map (·.name)).count name +
        if declaration.name = name then 1 else 0 := by
    intro name
    simp [List.count_singleton]
  have known : declared.classes.contains declaration.name = true ↔
      0 < (met.map (·.name)).count declaration.name :=
    recorded.contains_iff
  unfold DeclaredClasses.add
  split
  · next again =>
      refine ⟨?_, ?_⟩
      · intro name
        rw [found]
        grind
      · intro name
        rw [SortedSet.mem_insert, recorded.duplicates, counted]
        grind
  · next fresh =>
      refine ⟨?_, ?_⟩
      · intro name
        simp only [found, Std.TreeMap.getElem?_insert,
          Std.LawfulEqCmp.compare_eq_iff_eq]
        grind
      · intro name
        rw [recorded.duplicates, counted]
        grind

theorem records_foldl_add (declared : DeclaredClasses)
    (met classes : List ClassDeclaration) (recorded : declared.Records met) :
    (classes.foldl add declared).Records (met ++ classes) := by
  induction classes generalizing declared met with
  | nil => simpa using recorded
  | cons declaration classes induction =>
      simpa using induction (declared.add declaration) (met ++ [declaration])
        (recorded.add declaration)

end DeclaredClasses

namespace Program

/-- All classes of a program, with the names that it declares again. -/
def declaredClasses (program : Program) : DeclaredClasses :=
  program.classes.foldl DeclaredClasses.add ⟨∅, ∅⟩

/-- The tables into which all parts of a program are entered. -/
def tables (program : Program) : ProgramTables where
  classes := program.declaredClasses.classes
  procedures := program.procedures
  localPointsTo := program.localPointsTo.foldl
    (fun table entry =>
      extend table (entry.procedure, entry.value) entry.instances) ∅
  staticPointsTo := program.staticPointsTo.foldl
    (fun table entry =>
      extend table (entry.className, entry.name) entry.instances) ∅

theorem records_declaredClasses (program : Program) :
    program.declaredClasses.Records program.classes :=
  DeclaredClasses.records_foldl_add ⟨∅, ∅⟩ [] program.classes
    ⟨by simp, by simp⟩

theorem getElem?_declaredClasses (program : Program) (name : String) :
    program.declaredClasses.classes[name]? = program.class? name :=
  program.records_declaredClasses.classes name

theorem contains_declaredClasses (program : Program) (name : String) :
    program.declaredClasses.classes.contains name =
      (program.class? name).isSome := by
  rw [← Std.TreeMap.isSome_getElem?_eq_contains, getElem?_declaredClasses]

theorem duplicates_declaredClasses (program : Program) :
    program.declaredClasses.duplicates = program.duplicateNames := by
  apply SortedSet.ext
  intro name
  simp only [program.records_declaredClasses.duplicates, duplicateNames,
    SortedSet.mem_ofList, List.mem_filter, decide_eq_true_eq,
    iff_and_self]
  intro repeated
  exact List.count_pos_iff.mp (Nat.lt_trans Nat.zero_lt_one repeated)

theorem foldlM_enter (program : Program) :
    program.classes.foldlM DeclaredClasses.enter ⟨∅, ∅⟩ =
      firstOr (program.classes.flatMap ClassDeclaration.violations)
        program.declaredClasses :=
  foldlM_eq_firstOr DeclaredClasses.enter_eq_firstOr program.classes ⟨∅, ∅⟩

theorem checkDuplicates_eq_firstOr (program : Program) :
    checkDuplicates program.declaredClasses.duplicates =
      firstOr program.duplicateViolations () := by
  rw [duplicates_declaredClasses, checkDuplicates, duplicateViolations]
  split
  · rfl
  · rfl

theorem checkCall_eq_firstOr (count : Nat) (id : ProcedureId)
    (call : CallTargets) :
    checkCall count id call =
      firstOr ((call.targets.filter (count ≤ ·)).map
        (.unknownTarget id call.site)) () := by
  rw [firstOr_map_filter, checkCall]
  cases call.targets.find? (count ≤ ·) with
  | none => rfl
  | some target => rfl

theorem checkProcedure_eq_firstOr (program : Program)
    (numbered : Procedure × ProcedureId) :
    checkProcedure program.declaredClasses.classes program.procedures.length
        numbered =
      firstOr (program.procedureViolations numbered.1 numbered.2) () := by
  have classes : checkClass program.declaredClasses.classes numbered.2
      numbered.1 = firstOr
        (if (program.class? numbered.1.className).isSome then [] else
          [.undeclaredClass numbered.2 numbered.1.signature
            numbered.1.className]) () := by
    rw [checkClass, contains_declaredClasses]
    split
    · rfl
    · rfl
  have calls := forM_eq_firstOr
    (checkCall_eq_firstOr program.procedures.length numbered.2)
    numbered.1.calls
  rw [checkProcedure, classes, procedureViolations, List.append_assoc]
  apply firstOr_bind
  rw [checkDescriptor]
  cases methodType numbered.1.descriptor with
  | ok type => exact calls
  | error error => rfl

theorem foldlM_enterLocal (program : Program) :
    program.localPointsTo.foldlM (enterLocal program.procedures.length) ∅ =
      firstOr program.localViolations program.tables.localPointsTo := by
  apply foldlM_eq_firstOr_filter
  intro table entry
  simp [enterLocal]

theorem foldlM_enterStatic (program : Program) :
    program.staticPointsTo.foldlM
        (enterStatic program.declaredClasses.classes) ∅ =
      firstOr program.staticViolations program.tables.staticPointsTo := by
  apply foldlM_eq_firstOr_filter
  intro table entry
  have declares : program.declaresStatic entry.className entry.name =
      ((program.class? entry.className).bind
        (·.field? entry.name)).any (·.isStatic) := by
    rw [declaresStatic]
    cases program.class? entry.className with
    | none => rfl
    | some declaration => rfl
  rw [enterStatic, getElem?_declaredClasses, declares]
  split
  · next static => simp [static]
  · next other => simp [other]

/-- The loops end with the first breach of the contract, and otherwise with the
tables of all parts. -/
theorem tabulate_eq_firstOr (program : Program) :
    program.tabulate = firstOr program.violations program.tables := by
  have procedures := forM_eq_firstOr program.checkProcedure_eq_firstOr
    program.procedures.zipIdx
  simp only [tabulate, violations, classViolations, List.append_assoc]
  rw [foldlM_enter]
  apply firstOr_bind
  rw [checkDuplicates_eq_firstOr]
  apply firstOr_bind
  rw [procedures]
  apply firstOr_bind
  rw [foldlM_enterLocal]
  apply firstOr_bind
  rw [foldlM_enterStatic]
  exact firstOr_bind_pure _ _ _

theorem tabulate_eq_ok_iff {program : Program} {tables : ProgramTables} :
    program.tabulate = .ok tables ↔
      program.Accepted ∧ tables = program.tables := by
  rw [tabulate_eq_firstOr, Accepted]
  cases program.violations with
  | nil => simp [firstOr, eq_comm]
  | cons violation rest => simp [firstOr]

theorem tabulate_eq_error_iff {program : Program}
    {violation : ContractViolation} :
    program.tabulate = .error violation ↔
      program.check = .error (.inconsistent violation) := by
  rw [tabulate_eq_firstOr, check]
  cases program.violations with
  | nil => simp [firstOr]
  | cons first rest => simp [firstOr]

theorem keys_declaredClasses (program : Program) :
    program.declaredClasses.classes.keys =
      (SortedSet.ofList (program.classes.map (·.name))).toList := by
  apply SortedSet.eq_toList_ofList Std.TreeMap.ordered_keys
  intro name
  rw [Std.TreeMap.mem_keys, Std.TreeMap.mem_iff_contains,
    contains_declaredClasses]
  simp [class?]

/-- The table lists the classes in the order of their names. -/
theorem toList_declaredClasses (program : Program) :
    program.declaredClasses.classes.toList.map Prod.snd =
      program.sortedClasses := by
  have entries : ∀ entry ∈ program.declaredClasses.classes.toList,
      program.class? entry.1 = some entry.2 := by
    intro entry listed
    rw [← getElem?_declaredClasses]
    exact Std.TreeMap.mem_toList_iff_getElem?_eq_some.mp listed
  calc
    program.declaredClasses.classes.toList.map Prod.snd =
        program.declaredClasses.classes.toList.filterMap
          fun entry => program.class? entry.1 := by
      rw [List.filterMap_congr entries, List.filterMap_eq_map']
    _ = program.declaredClasses.classes.keys.filterMap program.class? := by
      rw [← Std.TreeMap.map_fst_toList_eq_keys, List.filterMap_map]
      rfl
    _ = program.sortedClasses := by
      rw [keys_declaredClasses]
      rfl

/-- The tables answer as the program does. -/
theorem tables_answer (program : Program) :
    program.tables.Answers program where
  classes := program.getElem?_declaredClasses
  procedures _ := rfl
  staticFields := by
    rw [ProgramTables.staticFields, staticFields, ← toList_declaredClasses]
    rfl
  pointsToLocal procedure value := by
    apply SortedSet.ext
    intro object
    rw [mem_pointsToLocal, ProgramTables.pointsToLocal, tables,
      mem_getD_foldl_extend]
    simp [LocalMayHold]
  pointsToStatic className name := by
    apply SortedSet.ext
    intro object
    rw [mem_pointsToStatic, ProgramTables.pointsToStatic, tables,
      mem_getD_foldl_extend]
    simp [StaticMayHold]

end Program

end LockAudit
