import LockAudit.Descriptor
import LockAudit.Program.Query

/-!
# The contract of programs

What must hold across the parts of a program before it can be audited.
`Program.violations` lists every breach, in the order of the checks; a program
without breaches is accepted.
-/

namespace LockAudit

inductive ContractViolation where
  | fieldDescriptor (className fieldName : String) (error : DescriptorError)
  | duplicateClasses (names : SortedSet String)
  | undeclaredClass (id : ProcedureId) (signature className : String)
  | methodDescriptor (id : ProcedureId) (signature : String)
      (error : DescriptorError)
  | unknownTarget (id : ProcedureId) (site : SiteNumber) (target : ProcedureId)
  | unknownProcedure (value : ValueNumber) (procedure : ProcedureId)
  | unknownStaticField (className fieldName : String)
  deriving DecidableEq

/-- The messages from the outermost context to the innermost cause. -/
def ContractViolation.messages : ContractViolation → List String
  | fieldDescriptor className fieldName error =>
      s!"field {className}.{fieldName}" :: error.messages
  | duplicateClasses names =>
      let listed := ", ".intercalate names.toList
      [s!"duplicate classes found: {listed}"]
  | undeclaredClass id signature className =>
      [s!"procedure {id} ({signature}) is declared by unknown class {className}"]
  | methodDescriptor id signature error =>
      s!"procedure {id} ({signature})" :: error.messages
  | unknownTarget id site target =>
      [s!"procedure {id} call site {site} targets unknown procedure {target}"]
  | unknownProcedure value procedure =>
      [s!"points-to entry for value {value} names unknown procedure {procedure}"]
  | unknownStaticField className fieldName =>
      [s!"points-to entry names unknown static field {className}.{fieldName}"]

namespace ClassDeclaration

/-- A field may come without a descriptor, but not with a bad one. -/
def violations (declaration : ClassDeclaration) : List ContractViolation :=
  declaration.fields.filterMap fun field =>
    match field.descriptor with
    | none => none
    | some descriptor =>
        match fieldType descriptor with
        | .ok _ => none
        | .error error =>
            some (.fieldDescriptor declaration.name field.name error)

end ClassDeclaration

namespace Program

/-- The names that more than one class has. -/
def duplicateNames (program : Program) : SortedSet String :=
  let names := program.classes.map (·.name)
  SortedSet.ofList (names.filter fun name => 1 < names.count name)

def duplicateViolations (program : Program) : List ContractViolation :=
  let names := program.duplicateNames
  if names.isEmpty then [] else [.duplicateClasses names]

def classViolations (program : Program) : List ContractViolation :=
  program.classes.flatMap ClassDeclaration.violations ++
    program.duplicateViolations

def procedureViolations (program : Program) (procedure : Procedure)
    (id : ProcedureId) : List ContractViolation :=
  let undeclared :=
    if (program.class? procedure.className).isSome then []
    else
      [.undeclaredClass id procedure.signature procedure.className]
  let descriptor :=
    match methodType procedure.descriptor with
    | .ok _ => []
    | .error error => [.methodDescriptor id procedure.signature error]
  let targets := procedure.calls.flatMap fun call =>
    (call.targets.filter (program.procedures.length ≤ ·)).map
      (.unknownTarget id call.site)
  undeclared ++ descriptor ++ targets

def localViolations (program : Program) : List ContractViolation :=
  (program.localPointsTo.filter
      (program.procedures.length ≤ ·.procedure)).map fun entry =>
    .unknownProcedure entry.value entry.procedure

/-- A class declares a static field when the first field of that name is
static. -/
def declaresStatic (program : Program) (className fieldName : String) : Bool :=
  match program.class? className with
  | none => false
  | some declaration => (declaration.field? fieldName).any (·.isStatic)

def staticViolations (program : Program) : List ContractViolation :=
  (program.staticPointsTo.filter fun entry =>
      !program.declaresStatic entry.className entry.name).map fun entry =>
    .unknownStaticField entry.className entry.name

def violations (program : Program) : List ContractViolation :=
  program.classViolations ++
    program.procedures.zipIdx.flatMap
      (fun (procedure, id) => program.procedureViolations procedure id) ++
    program.localViolations ++
    program.staticViolations

/-- The program keeps the contract. -/
def Accepted (program : Program) : Prop :=
  program.violations = []

instance (program : Program) : Decidable program.Accepted :=
  inferInstanceAs (Decidable (program.violations = []))

end Program

end LockAudit
