import LockAudit.Lock.Scope

/-!
# What a write modifies

A write to a static field modifies global state unless the field is final or
belongs to the platform.  A write to a field of an object does so when the
object may be a global one.
-/

namespace LockAudit

/-- Why an audit ends without findings. -/
inductive AuditError where
  | stopped (steps : Nat)
  | unresolvedField (field : FieldReference) (signature : String)
  | missingReceiver (field : FieldReference) (signature : String)
  | unknownProcedure (id : ProcedureId)
  deriving DecidableEq, Repr

def AuditError.message : AuditError → String
  | stopped steps => s!"bit-vector solver was stopped after {steps} steps"
  | unresolvedField field signature =>
      s!"cannot resolve field {field} written in {signature}"
  | missingReceiver field signature =>
      s!"instance field {field} written in {signature} has no receiver"
  | unknownProcedure id => s!"unknown procedure id {id}"

inductive WriteTarget where
  | staticField (field : StaticField)
  | fieldOf (receiver : ValueNumber)
  deriving DecidableEq, Repr

/-- What a write to a field of a receiver modifies. -/
def Program.writeTarget (program : Program) (procedure : Procedure)
    (field : FieldReference) (receiver : Option ValueNumber) :
    Except AuditError WriteTarget :=
  match program.resolveField field with
  | none => .error (.unresolvedField field procedure.signature)
  | some resolved =>
      if resolved.declaration.isStatic then
        .ok (.staticField
          ⟨resolved.className, resolved.declaration.name,
            resolved.declaration.isFinal⟩)
      else
        match receiver with
        | some receiver => .ok (.fieldOf receiver)
        | none => .error (.missingReceiver field procedure.signature)

namespace Scope

/-- The operation writes global state. -/
def isSharedWrite (scope : Scope) (id : ProcedureId) (procedure : Procedure) :
    Operation → Except AuditError Bool
  | .fieldWrite field receiver => do
      match ← scope.program.writeTarget procedure field receiver with
      | .staticField field =>
          return !field.isFinal && !scope.program.isIgnoredClass field.className
      | .fieldOf receiver =>
          return (scope.program.pointsToLocal id receiver).meets scope.globals
  | _ => .ok false

/-- The names of the static fields that may hold one of the objects. -/
def holders (scope : Scope) (objects : SortedSet InstanceKey) :
    SortedSet String :=
  let holding := scope.staticFields.filter fun field =>
    (scope.program.pointsToStatic field.className field.name).meets objects
  SortedSet.ofList (holding.map StaticField.qualifiedName)

/-- The names of the static fields that an instruction writes, or that may hold
the object whose field it writes. -/
def modifiedFields (scope : Scope) (instruction : InstructionRef) :
    Except AuditError (SortedSet String) :=
  match scope.program.procedure? instruction.procedure with
  | none => .error (.unknownProcedure instruction.procedure)
  | some procedure =>
      match procedure.operation? instruction.index with
      | some (.fieldWrite field receiver) => do
          match ← scope.program.writeTarget procedure field receiver with
          | .staticField field => return .ofList [field.qualifiedName]
          | .fieldOf receiver =>
              return scope.holders
                (scope.program.pointsToLocal instruction.procedure receiver)
      | _ => .ok ∅

end Scope

end LockAudit
