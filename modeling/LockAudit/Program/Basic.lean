/-!
# Programs under audit

A program is a snapshot taken by the front end of the analysis: class
declarations, procedures with their instructions and resolved calls, and what
local values and static fields may point to.
-/

namespace LockAudit

/-- A value inside one procedure. -/
abbrev ValueNumber := UInt32

/-- A call site inside one procedure. -/
abbrev SiteNumber := UInt32

abbrev LineNumber := UInt32

/-- An abstract object of the points-to analysis. -/
abbrev InstanceKey := UInt64

/-- The position of a procedure in its program. -/
abbrev ProcedureId := Nat

/-- The class loader that defined a class.  Classes of the primordial loader
are the platform's and are not audited. -/
inductive Loader where
  | application | extension | primordial
  deriving DecidableEq, Repr

structure FieldDeclaration where
  name : String
  descriptor : Option String := none
  isStatic : Bool := false
  isFinal : Bool := false
  deriving DecidableEq, Repr

structure ClassDeclaration where
  name : String
  superName : Option String := none
  loader : Loader := .application
  sourceFile : Option String := none
  fields : List FieldDeclaration := []
  deriving DecidableEq, Repr

/-- A field as an instruction names it; the class may inherit the field. -/
structure FieldReference where
  className : String
  name : String
  deriving DecidableEq, Repr

instance : ToString FieldReference :=
  ⟨fun field => s!"{field.className}.{field.name}"⟩

inductive Operation where
  | fieldRead (field : FieldReference) (receiver : Option ValueNumber)
  | fieldWrite (field : FieldReference) (receiver : Option ValueNumber)
  | monitorEnter (lock : ValueNumber)
  | monitorExit (lock : ValueNumber)
  | invoke (site : SiteNumber)
  | other
  deriving DecidableEq, Repr

structure Instruction where
  line : Option LineNumber := none
  operation : Operation
  deriving DecidableEq, Repr

/-- Procedures that a call site may invoke. -/
structure CallTargets where
  site : SiteNumber
  targets : List ProcedureId := []
  deriving DecidableEq, Repr

/-- A method in one analysis context. -/
structure Procedure where
  className : String
  name : String
  descriptor : String
  isStatic : Bool := false
  isSynchronized : Bool := false
  context : Option String := none
  line : Option LineNumber := none
  /-- `none` when there is no code to analyse. -/
  body : Option (List Instruction) := none
  calls : List CallTargets := []
  deriving DecidableEq, Repr

namespace Procedure

/-- The value that holds the receiver of an instance method. -/
def receiver? (procedure : Procedure) : Option ValueNumber :=
  if procedure.isStatic then none else some 1

def code (procedure : Procedure) : List Instruction :=
  procedure.body.getD []

def operation? (procedure : Procedure) (index : Nat) : Option Operation :=
  procedure.code[index]?.map (·.operation)

/-- Class, name and descriptor, followed by the context when there is one. -/
def signature (procedure : Procedure) : String :=
  let method :=
    s!"{procedure.className}.{procedure.name}{procedure.descriptor}"
  match procedure.context with
  | some context => s!"{method} [{context}]"
  | none => method

end Procedure

structure LocalPointsTo where
  procedure : ProcedureId
  value : ValueNumber
  instances : List InstanceKey := []
  deriving DecidableEq, Repr

structure StaticPointsTo where
  className : String
  name : String
  instances : List InstanceKey := []
  deriving DecidableEq, Repr

structure Program where
  classes : List ClassDeclaration := []
  procedures : List Procedure := []
  localPointsTo : List LocalPointsTo := []
  staticPointsTo : List StaticPointsTo := []
  deriving DecidableEq, Repr

end LockAudit
