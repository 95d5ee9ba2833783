import LockAudit.Lock.Block
import LockAudit.Program.Query

/-!
# Trusted locks and exposed regions

An object is global when some static field of an audited class may hold it.  A
lock is trusted when it is known to be a global object; a lock about which
nothing is known is not.  Regions that hold an untrusted lock are exposed: they
do not keep other instances out.
-/

namespace LockAudit

/-- A program with its static fields and global objects. -/
structure Scope where
  program : Program
  staticFields : List StaticField
  globals : SortedSet InstanceKey

def Program.scope (program : Program) : Scope :=
  let staticFields := program.staticFields
  { program
    staticFields
    globals := SortedSet.unions (staticFields.map fun field =>
      program.pointsToStatic field.className field.name) }

namespace Scope

def trustsLock (scope : Scope) (id : ProcedureId) (lock : ValueNumber) : Bool :=
  let pointed := scope.program.pointsToLocal id lock
  !pointed.isEmpty && pointed.isSubset scope.globals

/-- Static methods lock their class; instance methods lock the receiver. -/
def trustsMethod (scope : Scope) (id : ProcedureId) (procedure : Procedure) :
    Bool :=
  match procedure.receiver? with
  | none => true
  | some receiver => scope.trustsLock id receiver

/-- The whole method runs under a trusted lock. -/
def isGuarded (scope : Scope) (id : ProcedureId) (procedure : Procedure) :
    Bool :=
  procedure.isSynchronized && scope.trustsMethod id procedure

/-- The whole method runs under an untrusted lock. -/
def isExposed (scope : Scope) (id : ProcedureId) (procedure : Procedure) :
    Bool :=
  procedure.isSynchronized && !scope.trustsMethod id procedure

def trustedBlocks (scope : Scope) (id : ProcedureId) (procedure : Procedure) :
    List Block :=
  procedure.blocks id (scope.trustsLock id)

def exposedBlocks (scope : Scope) (id : ProcedureId) (procedure : Procedure) :
    List Block :=
  procedure.blocks id (!scope.trustsLock id ·)

end Scope

/-- The exposed regions of a program, in the order of its procedures. -/
structure Regions where
  blocks : List Block
  methods : List ProcedureId
  deriving DecidableEq, Repr

namespace Regions

def isEmpty (regions : Regions) : Bool :=
  regions.blocks.isEmpty && regions.methods.isEmpty

end Regions

/-- The procedures that are audited. -/
def Program.auditedProcedures (program : Program) :
    List (Procedure × ProcedureId) :=
  program.procedures.zipIdx.filter fun (procedure, _) =>
    !program.isIgnored procedure

def Scope.regions (scope : Scope) : Regions :=
  let audited := scope.program.auditedProcedures
  { blocks := audited.flatMap fun (procedure, id) =>
      scope.exposedBlocks id procedure
    methods := audited.filterMap fun (procedure, id) =>
      if scope.isExposed id procedure then some id else none }

end LockAudit
