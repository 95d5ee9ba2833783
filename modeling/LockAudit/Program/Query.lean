import LockAudit.ClassName
import LockAudit.Program.Basic
import LockAudit.SortedSet

/-!
# Questions about a program

Declarations by name, field resolution along superclasses, points-to sets and
source positions.
-/

namespace LockAudit

/-- A static field: the class that declares it, and its name. -/
structure StaticField where
  className : String
  name : String
  isFinal : Bool
  deriving DecidableEq, Repr

def StaticField.qualifiedName (field : StaticField) : String :=
  LockAudit.qualifiedName field.className field.name

/-- A field, and the class in which a search along superclasses found it. -/
structure ResolvedField where
  className : String
  declaration : FieldDeclaration
  deriving DecidableEq, Repr

/-- Where a region or a method stands in source text. -/
structure CodePosition where
  className : String
  enclosingClassName : String
  methodName : String
  descriptor : String
  sourceFile : Option String
  line : Option LineNumber
  deriving DecidableEq, Repr

namespace CodePosition

/-- The method as it is named to readers of source text. -/
def methodLabel (position : CodePosition) : String :=
  s!"{sourceName position.className}.{position.methodName}{position.descriptor}"

/-- The method as compiled classes name it. -/
def internalLabel (position : CodePosition) : String :=
  s!"{position.className}.{position.methodName}{position.descriptor}"

end CodePosition

namespace ClassDeclaration

/-- The first declaration of a field of that name. -/
def field? (declaration : ClassDeclaration) (name : String) :
    Option FieldDeclaration :=
  declaration.fields.find? (·.name = name)

def isIgnored (declaration : ClassDeclaration) : Bool :=
  declaration.loader = .primordial

def staticFields (declaration : ClassDeclaration) : List StaticField :=
  (declaration.fields.filter (·.isStatic)).map fun field =>
    ⟨declaration.name, field.name, field.isFinal⟩

end ClassDeclaration

namespace Program

def class? (program : Program) (name : String) : Option ClassDeclaration :=
  program.classes.find? (·.name = name)

def procedure? (program : Program) (id : ProcedureId) : Option Procedure :=
  program.procedures[id]?

/-- Classes of the primordial loader are not audited; a class that is not
declared is. -/
def isIgnoredClass (program : Program) (name : String) : Bool :=
  (program.class? name).any ClassDeclaration.isIgnored

def isIgnored (program : Program) (procedure : Procedure) : Bool :=
  program.isIgnoredClass procedure.className

/-- The declared classes in the order of their names. -/
def sortedClasses (program : Program) : List ClassDeclaration :=
  let names := SortedSet.ofList (program.classes.map (·.name))
  names.toList.filterMap program.class?

/-- The static fields of the classes that are audited, by class name and then
in the order of declaration. -/
def staticFields (program : Program) : List StaticField :=
  (program.sortedClasses.filter (!·.isIgnored)).flatMap
    ClassDeclaration.staticFields

/-- What a local value may point to: the instances of all its entries. -/
def pointsToLocal (program : Program) (procedure : ProcedureId)
    (value : ValueNumber) : SortedSet InstanceKey :=
  let entries := program.localPointsTo.filter fun entry =>
    entry.procedure = procedure ∧ entry.value = value
  SortedSet.ofList (entries.flatMap (·.instances))

/-- What a static field may point to: the instances of all its entries. -/
def pointsToStatic (program : Program) (className name : String) :
    SortedSet InstanceKey :=
  let entries := program.staticPointsTo.filter fun entry =>
    entry.className = className ∧ entry.name = name
  SortedSet.ofList (entries.flatMap (·.instances))

/-- Looks for a field in a class and then in its superclasses, `fuel` classes
in all. -/
def resolveFrom (program : Program) (fieldName : String) :
    (fuel : Nat) → (className : String) → Option ResolvedField
  | 0, _ => none
  | fuel + 1, className =>
      match program.class? className with
      | none => none
      | some declaration =>
          match declaration.field? fieldName with
          | some field => some ⟨declaration.name, field⟩
          | none =>
              match declaration.superName with
              | none => none
              | some superName => program.resolveFrom fieldName fuel superName

/-- The nearest declaration of a field.  A search that has passed as many
classes as there are goes round in a cycle, in which no class declares it. -/
def resolveField (program : Program) (field : FieldReference) :
    Option ResolvedField :=
  program.resolveFrom field.name program.classes.length field.className

def positionAt (program : Program) (procedure : Procedure)
    (line : Option LineNumber) : CodePosition :=
  { className := procedure.className
    enclosingClassName := enclosingClass procedure.className
    methodName := procedure.name
    descriptor := procedure.descriptor
    sourceFile := (program.class? procedure.className).bind (·.sourceFile)
    line := line }

def procedurePosition? (program : Program) (id : ProcedureId) :
    Option CodePosition :=
  (program.procedure? id).map fun procedure =>
    program.positionAt procedure procedure.line

/-- An instruction without a line stands on the line of its procedure. -/
def instructionPosition? (program : Program) (id : ProcedureId) (index : Nat) :
    Option CodePosition :=
  (program.procedure? id).map fun procedure =>
    let line := procedure.code[index]?.bind (·.line)
    program.positionAt procedure (line.or procedure.line)

end Program

end LockAudit
