import LockAudit.Json.Value
import LockAudit.Program.Basic

/-!
# Encoding programs

The JSON form of a program.  Absent options are written as null, and an
operation names its kind in the member `op`.
-/

namespace LockAudit

open Json (Value)

/-- Null for an absent value. -/
def encodeOption (encode : α → Value) : Option α → Value
  | none => .null
  | some value => encode value

def Loader.encode : Loader → Value
  | application => .string "application"
  | extension => .string "extension"
  | primordial => .string "primordial"

def FieldDeclaration.encode (field : FieldDeclaration) : Value :=
  .object [
    ("descriptor", encodeOption .string field.descriptor),
    ("is_final", .bool field.isFinal),
    ("is_static", .bool field.isStatic),
    ("name", .string field.name)]

def ClassDeclaration.encode (declaration : ClassDeclaration) : Value :=
  .object [
    ("fields", .array (declaration.fields.map FieldDeclaration.encode)),
    ("loader", declaration.loader.encode),
    ("name", .string declaration.name),
    ("source_file", encodeOption .string declaration.sourceFile),
    ("super_name", encodeOption .string declaration.superName)]

def FieldReference.encode (field : FieldReference) : Value :=
  .object [("class", .string field.className), ("name", .string field.name)]

def encodeWord (word : UInt32) : Value :=
  .nat word.toNat

def encodeLong (long : UInt64) : Value :=
  .nat long.toNat

def Operation.encode : Operation → Value
  | fieldRead field receiver =>
      .object [("field", field.encode), ("op", .string "field_read"),
        ("receiver", encodeOption encodeWord receiver)]
  | fieldWrite field receiver =>
      .object [("field", field.encode), ("op", .string "field_write"),
        ("receiver", encodeOption encodeWord receiver)]
  | monitorEnter lock =>
      .object [("lock", encodeWord lock), ("op", .string "monitor_enter")]
  | monitorExit lock =>
      .object [("lock", encodeWord lock), ("op", .string "monitor_exit")]
  | invoke site =>
      .object [("call_site", encodeWord site), ("op", .string "invoke")]
  | other => .object [("op", .string "other")]

def Instruction.encode (instruction : Instruction) : Value :=
  .object [
    ("kind", instruction.operation.encode),
    ("line", encodeOption encodeWord instruction.line)]

def CallTargets.encode (call : CallTargets) : Value :=
  .object [
    ("call_site", encodeWord call.site),
    ("targets", .array (call.targets.map Value.nat))]

def Procedure.encode (procedure : Procedure) : Value :=
  .object [
    ("calls", .array (procedure.calls.map CallTargets.encode)),
    ("class", .string procedure.className),
    ("context", encodeOption .string procedure.context),
    ("descriptor", .string procedure.descriptor),
    ("instructions",
      encodeOption (fun code => .array (code.map Instruction.encode))
        procedure.body),
    ("is_static", .bool procedure.isStatic),
    ("is_synchronized", .bool procedure.isSynchronized),
    ("line", encodeOption encodeWord procedure.line),
    ("name", .string procedure.name)]

def LocalPointsTo.encode (entry : LocalPointsTo) : Value :=
  .object [
    ("instances", .array (entry.instances.map encodeLong)),
    ("procedure", .nat entry.procedure),
    ("value", encodeWord entry.value)]

def StaticPointsTo.encode (entry : StaticPointsTo) : Value :=
  .object [
    ("class", .string entry.className),
    ("instances", .array (entry.instances.map encodeLong)),
    ("name", .string entry.name)]

def Program.encode (program : Program) : Value :=
  .object [
    ("classes", .array (program.classes.map ClassDeclaration.encode)),
    ("points_to", .object [
      ("locals", .array (program.localPointsTo.map LocalPointsTo.encode)),
      ("static_fields",
        .array (program.staticPointsTo.map StaticPointsTo.encode))]),
    ("procedures", .array (program.procedures.map Procedure.encode))]

end LockAudit
