import LockAudit.Json.Decode
import LockAudit.Program.Basic

/-!
# Decoding programs

Members are decoded in the order of their names, which decides the failure that
is reported when there are several.
-/

namespace LockAudit

open Json (Decoder Value)
open Json.Decoder (bool field fieldOr list long nullable object string unsigned
  whole word)

def Loader.decode : Decoder Loader :=
  fun value => do
    match ← string value with
    | "application" => return .application
    | "extension" => return .extension
    | "primordial" => return .primordial
    | other => Json.Decoder.fail (.unknownName other)

def FieldDeclaration.decode : Decoder FieldDeclaration :=
  fun value => do
    object value
    let descriptor ← fieldOr "descriptor" none (nullable string) value
    let isFinal ← fieldOr "is_final" false bool value
    let isStatic ← fieldOr "is_static" false bool value
    let name ← field "name" string value
    return { name, descriptor, isStatic, isFinal }

def ClassDeclaration.decode : Decoder ClassDeclaration :=
  fun value => do
    object value
    let fields ← fieldOr "fields" [] (list FieldDeclaration.decode) value
    let loader ← fieldOr "loader" .application Loader.decode value
    let name ← field "name" string value
    let sourceFile ← fieldOr "source_file" none (nullable string) value
    let superName ← fieldOr "super_name" none (nullable string) value
    return { name, superName, loader, sourceFile, fields }

def FieldReference.decode : Decoder FieldReference :=
  fun value => do
    object value
    let className ← field "class" string value
    let name ← field "name" string value
    return { className, name }

/-- The field and the receiver of a field access. -/
def Operation.decodeAccess : Decoder (FieldReference × Option ValueNumber) :=
  fun value => do
    let reference ← field "field" FieldReference.decode value
    let receiver ← fieldOr "receiver" none (nullable word) value
    return (reference, receiver)

def Operation.decode : Decoder Operation :=
  fun value => do
    object value
    match ← field "op" string value with
    | "field_read" =>
        let (reference, receiver) ← decodeAccess value
        return .fieldRead reference receiver
    | "field_write" =>
        let (reference, receiver) ← decodeAccess value
        return .fieldWrite reference receiver
    | "monitor_enter" => return .monitorEnter (← field "lock" word value)
    | "monitor_exit" => return .monitorExit (← field "lock" word value)
    | "invoke" => return .invoke (← field "call_site" word value)
    | "other" => return .other
    | unknown => Json.Decoder.fail (.unknownName unknown)

/-- A fault inside the operation is reported of the operation as a whole. -/
def Instruction.decode : Decoder Instruction :=
  fun value => do
    object value
    let operation ← field "kind" (whole Operation.decode) value
    let line ← fieldOr "line" none (nullable word) value
    return { line, operation }

def CallTargets.decode : Decoder CallTargets :=
  fun value => do
    object value
    let site ← field "call_site" word value
    let targets ← fieldOr "targets" [] (list (unsigned .index)) value
    return { site, targets }

def Procedure.decode : Decoder Procedure :=
  fun value => do
    object value
    let calls ← fieldOr "calls" [] (list CallTargets.decode) value
    let className ← field "class" string value
    let context ← fieldOr "context" none (nullable string) value
    let descriptor ← field "descriptor" string value
    let body ←
      fieldOr "instructions" none (nullable (list Instruction.decode)) value
    let isStatic ← fieldOr "is_static" false bool value
    let isSynchronized ← fieldOr "is_synchronized" false bool value
    let line ← fieldOr "line" none (nullable word) value
    let name ← field "name" string value
    return { className, name, descriptor, isStatic, isSynchronized, context,
             line, body, calls }

def LocalPointsTo.decode : Decoder LocalPointsTo :=
  fun value => do
    object value
    let instances ← fieldOr "instances" [] (list long) value
    let procedure ← field "procedure" (unsigned .index) value
    let number ← field "value" word value
    return { procedure, value := number, instances }

def StaticPointsTo.decode : Decoder StaticPointsTo :=
  fun value => do
    object value
    let className ← field "class" string value
    let instances ← fieldOr "instances" [] (list long) value
    let name ← field "name" string value
    return { className, name, instances }

/-- The entries for local values and for static fields. -/
def Program.decodePointsTo :
    Decoder (List LocalPointsTo × List StaticPointsTo) :=
  fun value => do
    object value
    let locals ← fieldOr "locals" [] (list LocalPointsTo.decode) value
    let statics ← fieldOr "static_fields" [] (list StaticPointsTo.decode) value
    return (locals, statics)

def Program.decode : Decoder Program :=
  fun value => do
    object value
    let classes ← fieldOr "classes" [] (list ClassDeclaration.decode) value
    let (localPointsTo, staticPointsTo) ←
      fieldOr "points_to" ([], []) Program.decodePointsTo value
    let procedures ← fieldOr "procedures" [] (list Procedure.decode) value
    return { classes, procedures, localPointsTo, staticPointsTo }

end LockAudit
