import LockAudit.Json.Schema

/-!
# The schema of program models

The shape that a JSON value must have to describe a program.  Members that are
not mentioned are free.
-/

namespace LockAudit.Program.Format

open Json (Kind Schema)
open Json.Schema (all exactlyOne items listed minLength nonNegative ofKind
  property required)

def name : Schema :=
  all [ofKind [.string], minLength 1]

def natural : Schema :=
  all [ofKind [.integer], nonNegative]

def optionalNatural : Schema :=
  all [ofKind [.integer, .null], nonNegative]

def optionalText : Schema :=
  ofKind [.null, .string]

def flag : Schema :=
  ofKind [.boolean]

def listOf (item : Schema) : Schema :=
  all [ofKind [.array], items item]

def instances : Schema :=
  listOf natural

def fieldDeclaration : Schema :=
  all [ofKind [.object], required ["name"],
    property "descriptor" optionalText,
    property "is_final" flag,
    property "is_static" flag,
    property "name" name]

def classDeclaration : Schema :=
  all [ofKind [.object], required ["name"],
    property "fields" (listOf fieldDeclaration),
    property "loader" (listed ["application", "extension", "primordial"]),
    property "name" name,
    property "source_file" optionalText,
    property "super_name" optionalText]

def fieldReference : Schema :=
  all [ofKind [.object], required ["class", "name"],
    property "class" name,
    property "name" name]

def fieldAccess : Schema :=
  all [required ["field"],
    property "field" fieldReference,
    property "op" (listed ["field_read", "field_write"]),
    property "receiver" optionalNatural]

def monitorAccess : Schema :=
  all [required ["lock"],
    property "lock" natural,
    property "op" (listed ["monitor_enter", "monitor_exit"])]

def invocation : Schema :=
  all [required ["call_site"],
    property "call_site" natural,
    property "op" (listed ["invoke"])]

def otherOperation : Schema :=
  property "op" (listed ["other"])

def operation : Schema :=
  all [ofKind [.object], required ["op"],
    exactlyOne [fieldAccess, monitorAccess, invocation, otherOperation]]

def instruction : Schema :=
  all [ofKind [.object], required ["kind"],
    property "kind" operation,
    property "line" optionalNatural]

def callTargets : Schema :=
  all [ofKind [.object], required ["call_site"],
    property "call_site" natural,
    property "targets" (listOf natural)]

def procedure : Schema :=
  all [ofKind [.object], required ["class", "name", "descriptor"],
    property "calls" (listOf callTargets),
    property "class" name,
    property "context" optionalText,
    property "descriptor" (all [ofKind [.string], minLength 2]),
    property "instructions" (all [ofKind [.array, .null], items instruction]),
    property "is_static" flag,
    property "is_synchronized" flag,
    property "line" optionalNatural,
    property "name" name]

def localPointsTo : Schema :=
  all [ofKind [.object], required ["procedure", "value"],
    property "instances" instances,
    property "procedure" natural,
    property "value" natural]

def staticPointsTo : Schema :=
  all [ofKind [.object], required ["class", "name"],
    property "class" name,
    property "instances" instances,
    property "name" name]

def pointsTo : Schema :=
  all [ofKind [.object],
    property "locals" (listOf localPointsTo),
    property "static_fields" (listOf staticPointsTo)]

def program : Schema :=
  all [ofKind [.object],
    property "classes" (listOf classDeclaration),
    property "points_to" pointsTo,
    property "procedures" (listOf procedure)]

end LockAudit.Program.Format
