import LockAudit.Journal.Note

/-!
# Directives

A directive allows the notes of some sources up to a level.  It may ask for a
span around the note and for fields; a note stands in no named span, and its
only field is its message.
-/

namespace LockAudit.Journal

/-- What a directive allows: notes up to a level, or none. -/
abbrev Threshold := Option Level

/-- A field that a directive asks for, perhaps with a certain value. -/
structure FieldTest where
  name : String
  asksValue : Bool
  deriving DecidableEq, Repr

/-- A directive applies to the sources whose names begin with its own; without
a name it applies to all. -/
structure Directive where
  source : Option String := none
  span : Option String := none
  fields : List FieldTest := []
  threshold : Threshold := some .trace
  deriving DecidableEq, Repr

namespace Directive

/-- Directives that ask for a span or for a value are about spans only. -/
def isAboutNotes (directive : Directive) : Bool :=
  directive.span.isNone && !directive.fields.any (·.asksValue)

def appliesTo (directive : Directive) (note : Note) : Bool :=
  directive.isAboutNotes && directive.fields.all (·.name = "message") &&
    directive.source.all fun start => start.isPrefixOf note.source.name

/-- Zero without a name, and more for longer names. -/
def weight (directive : Directive) : Nat :=
  match directive.source with
  | none => 0
  | some start => start.utf8ByteSize + 1

/-- A directive with a longer name comes before others, and of those with names
of one length one that asks for more fields. -/
def outweighs (left right : Directive) : Bool :=
  right.weight < left.weight ||
    (right.weight = left.weight && right.fields.length < left.fields.length)

def allows (directive : Directive) (note : Note) : Bool :=
  directive.threshold.any note.isWithin

end Directive

end LockAudit.Journal
