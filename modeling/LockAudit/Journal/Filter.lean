import LockAudit.Journal.Directive.Reader

/-!
# Filters for notes

A filter is a list of directives.  Of all directives that apply to a note, the
weightiest decides.
-/

namespace LockAudit.Journal

/-- Of two directives the one with more weight; of equals the later. -/
def weightier (best : Option Directive) (next : Directive) :
    Option Directive :=
  match best with
  | none => some next
  | some best => if best.outweighs next then some best else some next

/-- The directive that decides about a note. -/
def deciding? (directives : List Directive) (note : Note) : Option Directive :=
  (directives.filter (·.appliesTo note)).foldl weightier none

def allows (directives : List Directive) (note : Note) : Bool :=
  (deciding? directives note).any (·.allows note)

/-- Directives are divided by commas. -/
def readFilter? (text : String) : Option (List Directive) :=
  let parts := (text.splitOn ",").filter (!·.isEmpty)
  parts.mapM Directive.read?

/-- The program's own notes are shown from the level `info` on, and those of
others from the level `warn` on. -/
def defaultFilter : List Directive :=
  [{ source := some "lockscope", threshold := some .info },
    { threshold := some .warn }]

def quietFilter : List Directive :=
  [{ threshold := some .warn }]

/-- The filter that is asked for.  One that cannot be read is passed over. -/
def chooseFilter (quiet : Bool) (asked : Option String) : List Directive :=
  if quiet then quietFilter
  else (asked.bind readFilter?).getD defaultFilter

end LockAudit.Journal
