import LockAudit.Program.Query

/-!
# Findings

A finding names a synchronized region that holds an instance lock, and the
static fields that are written while it is held.
-/

namespace LockAudit

inductive RegionKind where
  | block | method
  deriving DecidableEq, Repr

structure Finding where
  patternId : String
  region : RegionKind
  position : CodePosition
  /-- The static fields that the region modifies. -/
  staticFields : SortedSet String
  deriving DecidableEq

def RegionKind.phrase : RegionKind → String
  | block => "Synchronized block in"
  | method => "Synchronized method"

def Finding.message (finding : Finding) : String :=
  let fields := ", ".intercalate finding.staticFields.toList
  s!"{finding.region.phrase} {finding.position.methodLabel} uses an instance lock " ++
    s!"to guard static data ({fields}); lock on a static object instead."

end LockAudit
