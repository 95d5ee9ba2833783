import LockAudit.Audit
import LockAudit.Program.Load

/-!
# Spans of a run

A run is divided into spans, each inside another or outermost.  Spans are
listed in the order in which they end, so that a span follows those inside it.
A failing step ends its span too, and no later step begins one.
-/

namespace LockAudit.Journal

structure Span where
  name : String
  attributes : List (String × String)
  /-- The number of spans around it. -/
  depth : Nat
  deriving DecidableEq, Repr

namespace Span

def run : Span :=
  ⟨"lockscope", [], 0⟩

def phase (name : String) : Span :=
  ⟨name, [("lockscope.phase", name)], 1⟩

def patternAttributes : List (String × String) :=
  [("lockscope.detector_id", instanceLockPattern.id)]

def pattern : Span :=
  ⟨s!"detector:{instanceLockPattern.id}", patternAttributes, 1⟩

def step (name : String) : Span :=
  ⟨name, patternAttributes, 2⟩

end Span

/-- The span around the one at an index: the first later one that is less
deep. -/
def parent? (spans : List Span) (index : Nat) : Option Nat :=
  match spans[index]? with
  | none => none
  | some span =>
      (spans.zipIdx.find? fun (other, place) =>
        index < place && other.depth < span.depth).map (·.2)

/-- The spans inside that of the pattern. -/
def auditSpans (program : Program) (graph : CallGraph) (signal : StopSignal) :
    List Span :=
  let scope := program.scope
  let later :=
    if scope.regions.isEmpty then []
    else
      match scope.seed with
      | .error _ => [.step "seed"]
      | .ok seeds =>
          match seeds.propagate graph signal with
          | .error _ => [.step "seed", .step "propagate"]
          | .ok _ => [.step "seed", .step "propagate", .step "report"]
  .step "classify" :: later

/-- The spans of a run on a text. -/
def spans (text : String) (signal : StopSignal) : List Span :=
  let inner : List Span :=
    match Program.load text with
    | .error _ => []
    | .ok program =>
        .phase "call_graph" ::
          auditSpans program program.callGraph signal ++ [.pattern]
  .phase "load_model" :: inner ++ [.run]

end LockAudit.Journal
