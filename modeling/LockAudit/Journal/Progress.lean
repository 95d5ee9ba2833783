import LockAudit.Audit
import LockAudit.Journal.Note
import LockAudit.Program.Load
import LockAudit.Text.Lines

/-!
# Notes on an audit

The notes that loading and auditing leave, in the order in which the work is
done.  A step that fails leaves the notes up to its failure.
-/

namespace LockAudit.Journal

/-- The call sites of a procedure about which nothing is said. -/
def unresolvedCalls (procedure : Procedure) (id : ProcedureId) : List Note :=
  procedure.code.zipIdx.filterMap fun (instruction, index) =>
    match instruction.operation with
    | .invoke site =>
        if procedure.calls.any (·.site = site) then none
        else
          some ⟨.debug, .loading,
            s!"procedure {id} instruction {index}: call site {site} " ++
              "has no resolved targets"⟩
    | _ => none

/-- Procedures are looked at one by one, up to the first that breaks the
contract. -/
def checkedProcedures (program : Program) : List (Procedure × ProcedureId) :=
  if program.classViolations.isEmpty then
    program.procedures.zipIdx.takeWhile fun (procedure, id) =>
      (program.procedureViolations procedure id).isEmpty
  else []

def ofReading (program : Program) : List Note :=
  (checkedProcedures program).flatMap fun (procedure, id) =>
    unresolvedCalls procedure id

/-- The notes on loading a text; nothing is told of a text that cannot be
decoded. -/
def ofLoading (text : String) : List Note :=
  match Program.read text with
  | .ok program => ofReading program
  | .error _ => []

def ofCallGraph (graph : CallGraph) : Note :=
  ⟨.info, .callGraph,
    s!"call graph: {graph.nodeCount} procedures, {graph.edges.size} edges"⟩

def ofStaticField (program : Program) (field : StaticField) : Note :=
  let count := (program.pointsToStatic field.className field.name).size
  ⟨.debug, .locks,
    s!"static field {field.className}.{field.name} (final: {field.isFinal}) " ++
      s!"points to {count} instances"⟩

def ofRegions (scope : Scope) (regions : Regions) : List Note :=
  let fields := scope.staticFields.length
  let blocks := regions.blocks.length
  let methods := regions.methods.length
  scope.staticFields.map (ofStaticField scope.program) ++
    [⟨.debug, .regions,
        s!"classified {blocks} unsafe blocks and {methods} unsafe methods " ++
          s!"over {fields} static fields"⟩,
      ⟨.info, .instanceLocks,
        s!"{fields} static fields, {scope.globals.size} global objects, " ++
          s!"{blocks} unsafe blocks, {methods} unsafe methods"⟩]

/-- The writes that procedures contribute, up to the first procedure whose
writes cannot be told. -/
def ofWrites (scope : Scope) : List (Procedure × ProcedureId) → List Note
  | [] => []
  | (procedure, id) :: rest =>
      match scope.seedProcedure ∅ id procedure with
      | .error _ => []
      | .ok (facts, _) =>
          let count := facts.ownWrites.size
          let own : List Note :=
            if count = 0 then []
            else
              [⟨.debug, .writes,
                s!"{procedure.signature} seeds {count} unsafe mutations"⟩]
          own ++ ofWrites scope rest

def writeInstruction (reference : InstructionRef) : String :=
  s!"InstructionRef \x7b procedure: {reference.procedure}, " ++
    s!"index: {reference.index} \x7d"

def ofReach (reach : Reach) : List Note :=
  let count := reach.facts.length
  let reached := (List.range count).filterMap fun id =>
    let writes := reach.writes id
    if writes.isEmpty then none
    else
      let listed := Text.braced (writes.toList.map writeInstruction)
      some ⟨.debug, .reach,
        s!"procedure {id} reaches unsafe mutations {listed}"⟩
  reached ++
    [⟨.info, .reach,
      s!"propagated {reach.domainSize} unsafe mutations over {count} " ++
        s!"procedures in {reach.steps} steps"⟩]

def regionName : RegionKind → String
  | .block => "SynchronizedBlock"
  | .method => "SynchronizedMethod"

def ofFinding (finding : Finding) : Note :=
  let fields := Text.braced (finding.staticFields.toList.map Text.quoted)
  ⟨.debug, .findings,
    s!"{finding.position.methodLabel} {regionName finding.region} " ++
      s!"touches {fields}"⟩

def ofFindings (findings : List Finding) : List Note :=
  let id := instanceLockPattern.id
  findings.map ofFinding ++
    [⟨.info, .patterns, s!"{id}: {findings.length} findings"⟩,
      ⟨.debug, .patterns, s!"{id}: propagation ran"⟩]

def ofNoRegions : List Note :=
  let id := instanceLockPattern.id
  [⟨.info, .patterns, s!"{id}: no unsafe regions, skipping propagation"⟩,
    ⟨.debug, .patterns, s!"{id}: propagation skipped"⟩]

/-- The notes of the steps from the collection of writes on. -/
def ofPropagation (scope : Scope) (regions : Regions) (graph : CallGraph)
    (signal : StopSignal) : List Note :=
  let later :=
    match scope.seed with
    | .error _ => []
    | .ok seeds =>
        match seeds.propagate graph signal with
        | .error _ => []
        | .ok reach =>
            match Survey.findings ⟨scope, graph, reach⟩ regions with
            | .error _ => ofReach reach
            | .ok findings => ofReach reach ++ ofFindings findings
  ofWrites scope scope.program.procedures.zipIdx ++ later

def ofAudit (program : Program) (signal : StopSignal) : List Note :=
  let graph := program.callGraph
  let scope := program.scope
  let regions := scope.regions
  let later :=
    if regions.isEmpty then ofNoRegions
    else ofPropagation scope regions graph signal
  ofCallGraph graph :: ofRegions scope regions ++ later

end LockAudit.Journal
