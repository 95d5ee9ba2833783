import LockAudit.Finding
import LockAudit.Reach

/-!
# The audit

Exposed regions are reported when an unguarded write may be performed while
their lock is held.  An audit without exposed regions ends at once; otherwise
unguarded writes are collected and propagated along calls first.
-/

namespace LockAudit

/-- A pattern of defects that an audit looks for. -/
structure Pattern where
  id : String
  name : String
  description : String
  hasFixer : Bool
  deriving DecidableEq, Repr

def instanceLockPattern : Pattern :=
  { id := "LCK06J"
    name := "Do not use an instance lock to protect shared static data"
    description :=
      "Synchronized regions locking on instance-local objects while writing static fields"
    hasFixer := false }

/-- All patterns, in the order of their ids. -/
def patterns : List Pattern :=
  [instanceLockPattern]

/-- What reporting looks at. -/
structure Survey where
  scope : Scope
  graph : CallGraph
  reach : Reach

namespace Survey

/-- The writes that the procedures called by an instruction may perform. -/
def calledWrites (survey : Survey) (id : ProcedureId) (site : SiteNumber) :
    SortedSet InstructionRef :=
  SortedSet.unions
    ((survey.graph.targets id site).toList.map survey.reach.writes)

/-- The call sites that a block invokes outside trusted blocks. -/
def openSites (survey : Survey) (block : Block) : List SiteNumber :=
  let id := block.procedure
  let code := ((survey.scope.program.procedure? id).map (·.code)).getD []
  let span := block.last - block.enter.index + 1
  let window := (code.zipIdx.drop block.enter.index).take span
  window.filterMap fun (instruction, index) =>
    match instruction.operation with
    | .invoke site =>
        if isProtected (survey.reach.trustedBlocks id) ⟨id, index⟩ then none
        else some site
    | _ => none

/-- The unguarded writes inside a block and those that its calls reach. -/
def blockWrites (survey : Survey) (block : Block) : SortedSet InstructionRef :=
  let id := block.procedure
  let own := (survey.reach.ownWrites id).filter block.contains
  own ∪ SortedSet.unions
    ((survey.openSites block).map (survey.calledWrites id))

/-- The static fields that any of the instructions modifies. -/
def fieldsOf (survey : Survey) :
    List InstructionRef → Except AuditError (SortedSet String)
  | [] => .ok ∅
  | instruction :: rest => do
      let fields ← survey.scope.modifiedFields instruction
      let later ← survey.fieldsOf rest
      return fields ∪ later

def finding (survey : Survey) (region : RegionKind) (position : CodePosition)
    (writes : SortedSet InstructionRef) : Except AuditError Finding := do
  let staticFields ← survey.fieldsOf writes.toList
  return ⟨instanceLockPattern.id, region, position, staticFields⟩

/-- A block inside a guarded method is never reported. -/
def blockFinding (survey : Survey) (block : Block) :
    Except AuditError (Option Finding) :=
  let id := block.procedure
  match survey.scope.program.procedure? id,
      survey.scope.program.instructionPosition? id block.enter.index with
  | some procedure, some position =>
      let writes := survey.blockWrites block
      if survey.scope.isGuarded id procedure || writes.isEmpty then .ok none
      else return some (← survey.finding .block position writes)
  | _, _ => .error (.unknownProcedure id)

def methodFinding (survey : Survey) (id : ProcedureId) :
    Except AuditError (Option Finding) :=
  match survey.scope.program.procedurePosition? id with
  | some position =>
      let writes := survey.reach.writes id
      if writes.isEmpty then .ok none
      else return some (← survey.finding .method position writes)
  | none => .error (.unknownProcedure id)

/-- The findings of a list of regions, in its order. -/
def collect (report : α → Except AuditError (Option Finding)) :
    List α → Except AuditError (List Finding)
  | [] => .ok []
  | region :: rest => do
      let finding? ← report region
      let later ← collect report rest
      return finding?.toList ++ later

/-- The findings for blocks and then those for methods. -/
def findings (survey : Survey) (regions : Regions) :
    Except AuditError (List Finding) := do
  let blocks ← collect survey.blockFinding regions.blocks
  let methods ← collect survey.methodFinding regions.methods
  return blocks ++ methods

end Survey

/-- The outcome of an audit. -/
structure Audit where
  scope : Scope
  regions : Regions
  /-- `none` when there was no exposed region. -/
  reach : Option Reach
  findings : List Finding

def Program.audit (program : Program) (graph : CallGraph)
    (signal : StopSignal) : Except AuditError Audit := do
  let scope := program.scope
  let regions := scope.regions
  if regions.isEmpty then return ⟨scope, regions, none, []⟩
  let seeds ← scope.seed
  let reach ← seeds.propagate graph signal
  let findings ← Survey.findings ⟨scope, graph, reach⟩ regions
  return ⟨scope, regions, some reach, findings⟩

end LockAudit
