import LockAudit.Audit
import LockAudit.Proofs.ReachableWrites
import Mathlib.Data.List.Forall2

/-!
# Reported regions

Which regions an audit reports, and what it says of them: those that hold a
lock which is not trusted while a seeded write is performed.  Nothing here
mentions the phases of an audit; the findings of an audit that succeeds are
shown to be exactly the ones described.
-/

namespace LockAudit

namespace Program

/-- The write is performed while the block that starts at `enter` is executed:
it stands there, or some call that stands there, outside all blocks on trusted
locks, leads to it. -/
inductive PerformsIn (program : Program) (enter : InstructionRef)
    (procedure : Procedure) : InstructionRef → Prop where
  | own {place : InstructionRef} :
      place.procedure = enter.procedure →
      procedure.InBlock enter.index place.index →
      program.Seeded place →
      PerformsIn program enter procedure place
  | called {index : Nat} {site : SiteNumber} {callee : ProcedureId}
      {place : InstructionRef} :
      procedure.InBlock enter.index index →
      procedure.operation? index = some (.invoke site) →
      ¬program.Covered enter.procedure procedure index →
      program.CallsAt enter.procedure site callee →
      program.Performs callee place →
      PerformsIn program enter procedure place

/-- The static fields that an instruction of the program modifies. -/
def ModifiesAt (program : Program) (place : InstructionRef) (name : String) :
    Prop :=
  ∃ procedure operation,
    program.procedure? place.procedure = some procedure ∧
    procedure.operation? place.index = some operation ∧
    program.Modifies place.procedure operation name

/-- The finding is about a region of some kind at some position, in which
certain writes are performed. -/
structure Describes (program : Program) (region : RegionKind)
    (position : Option CodePosition) (performed : InstructionRef → Prop)
    (finding : Finding) : Prop where
  pattern : finding.patternId = "LCK06J"
  region : finding.region = region
  position : position = some finding.position
  fields : ∀ name, name ∈ finding.staticFields ↔
    ∃ place, performed place ∧ program.ModifiesAt place name

/-- The block is reported: it is exposed, no trusted lock guards the whole
method, and some write is performed in it. -/
def ReportsBlock (program : Program) (enter : InstructionRef) : Prop :=
  ∃ procedure lock, program.ExposedBlock enter procedure lock ∧
    ¬program.Guarded enter.procedure procedure ∧
    ∃ place, program.PerformsIn enter procedure place

def ReportsMethod (program : Program) (id : ProcedureId) : Prop :=
  ∃ procedure, program.ExposedMethod id procedure ∧
    ∃ place, program.Performs id place

def DescribesBlock (program : Program) (enter : InstructionRef)
    (finding : Finding) : Prop :=
  ∃ procedure, program.procedure? enter.procedure = some procedure ∧
    program.Describes .block
      (program.instructionPosition? enter.procedure enter.index)
      (program.PerformsIn enter procedure) finding

def DescribesMethod (program : Program) (id : ProcedureId)
    (finding : Finding) : Prop :=
  program.Describes .method (program.procedurePosition? id)
    (program.Performs id) finding

/-- The findings are those for the reported blocks, in the order of their
enters, followed by those for the reported methods. -/
def Explains (program : Program) (findings : List Finding) : Prop :=
  ∃ (blocks : SortedSet InstructionRef) (methods : SortedSet ProcedureId)
    (blockFindings methodFindings : List Finding),
    (∀ enter, enter ∈ blocks ↔ program.ReportsBlock enter) ∧
    (∀ id, id ∈ methods ↔ program.ReportsMethod id) ∧
    List.Forall₂ program.DescribesBlock blocks.toList blockFindings ∧
    List.Forall₂ program.DescribesMethod methods.toList methodFindings ∧
    findings = blockFindings ++ methodFindings

theorem Describes.unique {program : Program} {region : RegionKind}
    {position : Option CodePosition} {performed : InstructionRef → Prop}
    {left right : Finding}
    (leftDescribes : program.Describes region position performed left)
    (rightDescribes : program.Describes region position performed right) :
    left = right := by
  obtain ⟨leftId, leftRegion, leftPosition, leftFields⟩ := left
  obtain ⟨rightId, rightRegion, rightPosition, rightFields⟩ := right
  have ids : leftId = rightId :=
    leftDescribes.pattern.trans rightDescribes.pattern.symm
  have regions : leftRegion = rightRegion :=
    leftDescribes.region.trans rightDescribes.region.symm
  have positions : leftPosition = rightPosition :=
    Option.some.inj
      (leftDescribes.position.symm.trans rightDescribes.position)
  have fields : leftFields = rightFields := by
    apply SortedSet.ext
    intro name
    exact (leftDescribes.fields name).trans (rightDescribes.fields name).symm
  rw [ids, regions, positions, fields]

theorem DescribesBlock.unique {program : Program} {enter : InstructionRef}
    {left right : Finding}
    (leftDescribes : program.DescribesBlock enter left)
    (rightDescribes : program.DescribesBlock enter right) : left = right := by
  obtain ⟨procedure, found, leftDescribes⟩ := leftDescribes
  obtain ⟨other, otherFound, rightDescribes⟩ := rightDescribes
  cases found.symm.trans otherFound
  exact leftDescribes.unique rightDescribes

theorem rightUnique_describesBlock (program : Program) :
    Relator.RightUnique program.DescribesBlock := by
  intro enter left right
  exact DescribesBlock.unique

theorem rightUnique_describesMethod (program : Program) :
    Relator.RightUnique program.DescribesMethod := by
  intro id left right
  exact Describes.unique

/-- No other list is made of the findings about the same program. -/
theorem Explains.unique {program : Program} {left right : List Finding}
    (leftExplains : program.Explains left)
    (rightExplains : program.Explains right) : left = right := by
  obtain ⟨leftBlocks, leftMethods, _, _, leftInBlocks, leftInMethods,
    leftBlock, leftMethod, rfl⟩ := leftExplains
  obtain ⟨rightBlocks, rightMethods, _, _, rightInBlocks, rightInMethods,
    rightBlock, rightMethod, rfl⟩ := rightExplains
  have blocks : leftBlocks = rightBlocks := by
    apply SortedSet.ext
    intro enter
    exact (leftInBlocks enter).trans (rightInBlocks enter).symm
  have methods : leftMethods = rightMethods := by
    apply SortedSet.ext
    intro id
    exact (leftInMethods id).trans (rightInMethods id).symm
  subst blocks
  subst methods
  rw [List.right_unique_forall₂' program.rightUnique_describesBlock leftBlock
      rightBlock,
    List.right_unique_forall₂' program.rightUnique_describesMethod leftMethod
      rightMethod]

/-- What reporting looks at once writes are propagated. -/
abbrev survey (program : Program) (reach : Reach) : Survey :=
  ⟨program.scope, program.callGraph, reach⟩

variable {program : Program} {reach : Reach}

theorem Knows.mem_calledWrites (knows : program.Knows reach)
    {id : ProcedureId} {site : SiteNumber} {place : InstructionRef} :
    place ∈ (program.survey reach).calledWrites id site ↔
      ∃ callee, program.CallsAt id site callee ∧
        program.Performs callee place := by
  simp only [Survey.calledWrites, SortedSet.mem_unions, List.mem_map,
    SortedSet.mem_toList, mem_targets]
  constructor
  · intro member
    obtain ⟨_, ⟨callee, calls, made⟩, member⟩ := member
    subst made
    exact ⟨callee, calls, (knows.writes callee place).mp member⟩
  · intro called
    obtain ⟨callee, calls, performs⟩ := called
    exact ⟨_, ⟨callee, calls, rfl⟩, (knows.writes callee place).mpr performs⟩

/-- The write is performed while a block is executed, whichever block it is: it
stands there, or some call that stands there, outside the guards, leads to
it. -/
inductive PerformsWithin (program : Program) (guards : List Block)
    (block : Block) (procedure : Procedure) : InstructionRef → Prop where
  | own {place : InstructionRef} :
      block.contains place = true →
      program.Seeded place →
      PerformsWithin program guards block procedure place
  | called {index : Nat} {site : SiteNumber} {callee : ProcedureId}
      {place : InstructionRef} :
      block.contains ⟨block.procedure, index⟩ = true →
      procedure.operation? index = some (.invoke site) →
      isProtected guards ⟨block.procedure, index⟩ = false →
      program.CallsAt block.procedure site callee →
      program.Performs callee place →
      PerformsWithin program guards block procedure place

section AnyBlock

variable {block : Block} {procedure : Procedure}
  (found : program.procedure? block.procedure = some procedure)
  (ordered : block.enter.index ≤ block.last)

include found ordered

theorem mem_openSites {site : SiteNumber} :
    site ∈ (program.survey reach).openSites block ↔
      ∃ index, block.contains ⟨block.procedure, index⟩ = true ∧
        procedure.operation? index = some (.invoke site) ∧
        isProtected (reach.trustedBlocks block.procedure)
          ⟨block.procedure, index⟩ = false := by
  have foundInScope : program.scope.program.procedure? block.procedure =
      some procedure := found
  have window : ∀ instruction index,
      (instruction, index) ∈ (procedure.code.zipIdx.drop
          block.enter.index).take (block.last - block.enter.index + 1) ↔ _ :=
    fun _ _ => Block.mem_window ordered
  simp only [Survey.openSites, foundInScope, Option.map_some,
    Option.getD_some, List.mem_filterMap, Prod.exists, window,
    Block.contains_iff, true_and, Procedure.operation?_eq_some_iff]
  constructor
  · intro isOpen
    obtain ⟨instruction, index, ⟨listed, inside⟩, made⟩ := isOpen
    split at made
    · next invoked =>
        split at made
        · cases made
        · next unprotected =>
            cases made
            exact ⟨index, inside, ⟨instruction, listed, invoked⟩,
              Bool.eq_false_iff.mpr unprotected⟩
    · cases made
  · intro isOpen
    obtain ⟨index, inside, ⟨instruction, listed, invoked⟩,
      unprotected⟩ := isOpen
    refine ⟨instruction, index, ⟨listed, inside⟩, ?_⟩
    simp [invoked, unprotected]

theorem Knows.mem_blockWrites (knows : program.Knows reach)
    {place : InstructionRef} :
    place ∈ (program.survey reach).blockWrites block ↔
      program.PerformsWithin (reach.trustedBlocks block.procedure) block
        procedure place := by
  simp only [Survey.blockWrites, SortedSet.mem_union, SortedSet.mem_filter,
    SortedSet.mem_unions, List.mem_map, knows.own,
    mem_openSites found ordered]
  constructor
  · intro member
    rcases member with ⟨⟨_, seeded⟩, contained⟩ | ⟨_, called, member⟩
    · exact .own contained seeded
    · obtain ⟨site, ⟨index, inside, invoked, unprotected⟩, made⟩ := called
      subst made
      obtain ⟨callee, calls, performs⟩ := knows.mem_calledWrites.mp member
      exact .called inside invoked unprotected calls performs
  · intro performs
    cases performs with
    | own contained seeded =>
        exact .inl ⟨⟨(Block.contains_iff.mp contained).1, seeded⟩, contained⟩
    | called inside invoked unprotected calls performs =>
        exact .inr ⟨_, ⟨_, ⟨_, inside, invoked, unprotected⟩, rfl⟩,
          knows.mem_calledWrites.mpr ⟨_, calls, performs⟩⟩

end AnyBlock

section Blocks

variable {enter : InstructionRef} {procedure : Procedure} {lock : ValueNumber}

/-- Within a synchronized block, guarded by the blocks on trusted locks. -/
theorem Accepted.performsWithin_iff (accepted : program.Accepted)
    (block : Block)
    (last : block.last = matchingExit procedure.code block.enter.index)
    {place : InstructionRef} :
    program.PerformsWithin
        (program.scope.trustedBlocks block.procedure procedure) block
        procedure place ↔
      program.PerformsIn block.enter procedure place := by
  have contains_iff : ∀ place, block.contains place = true ↔
      place.procedure = block.procedure ∧
        procedure.InBlock block.enter.index place.index := by
    intro place
    rw [Block.contains_iff, last]
    rfl
  constructor
  · intro performs
    cases performs with
    | own contained seeded =>
        obtain ⟨same, inside⟩ := (contains_iff place).mp contained
        exact .own same inside seeded
    | called contained invoked unprotected calls performs =>
        exact .called ((contains_iff _).mp contained).2 invoked
          (mt accepted.isProtected_iff.mpr (Bool.eq_false_iff.mp unprotected))
          calls performs
  · intro performs
    cases performs with
    | own same inside seeded =>
        exact .own ((contains_iff place).mpr ⟨same, inside⟩) seeded
    | @called index _ _ _ inside invoked uncovered calls performs =>
        have contained : block.contains ⟨block.procedure, index⟩ = true :=
          (contains_iff _).mpr ⟨rfl, inside⟩
        exact .called contained invoked
          (Bool.eq_false_iff.mpr (mt accepted.isProtected_iff.mp uncovered))
          calls performs

theorem Accepted.mem_blockWrites (accepted : program.Accepted)
    (knows : program.Knows reach)
    (exposed : program.ExposedBlock enter procedure lock)
    (unguarded : ¬program.Guarded enter.procedure procedure)
    {place : InstructionRef} :
    place ∈ (program.survey reach).blockWrites
        ⟨enter, matchingExit procedure.code enter.index⟩ ↔
      program.PerformsIn enter procedure place := by
  have trusted := knows.blocks enter.procedure procedure exposed.found
    exposed.audited unguarded
  rw [knows.mem_blockWrites exposed.found exposed.enter_le_exit,
    Block.procedure, trusted]
  exact accepted.performsWithin_iff
    ⟨enter, matchingExit procedure.code enter.index⟩ rfl

theorem PerformsIn.seeded {place : InstructionRef}
    (performs : program.PerformsIn enter procedure place) :
    program.Seeded place := by
  cases performs with
  | own _ _ seeded => exact seeded
  | called _ _ _ _ performs => exact performs.2

end Blocks

theorem Accepted.modifiedFields_ok (accepted : program.Accepted)
    {place : InstructionRef} (seeded : program.Seeded place) :
    ∃ fields, program.scope.modifiedFields place = .ok fields ∧
      ∀ name, name ∈ fields ↔ program.ModifiesAt place name := by
  obtain ⟨procedure, operation, bare, shared⟩ := seeded
  rcases accepted.modifiedFields_verdict bare.found bare.listed with
    ⟨error, _, fault⟩ | ⟨fields, success, members, _⟩
  · exact (shared.not_writeFault procedure error fault).elim
  · refine ⟨fields, success, ?_⟩
    intro name
    rw [members]
    constructor
    · intro modifies
      exact ⟨procedure, operation, bare.found, bare.listed, modifies⟩
    · intro modified
      obtain ⟨other, otherOperation, found, listed, modifies⟩ := modified
      cases bare.found.symm.trans found
      cases bare.listed.symm.trans listed
      exact modifies

theorem Accepted.fieldsOf_ok (accepted : program.Accepted) (reach : Reach)
    {places : List InstructionRef}
    (seeded : ∀ place ∈ places, program.Seeded place) :
    ∃ fields, (program.survey reach).fieldsOf places = .ok fields ∧
      ∀ name, name ∈ fields ↔
        ∃ place ∈ places, program.ModifiesAt place name := by
  induction places with
  | nil => exact ⟨∅, rfl, by simp⟩
  | cons place rest induction =>
      obtain ⟨seededHere, seededLater⟩ := List.forall_mem_cons.mp seeded
      obtain ⟨fields, success, members⟩ :=
        accepted.modifiedFields_ok seededHere
      obtain ⟨later, laterSuccess, laterMembers⟩ := induction seededLater
      refine ⟨fields ∪ later, ?_, ?_⟩
      · simp only [Survey.fieldsOf, success, laterSuccess]
        rfl
      · simp [members, laterMembers]

/-- A finding can be made about any writes that are seeded. -/
theorem Accepted.finding_ok (accepted : program.Accepted) (reach : Reach)
    {writes : SortedSet InstructionRef} {performed : InstructionRef → Prop}
    (same : ∀ place, place ∈ writes ↔ performed place)
    (seeded : ∀ place, performed place → program.Seeded place)
    (region : RegionKind) {position? : Option CodePosition}
    {position : CodePosition} (located : position? = some position) :
    ∃ finding,
      (program.survey reach).finding region position writes = .ok finding ∧
        program.Describes region position? performed finding := by
  have allSeeded : ∀ place ∈ writes.toList, program.Seeded place := by
    intro place member
    exact seeded place ((same place).mp member)
  obtain ⟨fields, success, members⟩ := accepted.fieldsOf_ok reach allSeeded
  refine ⟨⟨"LCK06J", region, position, fields⟩, ?_, rfl, rfl, located, ?_⟩
  · simp only [Survey.finding, success]
    rfl
  · intro name
    simp only [members, SortedSet.mem_toList, same]

/-- The answer about a region: a finding that describes it, or nothing when it
is not to be reported. -/
inductive Answers (reported : Prop) (describes : Finding → Prop) :
    Option Finding → Prop where
  | nothing : ¬reported → Answers reported describes none
  | finding {finding : Finding} : reported → describes finding →
      Answers reported describes (some finding)

theorem Answers.imp {reported reported' : Prop}
    {describes describes' : Finding → Prop} {finding? : Option Finding}
    (answers : Answers reported describes finding?)
    (same : reported ↔ reported')
    (redescribes : ∀ finding, describes finding → describes' finding) :
    Answers reported' describes' finding? := by
  cases answers with
  | nothing silent => exact .nothing fun report => silent (same.mpr report)
  | finding report describes =>
      exact .finding (same.mp report) (redescribes _ describes)

/-- Regions in which no write is performed are passed over. -/
theorem Accepted.answers_writes (accepted : program.Accepted) (reach : Reach)
    {writes : SortedSet InstructionRef} {performed : InstructionRef → Prop}
    (same : ∀ place, place ∈ writes ↔ performed place)
    (seeded : ∀ place, performed place → program.Seeded place)
    (region : RegionKind) {position? : Option CodePosition}
    {position : CodePosition} (located : position? = some position) :
    ∃ finding?,
      (if writes.isEmpty then .ok none
        else do
          let finding ← (program.survey reach).finding region position writes
          return some finding) = Except.ok finding? ∧
      Answers (∃ place, performed place)
        (program.Describes region position? performed) finding? := by
  by_cases empty : writes.isEmpty = true
  · refine ⟨none, if_pos empty, .nothing ?_⟩
    intro performed
    obtain ⟨place, performs⟩ := performed
    exact SortedSet.isEmpty_iff.mp empty place ((same place).mpr performs)
  · obtain ⟨finding, success, describes⟩ :=
      accepted.finding_ok reach same seeded region located
    refine ⟨some finding, ?_, .finding ?_ describes⟩
    · rw [if_neg empty, success]
      rfl
    · rw [SortedSet.isEmpty_iff, Classical.not_forall] at empty
      obtain ⟨place, member⟩ := empty
      exact ⟨place, (same place).mp (Classical.not_not.mp member)⟩

theorem ExposedBlock.reportsBlock_iff {enter : InstructionRef}
    {procedure : Procedure} {lock : ValueNumber}
    (exposed : program.ExposedBlock enter procedure lock) :
    program.ReportsBlock enter ↔
      ¬program.Guarded enter.procedure procedure ∧
        ∃ place, program.PerformsIn enter procedure place := by
  constructor
  · intro reported
    obtain ⟨other, _, otherExposed, reported⟩ := reported
    cases exposed.found.symm.trans otherExposed.found
    exact reported
  · intro reported
    exact ⟨procedure, lock, exposed, reported⟩

theorem ExposedMethod.reportsMethod_iff {id : ProcedureId}
    {procedure : Procedure} (exposed : program.ExposedMethod id procedure) :
    program.ReportsMethod id ↔ ∃ place, program.Performs id place := by
  constructor
  · intro reported
    obtain ⟨_, _, performs⟩ := reported
    exact performs
  · intro performs
    exact ⟨procedure, exposed, performs⟩

theorem Accepted.blockFinding_ok (accepted : program.Accepted)
    (knows : program.Knows reach) {block : Block}
    (listed : block ∈ program.scope.regions.blocks) :
    ∃ finding?, (program.survey reach).blockFinding block = .ok finding? ∧
      Answers (program.ReportsBlock block.enter)
        (program.DescribesBlock block.enter) finding? := by
  obtain ⟨enter, last⟩ := block
  obtain ⟨procedure, lock, exposed, ends⟩ :=
    accepted.mem_blocks_regions.mp listed
  dsimp only at exposed ends
  subst ends
  have found : program.scope.program.procedure? enter.procedure =
      some procedure := exposed.found
  have located : program.instructionPosition? enter.procedure enter.index =
      some (program.positionAt procedure
        ((procedure.code[enter.index]?.bind (·.line)).or procedure.line)) := by
    rw [instructionPosition?, exposed.found]
    rfl
  have located' : program.scope.program.instructionPosition? enter.procedure
      enter.index = _ := located
  simp only [Survey.blockFinding, Block.procedure, found, located',
    exposed.reportsBlock_iff]
  by_cases guarded : program.Guarded enter.procedure procedure
  · refine ⟨none, ?_, .nothing fun reported => reported.1 guarded⟩
    simp [accepted.isGuarded_iff.mpr guarded]
  · have unguarded := Bool.eq_false_iff.mpr
      (mt accepted.isGuarded_iff.mp guarded)
    simp only [unguarded, Bool.false_or]
    obtain ⟨finding?, success, answers⟩ :=
      accepted.answers_writes reach
        (fun _ => accepted.mem_blockWrites knows exposed guarded)
        (fun _ => PerformsIn.seeded) .block located
    refine ⟨finding?, success, answers.imp (by simp [guarded]) ?_⟩
    intro finding describes
    exact ⟨procedure, exposed.found, describes⟩

theorem Accepted.methodFinding_ok (accepted : program.Accepted)
    (knows : program.Knows reach) {id : ProcedureId}
    (listed : id ∈ program.scope.regions.methods) :
    ∃ finding?, (program.survey reach).methodFinding id = .ok finding? ∧
      Answers (program.ReportsMethod id) (program.DescribesMethod id)
        finding? := by
  obtain ⟨procedure, exposed⟩ := accepted.mem_methods_regions.mp listed
  have located : program.procedurePosition? id =
      some (program.positionAt procedure procedure.line) := by
    rw [procedurePosition?, exposed.found]
    rfl
  have located' : program.scope.program.procedurePosition? id = _ := located
  simp only [Survey.methodFinding, located', exposed.reportsMethod_iff]
  exact accepted.answers_writes reach (knows.writes id)
    (fun _ performs => performs.2) .method located

/-- What is found is about the regions that are to be reported, in order. -/
theorem collect_ok {report : α → Except AuditError (Option Finding)}
    {reported : α → Prop} {describes : α → Finding → Prop} {regions : List α}
    (each : ∀ region ∈ regions, ∃ finding?,
      report region = .ok finding? ∧
        Answers (reported region) (describes region) finding?) :
    ∃ chosen findings, Survey.collect report regions = .ok findings ∧
      chosen.Sublist regions ∧
      (∀ region, region ∈ chosen ↔ region ∈ regions ∧ reported region) ∧
      List.Forall₂ describes chosen findings := by
  induction regions with
  | nil => exact ⟨[], [], rfl, .slnil, by simp, .nil⟩
  | cons region rest induction =>
      obtain ⟨here, there⟩ := List.forall_mem_cons.mp each
      obtain ⟨finding?, success, answers⟩ := here
      obtain ⟨chosen, findings, laterSuccess, sublist, members, described⟩ :=
        induction there
      have collected : Survey.collect report (region :: rest) =
          .ok (finding?.toList ++ findings) := by
        simp only [Survey.collect, success, laterSuccess]
        rfl
      cases answers with
      | nothing silent =>
          refine ⟨chosen, findings, collected, sublist.cons region, ?_,
            described⟩
          intro other
          have absent : ¬(other = region ∧ reported other) := by
            intro reportedHere
            obtain ⟨same, isReported⟩ := reportedHere
            exact silent (same ▸ isReported)
          rw [members, List.mem_cons, or_and_right, or_iff_right absent]
      | finding isReported describes =>
          refine ⟨region :: chosen, _ :: findings, collected,
            sublist.cons_cons region, ?_, .cons describes described⟩
          intro other
          have present : other = region ∧ reported other ↔ other = region :=
            and_iff_left_of_imp fun same => same ▸ isReported
          rw [List.mem_cons, List.mem_cons, members, or_and_right, present]

/-- Once writes are propagated, reporting succeeds. -/
theorem Accepted.findings_ok (accepted : program.Accepted)
    (knows : program.Knows reach) :
    ∃ findings,
      (program.survey reach).findings program.scope.regions = .ok findings ∧
        program.Explains findings := by
  obtain ⟨blocks, blockFindings, blockSuccess, blockSublist, blockMembers,
      blocksDescribed⟩ :=
    collect_ok fun _ listed => accepted.blockFinding_ok knows listed
  obtain ⟨methods, methodFindings, methodSuccess, methodSublist,
      methodMembers, methodsDescribed⟩ :=
    collect_ok fun _ listed => accepted.methodFinding_ok knows listed
  refine ⟨blockFindings ++ methodFindings, ?_,
    ⟨blocks.map Block.enter,
      program.blocks_regions_increasing.sublist
        (blockSublist.map Block.enter)⟩,
    ⟨methods, program.methods_regions_increasing.sublist methodSublist⟩,
    blockFindings, methodFindings, ?_, ?_, ?_, methodsDescribed, rfl⟩
  · simp only [Survey.findings, blockSuccess, methodSuccess]
    rfl
  · intro enter
    rw [← SortedSet.mem_toList, List.mem_map]
    constructor
    · intro member
      obtain ⟨block, member, same⟩ := member
      exact same ▸ ((blockMembers block).mp member).2
    · intro reported
      have exposure := reported
      obtain ⟨procedure, lock, exposed, _⟩ := exposure
      have listed :
          ⟨enter, matchingExit procedure.code enter.index⟩ ∈
            program.scope.regions.blocks :=
        accepted.mem_blocks_regions.mpr ⟨procedure, lock, exposed, rfl⟩
      exact ⟨_, (blockMembers _).mpr ⟨listed, reported⟩, rfl⟩
  · intro id
    rw [← SortedSet.mem_toList, methodMembers, and_iff_right_iff_imp]
    intro reported
    obtain ⟨procedure, exposed, _⟩ := reported
    exact accepted.mem_methods_regions.mpr ⟨procedure, exposed⟩
  · exact List.forall₂_map_left_iff.mpr blocksDescribed

end Program

end LockAudit
