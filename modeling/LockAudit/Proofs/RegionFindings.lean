import LockAudit.Proofs.AuditOutcomes

/-!
# Findings by region

Positions do not tell regions apart: two blocks may stand on one line.  Here the
findings of an audit are assigned to the regions that they are about, so that
the findings of different audits can be compared region by region.
-/

namespace LockAudit

inductive Region where
  | block (block : Block)
  | method (id : ProcedureId)
  deriving DecidableEq, Repr

/-- The regions in the order in which they are reported. -/
def Regions.toList (regions : Regions) : List Region :=
  regions.blocks.map .block ++ regions.methods.map .method

def Survey.regionFinding (survey : Survey) :
    Region → Except AuditError (Option Finding)
  | .block block => survey.blockFinding block
  | .method id => survey.methodFinding id

namespace Audit

/-- What an audit has to say of a region; nothing when there was no exposed
region at all. -/
def finding? (audit : Audit) (graph : CallGraph) (region : Region) :
    Option Finding :=
  audit.reach.bind fun reach =>
    (Survey.regionFinding ⟨audit.scope, graph, reach⟩ region).toOption.join

/-- The audit reports the exposed region with this finding. -/
structure Finds (audit : Audit) (graph : CallGraph) (region : Region)
    (finding : Finding) : Prop where
  exposed : region ∈ audit.regions.toList
  found : audit.finding? graph region = some finding
  reported : finding ∈ audit.findings

instance (audit : Audit) (graph : CallGraph) (region : Region)
    (finding : Finding) : Decidable (audit.Finds graph region finding) :=
  decidable_of_iff
    (region ∈ audit.regions.toList ∧
      audit.finding? graph region = some finding ∧ finding ∈ audit.findings)
    ⟨fun parts => ⟨parts.1, parts.2.1, parts.2.2⟩,
      fun finds => ⟨finds.exposed, finds.found, finds.reported⟩⟩

end Audit

theorem Survey.collect_eq_filterMap
    {report : α → Except AuditError (Option Finding)} {regions : List α}
    {findings : List Finding}
    (success : Survey.collect report regions = .ok findings) :
    findings = regions.filterMap fun region =>
      (report region).toOption.join := by
  induction regions generalizing findings with
  | nil =>
      cases success
      rfl
  | cons region rest induction =>
      obtain ⟨finding?, reported, continued⟩ := bind_eq_ok_iff.mp success
      obtain ⟨later, remaining, made⟩ := bind_eq_ok_iff.mp continued
      have laterFindings := induction remaining
      have said : (report region).toOption.join = finding? := by
        rw [reported]
        rfl
      rw [← pure_eq_ok_iff.mp made, laterFindings, List.filterMap_cons, said]
      cases finding? with
      | none => rfl
      | some finding => rfl

theorem Survey.findings_eq_filterMap {survey : Survey} {regions : Regions}
    {findings : List Finding}
    (success : survey.findings regions = .ok findings) :
    findings = regions.toList.filterMap fun region =>
      (survey.regionFinding region).toOption.join := by
  obtain ⟨blockFindings, blocks, continued⟩ := bind_eq_ok_iff.mp success
  obtain ⟨methodFindings, methods, made⟩ := bind_eq_ok_iff.mp continued
  rw [← pure_eq_ok_iff.mp made, Survey.collect_eq_filterMap blocks,
    Survey.collect_eq_filterMap methods, Regions.toList,
    List.filterMap_append, List.filterMap_map, List.filterMap_map]
  rfl

/-- The findings of an audit are what it has to say of its regions, in their
order. -/
theorem Program.findings_eq_filterMap {program : Program} {graph : CallGraph}
    {signal : StopSignal} {outcome : Audit}
    (success : program.audit graph signal = .ok outcome) :
    outcome.findings =
      outcome.regions.toList.filterMap (outcome.finding? graph) := by
  unfold Program.audit at success
  dsimp only at success
  split at success
  · next empty =>
      cases success
      obtain ⟨noBlocks, noMethods⟩ := Bool.and_eq_true_iff.mp empty
      simp only [Regions.toList, List.isEmpty_iff.mp noBlocks,
        List.isEmpty_iff.mp noMethods]
      rfl
  · obtain ⟨seeds, _, continued⟩ := bind_eq_ok_iff.mp success
    obtain ⟨reach, _, continued⟩ := bind_eq_ok_iff.mp continued
    obtain ⟨findings, reported, made⟩ := bind_eq_ok_iff.mp continued
    cases made
    exact Survey.findings_eq_filterMap reported

/-- Every finding is about a region. -/
theorem Program.mem_findings_iff {program : Program} {graph : CallGraph}
    {signal : StopSignal} {outcome : Audit}
    (success : program.audit graph signal = .ok outcome) {finding : Finding} :
    finding ∈ outcome.findings ↔
      ∃ region, outcome.Finds graph region finding := by
  constructor
  · intro reported
    have said := reported
    rw [Program.findings_eq_filterMap success] at said
    obtain ⟨region, exposed, found⟩ := List.mem_filterMap.mp said
    exact ⟨region, exposed, found, reported⟩
  · intro finds
    obtain ⟨_, finds⟩ := finds
    exact finds.reported

namespace Program

/-- What is known of an audit that has succeeded. -/
structure Concludes (program : Program) (outcome : Audit) : Prop where
  scope : outcome.scope = program.scope
  regions : outcome.regions = program.scope.regions
  explains : program.Explains outcome.findings
  reach :
    (¬program.HasExposedRegion ∧ outcome.reach = none) ∨
      (program.HasExposedRegion ∧
        ∃ reach, outcome.reach = some reach ∧ program.Knows reach)

variable {program : Program} {signal : StopSignal} {outcome : Audit}

theorem Accepted.concludes (accepted : program.Accepted)
    (success : program.audit program.callGraph signal = .ok outcome) :
    program.Concludes outcome := by
  by_cases region : program.HasExposedRegion
  · cases seeded : program.scope.seed with
    | error error =>
        cases (accepted.audit_faulty region seeded signal).symm.trans success
    | ok seeds =>
        cases solved : (seeds.flowProblem program.callGraph).solve signal with
        | error stopped =>
            cases (accepted.audit_stopped region seeded solved).symm.trans
              success
        | ok solution =>
            obtain ⟨findings, explains, audited⟩ :=
              accepted.audit_reported region seeded solved
            cases audited.symm.trans success
            have propagated := Seeds.propagate_eq_ok_iff.mpr
              ⟨solution, solved, rfl⟩
            exact ⟨rfl, rfl, explains, .inr ⟨region, _, rfl,
              accepted.knows seeded propagated⟩⟩
  · cases (accepted.audit_idle region signal).symm.trans success
    exact ⟨rfl, rfl, explains_nil region, .inl ⟨region, rfl⟩⟩

theorem Concludes.knows (concludes : program.Concludes outcome)
    {reach : Reach} (reached : outcome.reach = some reach) :
    program.Knows reach := by
  rcases concludes.reach with ⟨_, idle⟩ | ⟨_, other, alsoReached, knows⟩
  · cases idle.symm.trans reached
  · cases alsoReached.symm.trans reached
    exact knows

theorem Accepted.not_faulty_of_audit_ok (accepted : program.Accepted)
    (success : program.audit program.callGraph signal = .ok outcome)
    (region : program.HasExposedRegion) (place : InstructionRef)
    (error : AuditError) : ¬program.Faulty place error := by
  cases seeded : program.scope.seed with
  | ok seeds => exact accepted.not_faulty_of_seed_ok seeded place error
  | error first =>
      cases (accepted.audit_faulty region seeded signal).symm.trans success

/-- An audit that is not stopped succeeds when no unguarded write is faulty or
there is nothing to look at. -/
theorem Accepted.audit_succeeds (accepted : program.Accepted)
    (silent : signal.Silent)
    (faultless : program.HasExposedRegion →
      ∀ place error, ¬program.Faulty place error) :
    ∃ outcome, program.audit program.callGraph signal = .ok outcome := by
  cases ended : program.audit program.callGraph signal with
  | ok outcome => exact ⟨outcome, rfl⟩
  | error error =>
      obtain ⟨region, failed⟩ := (accepted.audit_eq_error_iff silent).mp ended
      obtain ⟨place, first⟩ := accepted.seed_error_iff.mp failed
      exact (faultless region place error first.1).elim

/-- The write is performed while the block that starts at `enter` is
executed. -/
def BlockPerforms (program : Program) (enter place : InstructionRef) : Prop :=
  ∃ procedure, program.procedure? enter.procedure = some procedure ∧
    program.PerformsIn enter procedure place

theorem describesBlock_iff {enter : InstructionRef} {finding : Finding} :
    program.DescribesBlock enter finding ↔
      program.Describes .block
        (program.instructionPosition? enter.procedure enter.index)
        (program.BlockPerforms enter) finding := by
  cases found : program.procedure? enter.procedure with
  | none =>
      constructor
      · intro describes
        obtain ⟨procedure, foundHere, _⟩ := describes
        simp [found] at foundHere
      · intro describes
        have nowhere := describes.position
        simp [instructionPosition?, found] at nowhere
  | some procedure =>
      have performed : program.BlockPerforms enter =
          program.PerformsIn enter procedure := by
        funext place
        simp [BlockPerforms, found]
      simp [DescribesBlock, found, performed]

/-- The region is one that an audit reports. -/
def ReportsRegion (program : Program) : Region → Prop
  | .block block => block ∈ program.scope.regions.blocks ∧
      program.ReportsBlock block.enter
  | .method id => program.ReportsMethod id

def DescribesRegion (program : Program) : Region → Finding → Prop
  | .block block => program.DescribesBlock block.enter
  | .method id => program.DescribesMethod id

theorem DescribesRegion.unique {region : Region} {left right : Finding}
    (leftDescribes : program.DescribesRegion region left)
    (rightDescribes : program.DescribesRegion region right) : left = right := by
  cases region with
  | block block => exact DescribesBlock.unique leftDescribes rightDescribes
  | method id => exact Describes.unique leftDescribes rightDescribes

theorem Accepted.exposed_of_reportsRegion (accepted : program.Accepted)
    {region : Region} (reports : program.ReportsRegion region) :
    region ∈ program.scope.regions.toList := by
  cases region with
  | block block => simpa [Regions.toList] using reports.1
  | method id =>
      obtain ⟨procedure, exposed, _⟩ := reports
      simpa [Regions.toList] using
        accepted.mem_methods_regions.mpr ⟨procedure, exposed⟩

theorem Accepted.hasExposedRegion_of_mem (accepted : program.Accepted)
    {region : Region} (exposed : region ∈ program.scope.regions.toList) :
    program.HasExposedRegion := by
  apply Classical.byContradiction
  intro noRegion
  have empty := accepted.isEmpty_regions_iff.mpr noRegion
  obtain ⟨noBlocks, noMethods⟩ := Bool.and_eq_true_iff.mp empty
  simp [Regions.toList, List.isEmpty_iff.mp noBlocks,
    List.isEmpty_iff.mp noMethods] at exposed

theorem Accepted.regionFinding_ok (accepted : program.Accepted)
    {reach : Reach} (knows : program.Knows reach) {region : Region}
    (exposed : region ∈ program.scope.regions.toList) :
    ∃ finding?, (program.survey reach).regionFinding region = .ok finding? ∧
      Answers (program.ReportsRegion region) (program.DescribesRegion region)
        finding? := by
  simp only [Regions.toList, List.mem_append, List.mem_map] at exposed
  rcases exposed with ⟨block, listed, rfl⟩ | ⟨id, listed, rfl⟩
  · obtain ⟨finding?, success, answers⟩ :=
      accepted.blockFinding_ok knows listed
    refine ⟨finding?, success, answers.imp ?_ fun _ describes => describes⟩
    simp [ReportsRegion, listed]
  · exact accepted.methodFinding_ok knows listed

/-- An audit that succeeds answers for each of its regions. -/
theorem Accepted.finding?_answers (accepted : program.Accepted)
    (success : program.audit program.callGraph signal = .ok outcome)
    {region : Region} (exposed : region ∈ program.scope.regions.toList) :
    Answers (program.ReportsRegion region) (program.DescribesRegion region)
      (outcome.finding? program.callGraph region) := by
  have concludes := accepted.concludes success
  rcases concludes.reach with ⟨noRegion, _⟩ | ⟨_, reach, reached, knows⟩
  · exact (noRegion (accepted.hasExposedRegion_of_mem exposed)).elim
  · obtain ⟨finding?, answered, answers⟩ :=
      accepted.regionFinding_ok knows exposed
    have surveyed : Survey.regionFinding
        ⟨outcome.scope, program.callGraph, reach⟩ region = .ok finding? := by
      rw [concludes.scope]
      exact answered
    have said : outcome.finding? program.callGraph region = finding? := by
      simp [Audit.finding?, reached, surveyed, Except.toOption]
    exact said ▸ answers

theorem Accepted.exists_finds (accepted : program.Accepted)
    (success : program.audit program.callGraph signal = .ok outcome)
    {region : Region} (reports : program.ReportsRegion region) :
    ∃ finding, program.DescribesRegion region finding ∧
      outcome.Finds program.callGraph region finding := by
  have exposed := accepted.exposed_of_reportsRegion reports
  have answers := accepted.finding?_answers success exposed
  generalize said : outcome.finding? program.callGraph region = finding?
    at answers
  cases answers with
  | nothing silent => exact (silent reports).elim
  | @finding finding _ describes =>
      rw [← (accepted.concludes success).regions] at exposed
      refine ⟨finding, describes, exposed, said, ?_⟩
      rw [findings_eq_filterMap success]
      exact List.mem_filterMap.mpr ⟨region, exposed, said⟩

/-- The finding of an audit about a region is the one that describes it, and
only regions that are to be reported have one. -/
theorem Accepted.finds_iff (accepted : program.Accepted)
    (success : program.audit program.callGraph signal = .ok outcome)
    {region : Region} {finding : Finding} :
    outcome.Finds program.callGraph region finding ↔
      program.ReportsRegion region ∧
        program.DescribesRegion region finding := by
  constructor
  · intro finds
    have exposed := (accepted.concludes success).regions ▸ finds.exposed
    have answers := accepted.finding?_answers success exposed
    rw [finds.found] at answers
    cases answers with
    | finding reports describes => exact ⟨reports, describes⟩
  · intro described
    obtain ⟨reports, describes⟩ := described
    obtain ⟨other, otherDescribes, finds⟩ :=
      accepted.exists_finds success reports
    cases otherDescribes.unique describes
    exact finds

end Program

/-- The second finding is about the same region and names at least the fields
that the first one names. -/
structure Finding.Within (narrow wide : Finding) : Prop where
  patternId : wide.patternId = narrow.patternId
  region : wide.region = narrow.region
  position : wide.position = narrow.position
  fields : ∀ name ∈ narrow.staticFields, name ∈ wide.staticFields

end LockAudit
