import LockAudit.Proofs.AuditedCode
import LockAudit.Proofs.RelocatedCode
import Mathlib.Order.Monotone.Basic

/-!
# Shifted code

Code is shifted when procedures keep their numbers and instructions keep their
order.  Every phase of an audit then goes through the same steps: it sees the
same regions, finds the same writes and gives them the same numbers, so that the
solver is set the same problem, and what the audit tells of the program is the
same under every signal.
-/

namespace LockAudit

/-- Every procedure keeps its number, and instructions stay in order. -/
structure Relocation.InPlace (moves : Relocation) : Prop where
  procedure : ∀ id, moves.procedure id = id
  index : ∀ id, StrictMono (moves.index id)

theorem Relocation.InPlace.place_eq {moves : Relocation}
    (inPlace : moves.InPlace) (place : InstructionRef) :
    moves.place place =
      ⟨place.procedure, moves.index place.procedure place.index⟩ := by
  rw [Relocation.place, inPlace.procedure]

theorem Relocation.InPlace.before {moves : Relocation}
    (inPlace : moves.InPlace) {left right : InstructionRef}
    (before : left.Before right) :
    (moves.place left).Before (moves.place right) := by
  rw [inPlace.place_eq, inPlace.place_eq]
  rcases before with earlier | ⟨same, earlier⟩
  · exact .inl earlier
  · refine .inr ⟨same, ?_⟩
    rw [same]
    exact inPlace.index right.procedure earlier

/-- The order of places is kept. -/
theorem Relocation.InPlace.increasing_map {moves : Relocation}
    (inPlace : moves.InPlace) {places : List InstructionRef}
    (increasing : Increasing places) :
    Increasing (places.map moves.place) := by
  apply increasing.map
  intro left right before
  rw [InstructionRef.compare_eq_lt_iff] at before ⊢
  exact inPlace.before before

namespace Scope

/-- Places under other names get the same numbers. -/
theorem numberAll_map {rename : InstructionRef → InstructionRef}
    (injective : Function.Injective rename)
    (numbering : Numbering InstructionRef) (places : List InstructionRef) :
    numberAll (numbering.map rename) (places.map rename) =
      ((numberAll numbering places).1,
        (numberAll numbering places).2.map rename) := by
  have fold : ∀ collected : BitVector × Numbering InstructionRef,
      (places.map rename).foldl numberOne
          (collected.1, collected.2.map rename) =
        ((places.foldl numberOne collected).1,
          (places.foldl numberOne collected).2.map rename) := by
    induction places with
    | nil =>
        intro collected
        rfl
    | cons place places induction =>
        intro collected
        have later := induction (numberOne collected place)
        simpa only [List.map_cons, List.foldl_cons, numberOne,
          Numbering.add_map injective] using later
  rw [numberAll_eq_foldl, numberAll_eq_foldl, fold (∅, numbering)]

end Scope

/-- The procedure starts with the same numbers, given to places under other
names. -/
structure SeededAlike (rename : InstructionRef → InstructionRef)
    (left right : ProcedureFacts × Numbering InstructionRef) : Prop where
  ownWrites : right.1.ownWrites = left.1.ownWrites
  numbering : right.2 = left.2.map rename

/-- All procedures start with the same numbers. -/
structure Seeds.Alike (rename : InstructionRef → InstructionRef)
    (left right : Seeds) : Prop where
  ownWrites : right.facts.map (·.ownWrites) = left.facts.map (·.ownWrites)
  numbering : right.numbering = left.numbering.map rename

theorem Seeds.Alike.flowProblem_eq {rename : InstructionRef → InstructionRef}
    {left right : Seeds} (alike : left.Alike rename right)
    (graph : CallGraph) : right.flowProblem graph = left.flowProblem graph := by
  simp only [Seeds.flowProblem, alike.ownWrites, alike.numbering,
    Numbering.size_map]

theorem Scope.seedFrom_alike {scope other : Scope}
    {rename : InstructionRef → InstructionRef}
    {procedures others : List Procedure} (id : ProcedureId)
    (sameLength : others.length = procedures.length)
    (each : ∀ offset procedure otherProcedure,
      procedures[offset]? = some procedure →
      others[offset]? = some otherProcedure →
      ∀ numbering, EndsAlike (SeededAlike rename)
        (scope.seedProcedure numbering (id + offset) procedure)
        (other.seedProcedure (numbering.map rename) (id + offset)
          otherProcedure))
    (numbering : Numbering InstructionRef) :
    EndsAlike (Seeds.Alike rename) (scope.seedFrom numbering id procedures)
      (other.seedFrom (numbering.map rename) id others) := by
  induction procedures generalizing id others numbering with
  | nil =>
      cases List.eq_nil_of_length_eq_zero sameLength
      exact .succeeded ⟨rfl, rfl⟩
  | cons procedure rest induction =>
      cases others with
      | nil => cases sameLength
      | cons otherProcedure otherRest =>
          have here := each 0 procedure otherProcedure rfl rfl numbering
          have later : ∀ numbering, EndsAlike (Seeds.Alike rename)
              (scope.seedFrom numbering (id + 1) rest)
              (other.seedFrom (numbering.map rename) (id + 1) otherRest) := by
            apply induction (id + 1) (Nat.succ.inj sameLength)
            intro offset next otherNext found otherFound
            rw [Nat.add_right_comm, Nat.add_assoc]
            exact each (offset + 1) next otherNext found otherFound
          rw [Nat.add_zero] at here
          apply here.bind
          intro seeded otherSeeded alike
          obtain ⟨facts, between⟩ := seeded
          obtain ⟨otherFacts, otherBetween⟩ := otherSeeded
          cases alike.numbering
          apply (later between).bind
          intro seeds otherSeeds laterAlike
          refine .succeeded ⟨?_, laterAlike.numbering⟩
          exact congrArg₂ List.cons alike.ownWrites laterAlike.ownWrites

namespace Program

section Seeding

variable {left right : Program} {moves : Relocation}
  (relocates : left.Relocates right moves) (inPlace : moves.InPlace)
  (accepted : left.Accepted) (rightAccepted : right.Accepted)
  {id : ProcedureId} {leftProcedure rightProcedure : Procedure}
  (found : left.procedure? id = some leftProcedure)
  (rightFound : right.procedure? id = some rightProcedure)

include relocates inPlace

theorem Relocates.carries
    (found : left.procedure? id = some leftProcedure)
    (rightFound : right.procedure? id = some rightProcedure) :
    left.Carries right moves id leftProcedure rightProcedure := by
  obtain ⟨other, alsoFound, carries⟩ :=
    relocates.moved id leftProcedure found
  rw [inPlace.procedure] at alsoFound
  cases rightFound.symm.trans alsoFound
  exact carries

/-- A procedure has the same faults, at the shifted indices. -/
theorem Relocates.faulty_shifted_iff {index : Nat} {error : AuditError} :
    right.Faulty ⟨id, index⟩ error ↔
      ∃ origin, moves.index id origin = index ∧
        left.Faulty ⟨id, origin⟩ error := by
  rw [relocates.faulty_iff]
  constructor
  · intro faulty
    obtain ⟨⟨procedure, origin⟩, there, faulty⟩ := faulty
    rw [inPlace.place_eq] at there
    cases there
    exact ⟨origin, rfl, faulty⟩
  · intro faulty
    obtain ⟨origin, there, faulty⟩ := faulty
    subst there
    exact ⟨⟨id, origin⟩, inPlace.place_eq _, faulty⟩

include accepted rightAccepted found rightFound

theorem Relocates.isSeeded_eq :
    right.scope.isSeeded id rightProcedure =
      left.scope.isSeeded id leftProcedure := by
  have carries := relocates.carries inPlace found rightFound
  have same := relocates.toSameLookups
  have guarded := carries.guarded_iff same
  rw [inPlace.procedure] at guarded
  rw [Bool.eq_iff_iff, rightAccepted.isSeeded_iff, accepted.isSeeded_iff,
    carries.ofPlatform_iff same, guarded]

section Scans

variable (isSeeded : left.scope.isSeeded id leftProcedure = true)
  (rightSeeded : right.scope.isSeeded id rightProcedure = true)

include isSeeded rightSeeded

/-- Both lists are in order, so that their members determine them. -/
theorem Relocates.unguardedWrites_eq {writes rightWrites : List InstructionRef}
    (scanned : left.scope.unguardedWrites id leftProcedure
      (left.scope.trustedBlocks id leftProcedure) = .ok writes)
    (rightScanned : right.scope.unguardedWrites id rightProcedure
      (right.scope.trustedBlocks id rightProcedure) = .ok rightWrites) :
    rightWrites = writes.map moves.place := by
  obtain ⟨members, _⟩ := accepted.unguardedWrites_ok found isSeeded scanned
  obtain ⟨rightMembers, _⟩ :=
    rightAccepted.unguardedWrites_ok rightFound rightSeeded rightScanned
  have same : ∀ place, place ∈ rightWrites ↔
      place ∈ writes.map moves.place := by
    intro place
    rw [rightMembers, List.mem_map, relocates.seeded_iff]
    simp only [members]
    constructor
    · intro member
      obtain ⟨here, origin, there, seeded⟩ := member
      subst there
      rw [inPlace.place_eq] at here
      exact ⟨origin, ⟨here, seeded⟩, rfl⟩
    · intro member
      obtain ⟨origin, ⟨here, seeded⟩, there⟩ := member
      subst there
      refine ⟨?_, origin, rfl, seeded⟩
      rw [inPlace.place_eq]
      exact here
  exact eq_of_increasing (Scope.unguardedWritesFrom_increasing rightScanned)
    (inPlace.increasing_map (Scope.unguardedWritesFrom_increasing scanned))
    (fun place => (same place).mp) (fun place => (same place).mpr)

theorem Relocates.fault_eq {error rightError : AuditError}
    (scanned : left.scope.unguardedWrites id leftProcedure
      (left.scope.trustedBlocks id leftProcedure) = .error error)
    (rightScanned : right.scope.unguardedWrites id rightProcedure
      (right.scope.trustedBlocks id rightProcedure) = .error rightError) :
    rightError = error := by
  obtain ⟨index, faulty, first⟩ :=
    accepted.unguardedWrites_error found isSeeded scanned
  obtain ⟨rightIndex, rightFaulty, rightFirst⟩ :=
    rightAccepted.unguardedWrites_error rightFound rightSeeded rightScanned
  obtain ⟨origin, there, originFaulty⟩ :=
    (relocates.faulty_shifted_iff inPlace).mp rightFaulty
  subst there
  rcases Nat.lt_trichotomy origin index with earlier | same | later
  · exact (first origin earlier rightError originFaulty).elim
  · subst same
    exact originFaulty.unique faulty
  · have shifted : right.Faulty ⟨id, moves.index id index⟩ error :=
      (relocates.faulty_shifted_iff inPlace).mpr ⟨index, rfl, faulty⟩
    exact (rightFirst _ (inPlace.index id later) error shifted).elim

end Scans

/-- Both scans find the same writes, or fail at the same write. -/
theorem Relocates.unguardedWrites_alike
    (isSeeded : left.scope.isSeeded id leftProcedure = true) :
    EndsAlike (fun writes shifted => shifted = writes.map moves.place)
      (left.scope.unguardedWrites id leftProcedure
        (left.scope.trustedBlocks id leftProcedure))
      (right.scope.unguardedWrites id rightProcedure
        (right.scope.trustedBlocks id rightProcedure)) := by
  have rightSeeded := (relocates.isSeeded_eq inPlace accepted rightAccepted
    found rightFound).trans isSeeded
  cases scanned : left.scope.unguardedWrites id leftProcedure
      (left.scope.trustedBlocks id leftProcedure) with
  | ok writes =>
      cases rightScanned : right.scope.unguardedWrites id rightProcedure
          (right.scope.trustedBlocks id rightProcedure) with
      | ok rightWrites =>
          exact .succeeded (relocates.unguardedWrites_eq inPlace accepted
            rightAccepted found rightFound isSeeded rightSeeded scanned
            rightScanned)
      | error error =>
          obtain ⟨_, faultless⟩ :=
            accepted.unguardedWrites_ok found isSeeded scanned
          obtain ⟨index, faulty, _⟩ := rightAccepted.unguardedWrites_error
            rightFound rightSeeded rightScanned
          obtain ⟨origin, _, leftFaulty⟩ :=
            (relocates.faulty_shifted_iff inPlace).mp faulty
          exact (faultless _ error rfl leftFaulty).elim
  | error error =>
      cases rightScanned : right.scope.unguardedWrites id rightProcedure
          (right.scope.trustedBlocks id rightProcedure) with
      | ok rightWrites =>
          obtain ⟨index, faulty, _⟩ :=
            accepted.unguardedWrites_error found isSeeded scanned
          obtain ⟨_, faultless⟩ := rightAccepted.unguardedWrites_ok rightFound
            rightSeeded rightScanned
          have shifted : right.Faulty ⟨id, moves.index id index⟩ error :=
            (relocates.faulty_shifted_iff inPlace).mpr ⟨index, rfl, faulty⟩
          exact (faultless _ error rfl shifted).elim
      | error rightError =>
          cases relocates.fault_eq inPlace accepted rightAccepted found
            rightFound isSeeded rightSeeded scanned rightScanned
          exact .failed error

theorem Relocates.seedProcedure_alike
    (numbering : Numbering InstructionRef) :
    EndsAlike (SeededAlike moves.place)
      (left.scope.seedProcedure numbering id leftProcedure)
      (right.scope.seedProcedure (numbering.map moves.place) id
        rightProcedure) := by
  have sameSeeded := relocates.isSeeded_eq inPlace accepted rightAccepted found
    rightFound
  cases isSeeded : left.scope.isSeeded id leftProcedure with
  | false =>
      simp only [Scope.seedProcedure, sameSeeded, isSeeded,
        Bool.false_eq_true, if_false]
      exact .succeeded ⟨rfl, rfl⟩
  | true =>
      simp only [Scope.seedProcedure, sameSeeded, isSeeded, if_true]
      apply (relocates.unguardedWrites_alike inPlace accepted rightAccepted
        found rightFound isSeeded).bind
      intro writes shifted same
      subst same
      rw [Scope.numberAll_map moves.place_injective]
      exact .succeeded ⟨rfl, rfl⟩

end Seeding

section Audits

variable {left right : Program} {moves : Relocation}
  (relocates : left.Relocates right moves) (inPlace : moves.InPlace)

include relocates inPlace

theorem Relocates.lt_length_iff (id : ProcedureId) :
    id < right.procedures.length ↔ id < left.procedures.length := by
  constructor
  · intro inRange
    obtain ⟨origin, _, there, found⟩ :=
      relocates.origin id _ (List.getElem?_eq_getElem inRange)
    rw [inPlace.procedure] at there
    exact there ▸ (List.getElem?_eq_some_iff.mp found).1
  · intro inRange
    obtain ⟨_, found, _⟩ :=
      relocates.moved id _ (List.getElem?_eq_getElem inRange)
    rw [inPlace.procedure] at found
    exact (List.getElem?_eq_some_iff.mp found).1

theorem Relocates.count :
    right.procedures.length = left.procedures.length := by
  have inRange := relocates.lt_length_iff inPlace
  apply Nat.le_antisymm
  · exact Nat.le_of_not_lt fun longer =>
      Nat.lt_irrefl _ ((inRange _).mp longer)
  · exact Nat.le_of_not_lt fun shorter =>
      Nat.lt_irrefl _ ((inRange _).mpr shorter)

theorem Relocates.callGraph_eq : right.callGraph = left.callGraph := by
  apply callGraph_eq_of_callsAt (relocates.count inPlace)
  intro caller site callee
  have calls := relocates.calls caller site callee
  simpa only [inPlace.procedure, exists_eq_left] using calls

/-- Where instructions stay in order, so do the findings. -/
theorem Relocates.explains {findings : List Finding}
    (explains : left.Explains findings) : right.Explains findings := by
  obtain ⟨blocks, methods, blockFindings, methodFindings, reportedBlocks,
    reportedMethods, describedBlocks, describedMethods, made⟩ := explains
  have kept : methods.toList.map moves.procedure = methods.toList := by
    rw [List.map_congr_left fun id _ => inPlace.procedure id, List.map_id']
  have methodsMember := relocates.mem_map_procedure reportedMethods
  have methodsDescribed := relocates.forall₂_describesMethod
    (fun id => (reportedMethods id).mp) describedMethods
  rw [kept] at methodsDescribed
  rw [kept] at methodsMember
  exact ⟨⟨_, inPlace.increasing_map blocks.increasing⟩, methods,
    blockFindings, methodFindings, relocates.mem_map_place reportedBlocks,
    methodsMember,
    relocates.forall₂_describesBlock (fun enter => (reportedBlocks enter).mp)
      describedBlocks, methodsDescribed, made⟩

variable (accepted : left.Accepted) (rightAccepted : right.Accepted)

include accepted rightAccepted

theorem Relocates.seed_alike :
    EndsAlike (Seeds.Alike moves.place) left.scope.seed right.scope.seed := by
  apply Scope.seedFrom_alike 0 (relocates.count inPlace)
  intro offset leftProcedure rightProcedure found rightFound numbering
  rw [Nat.zero_add]
  exact relocates.seedProcedure_alike inPlace accepted rightAccepted found
    rightFound numbering

theorem Relocates.enters_regions_eq :
    right.scope.regions.blocks.map Block.enter =
      (left.scope.regions.blocks.map Block.enter).map moves.place := by
  apply eq_of_increasing right.blocks_regions_increasing
    (inPlace.increasing_map left.blocks_regions_increasing)
  · intro enter member
    obtain ⟨_, lock, exposed⟩ := rightAccepted.mem_enters_regions.mp member
    obtain ⟨origin, leftProcedure, there, leftExposed, _⟩ :=
      relocates.exposedBlock_origin exposed
    exact List.mem_map.mpr ⟨origin,
      accepted.mem_enters_regions.mpr ⟨leftProcedure, lock, leftExposed⟩,
      there⟩
  · intro enter member
    obtain ⟨origin, listed, there⟩ := List.mem_map.mp member
    obtain ⟨_, lock, exposed⟩ := accepted.mem_enters_regions.mp listed
    obtain ⟨rightProcedure, rightExposed, _⟩ :=
      relocates.exposedBlock_moved exposed
    exact rightAccepted.mem_enters_regions.mpr
      ⟨rightProcedure, lock, there ▸ rightExposed⟩

theorem Relocates.methods_regions_eq :
    right.scope.regions.methods = left.scope.regions.methods := by
  apply eq_of_increasing right.methods_regions_increasing
    left.methods_regions_increasing
  · intro id member
    obtain ⟨rightProcedure, exposed⟩ :=
      rightAccepted.mem_methods_regions.mp member
    obtain ⟨origin, leftProcedure, there, leftExposed⟩ :=
      relocates.exposedMethod_origin exposed
    rw [inPlace.procedure] at there
    exact accepted.mem_methods_regions.mpr
      ⟨leftProcedure, there ▸ leftExposed⟩
  · intro id member
    obtain ⟨leftProcedure, exposed⟩ := accepted.mem_methods_regions.mp member
    obtain ⟨rightProcedure, rightExposed, _⟩ :=
      relocates.exposedMethod_moved exposed
    rw [inPlace.procedure] at rightExposed
    exact rightAccepted.mem_methods_regions.mpr ⟨rightProcedure, rightExposed⟩

end Audits

end Program

/-- What an audit tells of a program. -/
structure AuditSummary where
  findings : List Finding
  exposedBlocks : Nat
  exposedMethods : Nat
  /-- The steps of the solver, if it was called. -/
  steps : Option Nat
  deriving DecidableEq

def Audit.summary (audit : Audit) : AuditSummary where
  findings := audit.findings
  exposedBlocks := audit.regions.blocks.length
  exposedMethods := audit.regions.methods.length
  steps := audit.reach.map (·.steps)

/-- Audits of shifted code tell the same under every signal. -/
theorem Program.Relocates.summary_eq {left right : Program}
    {moves : Relocation} (relocates : left.Relocates right moves)
    (inPlace : moves.InPlace) (accepted : left.Accepted)
    (rightAccepted : right.Accepted) (signal : StopSignal) :
    (right.audit right.callGraph signal).map Audit.summary =
      (left.audit left.callGraph signal).map Audit.summary := by
  have exposed := relocates.hasExposedRegion_iff
  have blocks : right.scope.regions.blocks.length =
      left.scope.regions.blocks.length := by
    have enters := relocates.enters_regions_eq inPlace accepted rightAccepted
    simpa using congrArg List.length enters
  have methods :=
    relocates.methods_regions_eq inPlace accepted rightAccepted
  by_cases region : left.HasExposedRegion
  · have rightRegion := exposed.mpr region
    have seedsAlike := relocates.seed_alike inPlace accepted rightAccepted
    generalize seeded : left.scope.seed = result at seedsAlike
    generalize rightSeeded : right.scope.seed = rightResult at seedsAlike
    cases seedsAlike with
    | failed error =>
        rw [accepted.audit_faulty region seeded,
          rightAccepted.audit_faulty rightRegion rightSeeded]
    | @succeeded seeds rightSeeds alike =>
        have problems : rightSeeds.flowProblem right.callGraph =
            seeds.flowProblem left.callGraph := by
          rw [relocates.callGraph_eq inPlace, alike.flowProblem_eq]
        cases solved : (seeds.flowProblem left.callGraph).solve signal with
        | error stopped =>
            rw [accepted.audit_stopped region seeded solved,
              rightAccepted.audit_stopped rightRegion rightSeeded
                (problems ▸ solved)]
        | ok solution =>
            obtain ⟨findings, explains, audited⟩ :=
              accepted.audit_reported region seeded solved
            obtain ⟨rightFindings, rightExplains, rightAudited⟩ :=
              rightAccepted.audit_reported rightRegion rightSeeded
                (problems ▸ solved)
            have sameFindings :=
              rightExplains.unique (relocates.explains inPlace explains)
            rw [audited, rightAudited]
            simp only [Except.map, Audit.summary, sameFindings, blocks,
              methods, Option.map_some, Reach.steps]
  · rw [accepted.audit_idle region,
      rightAccepted.audit_idle (mt exposed.mp region)]
    simp only [Except.map, Audit.summary, blocks, methods, Option.map_none]

end LockAudit
