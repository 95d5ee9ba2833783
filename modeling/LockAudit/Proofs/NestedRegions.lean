import LockAudit.Proofs.BlockRanges
import LockAudit.Proofs.RegionFindings

/-!
# Regions inside regions

A method is reported by all that it may perform, a block by what stands in it
and by what its own calls lead to.  The two rules agree: a block performs
nothing that its method does not, nothing that a block around it does not, and
nothing at all inside a block on a trusted lock.
-/

namespace LockAudit

namespace Program

variable {program : Program}

/-- What a procedure performs are its own writes and what the procedures that it
calls perform. -/
theorem performs_iff {id : ProcedureId} {place : InstructionRef} :
    program.Performs id place ↔
      (place.procedure = id ∧ program.Seeded place) ∨
        ∃ callee, program.Calls id callee ∧
          program.Performs callee place := by
  unfold Performs
  rw [Relation.ReflTransGen.cases_head_iff]
  constructor
  · intro performs
    obtain ⟨here | ⟨callee, calls, path⟩, seeded⟩ := performs
    · exact .inl ⟨here.symm, seeded⟩
    · exact .inr ⟨callee, calls, path, seeded⟩
  · intro performs
    rcases performs with ⟨here, seeded⟩ | ⟨callee, calls, path, seeded⟩
    · exact ⟨.inl here.symm, seeded⟩
    · exact ⟨.inr ⟨callee, calls, path⟩, seeded⟩

section Blocks

variable {guards : List Block} {block : Block} {procedure : Procedure}
  {place : InstructionRef}

theorem PerformsWithin.performs
    (performs : program.PerformsWithin guards block procedure place) :
    program.Performs block.procedure place := by
  cases performs with
  | own contained seeded =>
      exact performs_iff.mpr
        (.inl ⟨(Block.contains_iff.mp contained).1, seeded⟩)
  | called _ _ _ calls performs =>
      exact performs_iff.mpr (.inr ⟨_, ⟨_, calls⟩, performs⟩)

/-- A block around all the code performs what the procedure does, when no guard
and no call without an instruction stand in between. -/
theorem Performs.performsWithin
    (found : program.procedure? block.procedure = some procedure)
    (covers : ∀ index < procedure.code.length,
      block.contains ⟨block.procedure, index⟩ = true)
    (invoked : ∀ site callee, program.CallsAt block.procedure site callee →
      ∃ index, procedure.operation? index = some (.invoke site))
    (performs : program.Performs block.procedure place) :
    program.PerformsWithin [] block procedure place := by
  rcases performs_iff.mp performs with
    ⟨here, seeded⟩ | ⟨callee, ⟨site, calls⟩, performs⟩
  · have contained := covers place.index
      (seeded.lt_length (here ▸ found))
    rw [← here] at contained
    exact .own contained seeded
  · obtain ⟨index, listed⟩ := invoked site callee calls
    have contained := covers index (Procedure.lt_of_operation? listed)
    exact .called contained listed rfl calls performs

/-- A block performs what any block inside it does. -/
theorem PerformsWithin.widen {outer : Block}
    (inside : ∀ place, block.contains place = true →
      outer.contains place = true)
    (performs : program.PerformsWithin guards block procedure place) :
    program.PerformsWithin guards outer procedure place := by
  cases performs with
  | own contained seeded => exact .own (inside place contained) seeded
  | @called index site callee _ contained invoked unprotected calls performs =>
      have outerContains := inside _ contained
      have same : block.procedure = outer.procedure :=
        (Block.contains_iff.mp outerContains).1
      rw [same] at outerContains unprotected calls
      exact .called outerContains invoked unprotected calls performs

/-- Nothing is performed inside a block on a trusted lock. -/
theorem Accepted.not_performsWithin (accepted : program.Accepted)
    (found : program.procedure? block.procedure = some procedure)
    {outer : Block}
    (trusted : outer ∈ program.scope.trustedBlocks block.procedure procedure)
    (inside : ∀ place, block.contains place = true →
      outer.contains place = true) :
    ¬program.PerformsWithin
      (program.scope.trustedBlocks block.procedure procedure) block procedure
      place := by
  have guarded : ∀ place, block.contains place = true →
      isProtected (program.scope.trustedBlocks block.procedure procedure)
        place = true := by
    intro place contained
    exact List.any_eq_true.mpr ⟨outer, trusted, inside place contained⟩
  intro performs
  cases performs with
  | own contained seeded =>
      obtain ⟨other, _, bare, _⟩ := seeded
      have here := (Block.contains_iff.mp contained).1
      have isProtected := guarded place contained
      rw [← here] at found isProtected
      cases found.symm.trans bare.found
      exact bare.uncovered (accepted.isProtected_iff.mp isProtected)
  | called contained _ unprotected =>
      rw [guarded _ contained] at unprotected
      cases unprotected

end Blocks

/-- A block of a procedure that is entered inside another one lies in it. -/
theorem contains_of_entered_inside {procedure : Procedure} {id : ProcedureId}
    {outerTest innerTest : ValueNumber → Bool} {outer inner : Block}
    (outerListed : outer ∈ procedure.blocks id outerTest)
    (innerListed : inner ∈ procedure.blocks id innerTest)
    (entered : outer.contains inner.enter = true) (place : InstructionRef)
    (contained : inner.contains place = true) :
    outer.contains place = true := by
  obtain ⟨outerEnter, _, outerEntered, _, rfl⟩ :=
    Procedure.mem_blocks.mp outerListed
  obtain ⟨innerEnter, _, innerEntered, _, rfl⟩ :=
    Procedure.mem_blocks.mp innerListed
  obtain ⟨_, after, before⟩ := Block.contains_iff.mp entered
  obtain ⟨same, placeAfter, placeBefore⟩ := Block.contains_iff.mp contained
  have ends := matchingExit_le_of_inside
    (Procedure.entersMonitor_of_operation? outerEntered)
    (Procedure.entersMonitor_of_operation? innerEntered) after before
  exact Block.contains_iff.mpr ⟨same, Nat.le_trans after placeAfter,
    Nat.le_trans placeBefore ends⟩

def RegionPerforms (program : Program) : Region → InstructionRef → Prop
  | .block block => program.BlockPerforms block.enter
  | .method id => program.Performs id

theorem DescribesRegion.mem_staticFields {region : Region} {finding : Finding}
    (describes : program.DescribesRegion region finding) {name : String} :
    name ∈ finding.staticFields ↔
      ∃ place, program.RegionPerforms region place ∧
        program.ModifiesAt place name := by
  cases region with
  | block block => exact (describesBlock_iff.mp describes).fields name
  | method id => exact describes.fields name

section Findings

variable {signal : StopSignal} {outcome : Audit}

/-- A region in which all is performed that is performed in a reported one names
at least the same fields. -/
theorem Accepted.finds_around (accepted : program.Accepted)
    (success : program.audit program.callGraph signal = .ok outcome)
    {inner outer : Region} {finding : Finding}
    (finds : outcome.Finds program.callGraph inner finding)
    (reports : program.ReportsRegion outer)
    (performs : ∀ place, program.RegionPerforms inner place →
      program.RegionPerforms outer place) :
    ∃ wider, outcome.Finds program.callGraph outer wider ∧
      ∀ name ∈ finding.staticFields, name ∈ wider.staticFields := by
  obtain ⟨_, describes⟩ := (accepted.finds_iff success).mp finds
  obtain ⟨wider, outerDescribes, outerFinds⟩ :=
    accepted.exists_finds success reports
  refine ⟨wider, outerFinds, ?_⟩
  intro name member
  obtain ⟨place, performed, modifies⟩ := describes.mem_staticFields.mp member
  apply outerDescribes.mem_staticFields.mpr
  exact ⟨place, performs place performed, modifies⟩

theorem Accepted.performs_of_blockPerforms (accepted : program.Accepted)
    {enter place : InstructionRef}
    (performed : program.BlockPerforms enter place) :
    program.Performs enter.procedure place := by
  obtain ⟨procedure, found, performs⟩ := performed
  have within := (accepted.performsWithin_iff
    ⟨enter, matchingExit procedure.code enter.index⟩ rfl).mpr performs
  exact within.performs

theorem Accepted.method_finds_of_block (accepted : program.Accepted)
    (success : program.audit program.callGraph signal = .ok outcome)
    {block : Block} {finding : Finding}
    (exposed : block.procedure ∈ outcome.regions.methods)
    (finds : outcome.Finds program.callGraph (.block block) finding) :
    ∃ wider, outcome.Finds program.callGraph (.method block.procedure) wider ∧
      ∀ name ∈ finding.staticFields, name ∈ wider.staticFields := by
  rw [(accepted.concludes success).regions,
    accepted.mem_methods_regions] at exposed
  obtain ⟨method, exposedMethod⟩ := exposed
  obtain ⟨reports, _⟩ := (accepted.finds_iff success).mp finds
  obtain ⟨_, procedure, lock, exposedBlock, _, place, performs⟩ := reports
  have performed : program.BlockPerforms block.enter place :=
    ⟨procedure, exposedBlock.found, performs⟩
  apply accepted.finds_around success finds
  · exact ⟨method, exposedMethod, place,
      accepted.performs_of_blockPerforms performed⟩
  · intro other otherPerformed
    exact accepted.performs_of_blockPerforms otherPerformed

theorem Accepted.mem_exposedBlocks (accepted : program.Accepted)
    {block : Block} {procedure : Procedure}
    (listed : block ∈ program.scope.regions.blocks)
    (found : program.procedure? block.procedure = some procedure) :
    block ∈ program.scope.exposedBlocks block.procedure procedure := by
  obtain ⟨other, lock, exposed, last⟩ :=
    accepted.mem_blocks_regions.mp listed
  cases exposed.found.symm.trans found
  apply Procedure.mem_blocks.mpr
  refine ⟨block.enter.index, lock, exposed.entered, ?_, ?_⟩
  · rw [Bool.not_eq_true', Bool.eq_false_iff, Ne, accepted.trustsLock_iff]
    exact exposed.untrusted
  · rw [← last]
    rfl

/-- A write that is performed in an exposed block is performed in every exposed
block around it. -/
theorem Accepted.blockPerforms_around (accepted : program.Accepted)
    {outer inner : Block}
    (outerListed : outer ∈ program.scope.regions.blocks)
    (innerListed : inner ∈ program.scope.regions.blocks)
    (entered : outer.contains inner.enter = true) {place : InstructionRef}
    (performed : program.BlockPerforms inner.enter place) :
    program.BlockPerforms outer.enter place := by
  obtain ⟨procedure, found, performs⟩ := performed
  have same : inner.procedure = outer.procedure :=
    (Block.contains_iff.mp entered).1
  have outerFound : program.procedure? outer.procedure = some procedure :=
    same ▸ found
  have inside := contains_of_entered_inside
    (accepted.mem_exposedBlocks outerListed outerFound)
    (same ▸ accepted.mem_exposedBlocks innerListed found) entered
  obtain ⟨_, _, exposed, last⟩ := accepted.mem_blocks_regions.mp innerListed
  cases exposed.found.symm.trans found
  obtain ⟨_, _, outerExposed, outerLast⟩ :=
    accepted.mem_blocks_regions.mp outerListed
  cases outerExposed.found.symm.trans outerFound
  have within := (accepted.performsWithin_iff inner last).mpr performs
  rw [same] at within
  exact ⟨procedure, outerFound,
    (accepted.performsWithin_iff outer outerLast).mp (within.widen inside)⟩

theorem Accepted.outer_block_finds (accepted : program.Accepted)
    (success : program.audit program.callGraph signal = .ok outcome)
    {outer inner : Block} {finding : Finding}
    (exposed : outer ∈ outcome.regions.blocks)
    (entered : outer.contains inner.enter = true)
    (finds : outcome.Finds program.callGraph (.block inner) finding) :
    ∃ wider, outcome.Finds program.callGraph (.block outer) wider ∧
      ∀ name ∈ finding.staticFields, name ∈ wider.staticFields := by
  rw [(accepted.concludes success).regions] at exposed
  obtain ⟨reports, _⟩ := (accepted.finds_iff success).mp finds
  obtain ⟨innerListed, procedure, lock, innerExposed, unguarded, place,
    performs⟩ := reports
  have around : ∀ place, program.BlockPerforms inner.enter place →
      program.BlockPerforms outer.enter place :=
    fun _ => accepted.blockPerforms_around exposed innerListed entered
  have same : inner.enter.procedure = outer.enter.procedure :=
    (Block.contains_iff.mp entered).1
  obtain ⟨outerProcedure, outerLock, outerExposed, _⟩ :=
    accepted.mem_blocks_regions.mp exposed
  have outerFound : program.procedure? inner.enter.procedure =
      some outerProcedure := same ▸ outerExposed.found
  cases innerExposed.found.symm.trans outerFound
  obtain ⟨_, alsoFound, outerPerforms⟩ :=
    around place ⟨procedure, innerExposed.found, performs⟩
  cases outerExposed.found.symm.trans alsoFound
  have reportsOuter : program.ReportsRegion (.block outer) :=
    ⟨exposed, procedure, outerLock, outerExposed, same ▸ unguarded, place,
      outerPerforms⟩
  exact accepted.finds_around success finds reportsOuter around

/-- A block inside a block on a trusted lock is never reported. -/
theorem Accepted.not_finds_in_trusted (accepted : program.Accepted)
    (success : program.audit program.callGraph signal = .ok outcome)
    {outer inner : Block} {procedure : Procedure}
    (found : program.procedure? inner.procedure = some procedure)
    (trusted : outer ∈ program.scope.trustedBlocks inner.procedure procedure)
    (entered : outer.contains inner.enter = true) (finding : Finding) :
    ¬outcome.Finds program.callGraph (.block inner) finding := by
  intro finds
  obtain ⟨reports, _⟩ := (accepted.finds_iff success).mp finds
  obtain ⟨listed, _, lock, exposed, _, place, performs⟩ := reports
  obtain ⟨_, _, alsoExposed, last⟩ := accepted.mem_blocks_regions.mp listed
  cases exposed.found.symm.trans found
  cases alsoExposed.found.symm.trans found
  have inside := contains_of_entered_inside trusted
    (accepted.mem_exposedBlocks listed found) entered
  exact accepted.not_performsWithin found trusted inside
    ((accepted.performsWithin_iff inner last).mpr performs)

end Findings

/-- Whatever block of a procedure is looked at, the procedure performs all that
the block does; a block around all the code performs as much, when no block on a
trusted lock is recorded and every call site with a target is used.  So an
exposed method with a reported block is reported too, and its finding names at
least the same fields. -/
theorem blocks_agree_with_their_method (program : Program)
    (accepted : program.Accepted) (signal : StopSignal) (seeds : Seeds)
    (seeded : program.scope.seed = .ok seeds) (reach : Reach)
    (propagated : seeds.propagate program.callGraph signal = .ok reach) :
    (∀ block procedure,
      program.procedure? block.procedure = some procedure →
      block.enter.index ≤ block.last →
      (∀ place ∈ (program.survey reach).blockWrites block,
        place ∈ reach.writes block.procedure) ∧
      (reach.trustedBlocks block.procedure = [] →
        (∀ index < procedure.code.length,
          block.contains ⟨block.procedure, index⟩ = true) →
        (∀ site callee,
          callee ∈ program.callGraph.targets block.procedure site →
          ∃ index, procedure.operation? index = some (.invoke site)) →
        (program.survey reach).blockWrites block =
          reach.writes block.procedure)) ∧
    ∃ outcome, program.audit program.callGraph signal = .ok outcome ∧
      ∀ block finding, block.procedure ∈ outcome.regions.methods →
        outcome.Finds program.callGraph (.block block) finding →
        ∃ wider,
          outcome.Finds program.callGraph (.method block.procedure) wider ∧
            ∀ name ∈ finding.staticFields, name ∈ wider.staticFields := by
  have knows := accepted.knows seeded propagated
  constructor
  · intro block procedure found ordered
    have contained : ∀ place ∈ (program.survey reach).blockWrites block,
        place ∈ reach.writes block.procedure := by
      intro place member
      have performs := (knows.mem_blockWrites found ordered).mp member
      exact (knows.writes _ place).mpr performs.performs
    refine ⟨contained, ?_⟩
    intro unguarded covers invoked
    apply SortedSet.ext
    intro place
    refine ⟨contained place, ?_⟩
    intro member
    apply (knows.mem_blockWrites found ordered).mpr
    rw [unguarded]
    apply ((knows.writes _ place).mp member).performsWithin found covers
    intro site callee calls
    exact invoked site callee (mem_targets.mpr calls)
  · obtain ⟨outcome, success⟩ :=
      accepted.audit_ok_of_propagated seeded propagated
    exact ⟨outcome, success, fun _ _ => accepted.method_finds_of_block success⟩

/-- A synchronized method, all of whose code is one block, and a method that
calls it back. -/
def wrappedCounter : Program where
  classes :=
    [{ name := "Counter"
       fields :=
        [{ name := "total", isStatic := true },
          { name := "last", isStatic := true }] }]
  procedures :=
    [{ className := "Counter"
       name := "add"
       descriptor := "()V"
       isSynchronized := true
       body := some
        [⟨some 3, .monitorEnter 2⟩,
          ⟨none, .fieldWrite ⟨"Counter", "total"⟩ none⟩,
          ⟨none, .invoke 7⟩, ⟨none, .monitorExit 2⟩]
       calls := [⟨7, [1]⟩] },
     { className := "Counter"
       name := "store"
       descriptor := "()V"
       body := some
        [⟨none, .fieldWrite ⟨"Counter", "last"⟩ none⟩, ⟨none, .invoke 0⟩]
       calls := [⟨0, [0]⟩] }]

theorem wrappedCounter_agrees :
    wrappedCounter.Accepted ∧
      ∃ seeds reach outcome finding wider,
        wrappedCounter.scope.seed = .ok seeds ∧
        seeds.propagate wrappedCounter.callGraph {} = .ok reach ∧
        (wrappedCounter.survey reach).blockWrites ⟨⟨0, 0⟩, 3⟩ =
          reach.writes 0 ∧
        wrappedCounter.audit wrappedCounter.callGraph {} = .ok outcome ∧
        outcome.Finds wrappedCounter.callGraph (.block ⟨⟨0, 0⟩, 3⟩) finding ∧
        outcome.Finds wrappedCounter.callGraph (.method 0) wider ∧
        ∀ name ∈ finding.staticFields, name ∈ wider.staticFields := by
  have accepted : wrappedCounter.Accepted := by decide +kernel
  have computed :
      (wrappedCounter.scope.seed >>= fun seeds =>
        seeds.propagate wrappedCounter.callGraph {}).map
          (·.trustedBlocks 0) = .ok [] := by decide +kernel
  obtain ⟨reach, reached, unguarded⟩ := map_eq_ok_iff.mp computed
  obtain ⟨seeds, seeded, propagated⟩ := bind_eq_ok_iff.mp reached
  obtain ⟨blocks, outcome, success, reported⟩ :=
    blocks_agree_with_their_method wrappedCounter accepted {} seeds seeded
      reach propagated
  have invoked : ∀ site callee,
      callee ∈ wrappedCounter.callGraph.targets 0 site →
      ∃ index, (wrappedCounter.procedures[0]).operation? index =
        some (.invoke site) := by
    intro site callee member
    obtain ⟨procedure, found, call, listed, same, _⟩ := mem_targets.mp member
    cases found
    cases List.mem_singleton.mp listed
    exact ⟨2, same ▸ rfl⟩
  have equal := (blocks ⟨⟨0, 0⟩, 3⟩ _ rfl (by decide)).2 unguarded
    (by decide) invoked
  have audited : (wrappedCounter.audit wrappedCounter.callGraph {}).map
      (fun outcome => decide (0 ∈ outcome.regions.methods ∧
        outcome.Finds wrappedCounter.callGraph (.block ⟨⟨0, 0⟩, 3⟩)
          ⟨"LCK06J", .block,
            ⟨"Counter", "Counter", "add", "()V", none, some 3⟩,
            .ofList ["Counter.total", "Counter.last"]⟩)) = .ok true := by
    decide +kernel
  rw [success] at audited
  obtain ⟨exposed, finds⟩ := of_decide_eq_true (Except.ok.inj audited)
  obtain ⟨wider, methodFinds, subset⟩ :=
    reported ⟨⟨0, 0⟩, 3⟩ _ exposed finds
  exact ⟨accepted, seeds, reach, outcome, _, wider, seeded, propagated, equal,
    success, finds, methodFinds, subset⟩

/-- In a procedure that is audited and not guarded, a block that is entered
inside another one performs nothing that the other one does not, and nothing at
all when the other one holds a trusted lock.  So a block inside a block on a
trusted lock is never reported, and an exposed block around a reported one is
reported with at least the same fields. -/
theorem nested_blocks_report_no_more (program : Program)
    (accepted : program.Accepted) (signal : StopSignal) (seeds : Seeds)
    (seeded : program.scope.seed = .ok seeds) (reach : Reach)
    (propagated : seeds.propagate program.callGraph signal = .ok reach) :
    (∀ id procedure, program.procedure? id = some procedure →
      program.isIgnored procedure = false →
      program.scope.isGuarded id procedure = false →
      ∀ outer inner,
        (outer ∈ program.scope.trustedBlocks id procedure ∨
          outer ∈ program.scope.exposedBlocks id procedure) →
        (inner ∈ program.scope.trustedBlocks id procedure ∨
          inner ∈ program.scope.exposedBlocks id procedure) →
        outer.contains inner.enter = true →
        (∀ place ∈ (program.survey reach).blockWrites inner,
          place ∈ (program.survey reach).blockWrites outer) ∧
        (outer ∈ program.scope.trustedBlocks id procedure →
          ((program.survey reach).blockWrites inner).isEmpty = true)) ∧
    ∃ outcome, program.audit program.callGraph signal = .ok outcome ∧
      (∀ outer inner procedure finding,
        program.procedure? inner.procedure = some procedure →
        outer ∈ program.scope.trustedBlocks inner.procedure procedure →
        outer.contains inner.enter = true →
        ¬outcome.Finds program.callGraph (.block inner) finding) ∧
      ∀ outer inner finding, outer ∈ outcome.regions.blocks →
        outer.contains inner.enter = true →
        outcome.Finds program.callGraph (.block inner) finding →
        ∃ wider, outcome.Finds program.callGraph (.block outer) wider ∧
          ∀ name ∈ finding.staticFields, name ∈ wider.staticFields := by
  have knows := accepted.knows seeded propagated
  constructor
  · intro id procedure found audited unguarded outer inner outerLabelled
      innerLabelled entered
    obtain ⟨_, outerListed⟩ : ∃ test, outer ∈ procedure.blocks id test :=
      outerLabelled.elim (⟨_, ·⟩) (⟨_, ·⟩)
    obtain ⟨_, innerListed⟩ : ∃ test, inner ∈ procedure.blocks id test :=
      innerLabelled.elim (⟨_, ·⟩) (⟨_, ·⟩)
    obtain ⟨outerHere, outerOrdered, _⟩ :=
      Procedure.range_of_mem_blocks outerListed
    obtain ⟨innerHere, innerOrdered, _⟩ :=
      Procedure.range_of_mem_blocks innerListed
    have inside := contains_of_entered_inside outerListed innerListed entered
    have trusted : reach.trustedBlocks id =
        program.scope.trustedBlocks id procedure := by
      apply knows.blocks id procedure found
      · rw [← accepted.isIgnoredClass_iff, Bool.not_eq_true]
        exact audited
      · rw [← accepted.isGuarded_iff, Bool.not_eq_true]
        exact unguarded
    have innerFound : program.procedure? inner.procedure = some procedure :=
      innerHere ▸ found
    have outerFound : program.procedure? outer.procedure = some procedure :=
      outerHere ▸ found
    constructor
    · intro place member
      have performs := (knows.mem_blockWrites innerFound innerOrdered).mp member
      apply (knows.mem_blockWrites outerFound outerOrdered).mpr
      rw [innerHere] at performs
      rw [outerHere]
      exact performs.widen inside
    · intro outerTrusted
      rw [SortedSet.isEmpty_iff]
      intro place member
      have performs := (knows.mem_blockWrites innerFound innerOrdered).mp member
      subst innerHere
      rw [trusted] at performs
      exact accepted.not_performsWithin innerFound outerTrusted inside performs
  · obtain ⟨outcome, success⟩ :=
      accepted.audit_ok_of_propagated seeded propagated
    refine ⟨outcome, success, ?_, ?_⟩
    · intro outer inner procedure finding found trusted entered
      exact accepted.not_finds_in_trusted success found trusted entered finding
    · intro outer inner finding exposed entered finds
      exact accepted.outer_block_finds success exposed entered finds

/-- A block that is never closed, around one on a trusted lock with a third one
inside it, and around a fourth. -/
def layeredCounter : Program where
  classes :=
    [{ name := "Counter"
       fields :=
        [{ name := "total", isStatic := true },
          { name := "last", isStatic := true },
          { name := "guard", isStatic := true }] }]
  procedures :=
    [{ className := "Counter"
       name := "add"
       descriptor := "()V"
       body := some
        [⟨some 3, .monitorEnter 2⟩,
          ⟨none, .fieldWrite ⟨"Counter", "total"⟩ none⟩,
          ⟨some 5, .monitorEnter 3⟩, ⟨some 6, .monitorEnter 2⟩,
          ⟨none, .fieldWrite ⟨"Counter", "last"⟩ none⟩,
          ⟨none, .monitorExit 2⟩, ⟨none, .monitorExit 3⟩,
          ⟨some 9, .monitorEnter 2⟩,
          ⟨none, .fieldWrite ⟨"Counter", "last"⟩ none⟩,
          ⟨none, .monitorExit 2⟩] }]
  localPointsTo := [⟨0, 2, [5]⟩, ⟨0, 3, [1]⟩]
  staticPointsTo := [⟨"Counter", "guard", [1]⟩]

theorem layeredCounter_nested :
    layeredCounter.Accepted ∧
      ∃ seeds reach outcome finding wider,
        layeredCounter.scope.seed = .ok seeds ∧
        seeds.propagate layeredCounter.callGraph {} = .ok reach ∧
        ((layeredCounter.survey reach).blockWrites ⟨⟨0, 3⟩, 5⟩).isEmpty =
          true ∧
        layeredCounter.audit layeredCounter.callGraph {} = .ok outcome ∧
        (∀ finding, ¬outcome.Finds layeredCounter.callGraph
          (.block ⟨⟨0, 3⟩, 5⟩) finding) ∧
        outcome.Finds layeredCounter.callGraph (.block ⟨⟨0, 7⟩, 9⟩) finding ∧
        outcome.Finds layeredCounter.callGraph (.block ⟨⟨0, 0⟩, 9⟩) wider ∧
        ∀ name ∈ finding.staticFields, name ∈ wider.staticFields := by
  have accepted : layeredCounter.Accepted := by decide +kernel
  have computed :
      (layeredCounter.scope.seed >>= fun seeds =>
        seeds.propagate layeredCounter.callGraph {}).map (fun _ => ()) =
          .ok () := by decide +kernel
  obtain ⟨reach, reached, _⟩ := map_eq_ok_iff.mp computed
  obtain ⟨seeds, seeded, propagated⟩ := bind_eq_ok_iff.mp reached
  obtain ⟨blocks, outcome, success, guarded, nested⟩ :=
    nested_blocks_report_no_more layeredCounter accepted {} seeds seeded reach
      propagated
  have trusted : ⟨⟨0, 2⟩, 6⟩ ∈ layeredCounter.scope.trustedBlocks 0
      layeredCounter.procedures[0] := by decide +kernel
  have exposed : ⟨⟨0, 3⟩, 5⟩ ∈ layeredCounter.scope.exposedBlocks 0
      layeredCounter.procedures[0] := by decide +kernel
  have silent := (blocks 0 _ rfl (by decide +kernel) (by decide +kernel)
    ⟨⟨0, 2⟩, 6⟩ ⟨⟨0, 3⟩, 5⟩ (.inl trusted) (.inr exposed) (by decide)).2 trusted
  have audited : (layeredCounter.audit layeredCounter.callGraph {}).map
      (fun outcome => decide (⟨⟨0, 0⟩, 9⟩ ∈ outcome.regions.blocks ∧
        outcome.Finds layeredCounter.callGraph (.block ⟨⟨0, 7⟩, 9⟩)
          ⟨"LCK06J", .block,
            ⟨"Counter", "Counter", "add", "()V", none, some 9⟩,
            .ofList ["Counter.last"]⟩)) = .ok true := by decide +kernel
  rw [success] at audited
  obtain ⟨outerExposed, finds⟩ := of_decide_eq_true (Except.ok.inj audited)
  obtain ⟨wider, outerFinds, subset⟩ :=
    nested ⟨⟨0, 0⟩, 9⟩ ⟨⟨0, 7⟩, 9⟩ _ outerExposed (by decide) finds
  exact ⟨accepted, seeds, reach, outcome, _, wider, seeded, propagated, silent,
    success, fun finding => guarded ⟨⟨0, 2⟩, 6⟩ ⟨⟨0, 3⟩, 5⟩ _ finding rfl
      trusted (by decide), finds, outerFinds, subset⟩

end Program

end LockAudit
