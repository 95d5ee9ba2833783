import LockAudit.Proofs.AuditedCode

/-!
# Audits that find more

Two ways to make a program coarser: to let its procedures call more, and to
know less of what its values hold.  Neither loses a finding.  More calls leave
regions and seeds as they are and let writes reach further; blurred aliases
take trust away from locks, and with it the cover of blocks and methods.
-/

namespace LockAudit

/-- The procedures are the same, but the second one lists more targets. -/
structure Procedure.AddsCalls (procedure extended : Procedure) : Prop where
  same : { procedure with calls := extended.calls } = extended
  more : ∀ call ∈ procedure.calls, ∀ target ∈ call.targets,
    ∃ other ∈ extended.calls, other.site = call.site ∧ target ∈ other.targets

namespace Program

/-- The programs are the same, but some procedures of the second one list more
targets. -/
structure AddsCalls (program extended : Program) : Prop
    extends SameDeclarations program extended where
  locals : ∀ id value,
    extended.pointsToLocal id value = program.pointsToLocal id value
  procedures : List.Forall₂ Procedure.AddsCalls program.procedures
    extended.procedures

section Calls

variable {program extended : Program}

theorem AddsCalls.procedure {id : ProcedureId} {procedure other : Procedure}
    (adds : program.AddsCalls extended)
    (found : program.procedure? id = some procedure)
    (otherFound : extended.procedure? id = some other) :
    procedure.AddsCalls other := by
  have related := forall₂_getElem? adds.procedures id
  rw [← procedure?, ← procedure?, found, otherFound] at related
  cases related with
  | some related => exact related

theorem AddsCalls.sameAudited (adds : program.AddsCalls extended) :
    program.SameAudited extended where
  toSameLookups := adds.sameLookups
  count := (List.Forall₂.length_eq adds.procedures).symm
  className := by
    intro id procedure other found otherFound
    have same := (adds.procedure found otherFound).same
    exact (congrArg Procedure.className same).symm
  code := by
    intro id procedure other found otherFound _
    rw [← (adds.procedure found otherFound).same]
    exact ⟨⟨⟨rfl, rfl, rfl, rfl, rfl⟩, rfl, rfl, adds.locals id⟩, rfl⟩

theorem AddsCalls.callsAt (adds : program.AddsCalls extended)
    {caller callee : ProcedureId} {site : SiteNumber}
    (calls : program.CallsAt caller site callee) :
    extended.CallsAt caller site callee := by
  obtain ⟨procedure, found, call, listed, sameSite, targeted⟩ := calls
  obtain ⟨other, otherFound⟩ :=
    exists_procedure_of_count adds.sameAudited.count found
  obtain ⟨otherCall, otherListed, otherSite, otherTargeted⟩ :=
    (adds.procedure found otherFound).more call listed callee targeted
  exact ⟨other, otherFound, otherCall, otherListed, otherSite.trans sameSite,
    otherTargeted⟩

end Calls

/-- Calls that are added change neither how an audit fails nor its regions and
seeds.  They only let writes reach more procedures: whatever an audit found
about a region, it still finds, with at least the same fields. -/
theorem added_calls_only_widen_findings (program extended : Program)
    (accepted : program.Accepted) (extendedAccepted : extended.Accepted)
    (adds : program.AddsCalls extended) (signal : StopSignal)
    (silent : signal.Silent) :
    (∀ error, extended.audit extended.callGraph signal = .error error ↔
      program.audit program.callGraph signal = .error error) ∧
    (extended.scope.staticFields = program.scope.staticFields ∧
      extended.scope.globals = program.scope.globals ∧
      extended.scope.regions = program.scope.regions ∧
      extended.scope.seed = program.scope.seed) ∧
    ∀ outcome, program.audit program.callGraph signal = .ok outcome →
      ∃ wider, extended.audit extended.callGraph signal = .ok wider ∧
        (∀ reach, outcome.reach = some reach →
          ∃ widerReach, wider.reach = some widerReach ∧
            ∀ id, ∀ place ∈ reach.writes id, place ∈ widerReach.writes id) ∧
        ∀ region finding, outcome.Finds program.callGraph region finding →
          ∃ widerFinding,
            wider.Finds extended.callGraph region widerFinding ∧
              finding.Within widerFinding := by
  have same := adds.sameAudited
  have coarsens := same.coarsens fun _ _ _ => adds.callsAt
  have exposed := same.hasExposedRegion_iff accepted extendedAccepted
  have seeds := same.seed_eq accepted extendedAccepted
  have errors : ∀ error,
      extended.audit extended.callGraph signal = .error error ↔
        program.audit program.callGraph signal = .error error := by
    intro error
    rw [extendedAccepted.audit_eq_error_iff silent,
      accepted.audit_eq_error_iff silent, exposed, seeds]
  refine ⟨errors, ⟨same.staticFields_eq,
    same.globals_eq accepted extendedAccepted,
    same.regions_eq accepted extendedAccepted, seeds⟩, ?_⟩
  intro outcome success
  cases ended : extended.audit extended.callGraph signal with
  | error error => cases ((errors error).mp ended).symm.trans success
  | ok wider =>
      refine ⟨wider, rfl, ?_, ?_⟩
      · intro reach reached
        exact coarsens.reach_grows accepted extendedAccepted exposed.mpr success
          ended reached
      · intro region finding finds
        exact coarsens.finds accepted extendedAccepted success ended finds

/-- The counter with a block and a method that do not call each other yet. -/
def detachedCounter : Program :=
  { mutualCounter with
    procedures := mutualCounter.procedures.map ({ · with calls := [] }) }

theorem detachedCounter_addsCalls :
    detachedCounter.AddsCalls mutualCounter where
  classes := rfl
  statics := fun _ _ _ => rfl
  locals := fun _ _ => rfl
  procedures := by
    refine .cons ⟨rfl, ?_⟩ (.cons ⟨rfl, ?_⟩ .nil)
    · intro call listed
      cases listed
    · intro call listed
      cases listed

theorem detachedCounter_widened :
    detachedCounter.Accepted ∧ mutualCounter.Accepted ∧
      detachedCounter.AddsCalls mutualCounter ∧ StopSignal.Silent {} ∧
      ∃ outcome wider finding widerFinding,
        detachedCounter.audit detachedCounter.callGraph {} = .ok outcome ∧
        mutualCounter.audit mutualCounter.callGraph {} = .ok wider ∧
        outcome.Finds detachedCounter.callGraph (.method 1) finding ∧
        wider.Finds mutualCounter.callGraph (.method 1) widerFinding ∧
        finding.Within widerFinding := by
  have accepted : detachedCounter.Accepted := by decide +kernel
  have mutualAccepted : mutualCounter.Accepted := by decide +kernel
  obtain ⟨_, _, widens⟩ := added_calls_only_widen_findings detachedCounter
    mutualCounter accepted mutualAccepted detachedCounter_addsCalls {}
    StopSignal.silent_default
  have computed : (detachedCounter.audit detachedCounter.callGraph {}).map
      (fun outcome => decide (outcome.Finds detachedCounter.callGraph
        (.method 1) ⟨"LCK06J", .method,
          ⟨"Counter", "Counter", "store", "()V", none, none⟩,
          .ofList ["Counter.total"]⟩)) = .ok true := by decide +kernel
  obtain ⟨outcome, success, finds⟩ := map_eq_ok_iff.mp computed
  obtain ⟨wider, widerSuccess, _, widerFinds⟩ := widens outcome success
  have found := of_decide_eq_true finds
  obtain ⟨widerFinding, widerFound, within⟩ := widerFinds _ _ found
  exact ⟨accepted, mutualAccepted, detachedCounter_addsCalls,
    StopSignal.silent_default, outcome, wider, _, widerFinding, success,
    widerSuccess, found, widerFound, within⟩

/-- The programs are the same, but the values of the second one may hold more.
A value of which nothing was known stays unknown. -/
structure BlursAliases (program blurred : Program) : Prop
    extends SameDeclarations program blurred where
  procedures : blurred.procedures = program.procedures
  grows : ∀ id value, ∀ object ∈ program.pointsToLocal id value,
    object ∈ blurred.pointsToLocal id value
  unknown : ∀ id value, (program.pointsToLocal id value).isEmpty = true →
    (blurred.pointsToLocal id value).isEmpty = true

section Aliases

variable {program blurred : Program} (blurs : program.BlursAliases blurred)

include blurs

theorem BlursAliases.procedure?_eq (id : ProcedureId) :
    blurred.procedure? id = program.procedure? id := by
  rw [procedure?, blurs.procedures, ← procedure?]

theorem BlursAliases.localMayHold {id : ProcedureId} {value : ValueNumber}
    {object : InstanceKey} (held : program.LocalMayHold id value object) :
    blurred.LocalMayHold id value object := by
  rw [← mem_pointsToLocal] at held ⊢
  exact blurs.grows id value object held

/-- A lock that is still trusted was trusted before: something was known of it,
and what it might hold was global. -/
theorem BlursAliases.trusts {id : ProcedureId} {value : ValueNumber}
    (trusts : blurred.Trusts id value) : program.Trusts id value := by
  obtain ⟨⟨object, held⟩, allGlobal⟩ := trusts
  constructor
  · apply Classical.byContradiction
    intro nothing
    have empty : (program.pointsToLocal id value).isEmpty = true := by
      apply SortedSet.isEmpty_iff.mpr
      intro item member
      exact nothing ⟨item, mem_pointsToLocal.mp member⟩
    have stillEmpty := blurs.unknown id value empty
    exact SortedSet.isEmpty_iff.mp stillEmpty object
      (mem_pointsToLocal.mpr held)
  · intro item heldBefore
    have global := allGlobal item (blurs.localMayHold heldBefore)
    exact blurs.sameLookups.global_iff.mp global

theorem BlursAliases.resembles (id : ProcedureId) (procedure : Procedure) :
    program.Resembles blurred id procedure procedure where
  heading := .refl procedure
  isStatic := rfl
  isSynchronized := rfl
  held := fun _ _ => blurs.localMayHold
  trusted := fun _ => blurs.trusts

theorem BlursAliases.coarsens : program.Coarsens blurred where
  toSameLookups := blurs.sameLookups
  calls := by
    intro caller site callee calls
    obtain ⟨procedure, found, called⟩ := calls
    exact ⟨procedure, (blurs.procedure?_eq caller).trans found, called⟩
  procedures := by
    intro id procedure found _
    exact ⟨procedure, (blurs.procedure?_eq id).trans found,
      blurs.resembles id procedure,
      fun _ => .refl program blurred id procedure.code⟩

theorem BlursAliases.mem_blocks (accepted : program.Accepted)
    (blurredAccepted : blurred.Accepted) {block : Block}
    {left right : Procedure}
    (found : program.procedure? block.enter.procedure = some left)
    (blurredFound : blurred.procedure? block.enter.procedure = some right)
    (resembles : program.Resembles blurred block.enter.procedure left right)
    (relaxes :
      program.RelaxesCode blurred block.enter.procedure left.code right.code)
    (listed : block ∈ program.scope.regions.blocks) :
    block ∈ blurred.scope.regions.blocks :=
  blurs.sameLookups.mem_blocks accepted blurredAccepted found blurredFound
    resembles relaxes listed

theorem BlursAliases.hasExposedRegion (region : program.HasExposedRegion) :
    blurred.HasExposedRegion := by
  apply blurs.coarsens.hasExposedRegion ?_ region
  intro id procedure other found otherFound
  rw [blurs.procedure?_eq, found] at otherFound
  cases otherFound
  exact .refl program blurred id procedure.code

end Aliases

/-- Where aliases are blurred and both audits succeed, exposed regions stay
exposed, writes reach as far as before, and whatever was found about a region
is still found, with at least the same fields. -/
theorem blurred_aliases_lose_no_finding (program blurred : Program)
    (accepted : program.Accepted) (blurredAccepted : blurred.Accepted)
    (blurs : program.BlursAliases blurred) (signal : StopSignal)
    (outcome wider : Audit)
    (success : program.audit program.callGraph signal = .ok outcome)
    (blurredSuccess : blurred.audit blurred.callGraph signal = .ok wider) :
    (∀ block ∈ outcome.regions.blocks, block ∈ wider.regions.blocks) ∧
    (∀ id ∈ outcome.regions.methods, id ∈ wider.regions.methods) ∧
    (∀ reach, outcome.reach = some reach →
      ∃ widerReach, wider.reach = some widerReach ∧
        ∀ id, ∀ place ∈ reach.writes id, place ∈ widerReach.writes id) ∧
    ∀ region finding, outcome.Finds program.callGraph region finding →
      ∃ widerFinding, wider.Finds blurred.callGraph region widerFinding ∧
        finding.Within widerFinding := by
  have concludes := accepted.concludes success
  have blurredConcludes := blurredAccepted.concludes blurredSuccess
  rw [concludes.regions, blurredConcludes.regions]
  refine ⟨?_, ?_, ?_, ?_⟩
  · intro block listed
    obtain ⟨procedure, _, exposed, _⟩ := accepted.mem_blocks_regions.mp listed
    have blurredFound := (blurs.procedure?_eq _).trans exposed.found
    exact blurs.mem_blocks accepted blurredAccepted exposed.found blurredFound
      (blurs.resembles _ procedure) (.refl program blurred _ procedure.code)
      listed
  · intro id listed
    obtain ⟨procedure, exposed⟩ := accepted.mem_methods_regions.mp listed
    obtain ⟨other, otherExposed, _⟩ := blurs.coarsens.exposedMethod exposed
    exact blurredAccepted.mem_methods_regions.mpr ⟨other, otherExposed⟩
  · intro reach reached
    exact blurs.coarsens.reach_grows accepted blurredAccepted
      blurs.hasExposedRegion success blurredSuccess reached
  · intro region finding finds
    exact blurs.coarsens.finds accepted blurredAccepted success blurredSuccess
      finds

/-- A block on an object that is not global, and a method that it calls, whose
receiver is the object in `guard`. -/
def aliasedCounter : Program where
  classes :=
    [{ name := "Counter"
       fields :=
        [{ name := "total", isStatic := true },
          { name := "last", isStatic := true },
          { name := "guard", isStatic := true }] }]
  procedures :=
    [{ className := "Counter"
       name := "add"
       descriptor := "()V"
       body := some
        [⟨some 3, .monitorEnter 2⟩,
          ⟨none, .fieldWrite ⟨"Counter", "total"⟩ none⟩,
          ⟨none, .invoke 0⟩, ⟨none, .monitorExit 2⟩]
       calls := [⟨0, [1]⟩] },
     { className := "Counter"
       name := "store"
       descriptor := "()V"
       isSynchronized := true
       body := some [⟨none, .fieldWrite ⟨"Counter", "last"⟩ none⟩] }]
  localPointsTo := [⟨0, 2, [5]⟩, ⟨1, 1, [1]⟩]
  staticPointsTo := [⟨"Counter", "guard", [1]⟩]

/-- The receiver may be another object as well. -/
def blurredCounter : Program :=
  { aliasedCounter with
    localPointsTo := ⟨1, 1, [5]⟩ :: aliasedCounter.localPointsTo }

theorem aliasedCounter_blursAliases :
    aliasedCounter.BlursAliases blurredCounter where
  classes := rfl
  statics := fun _ _ _ => rfl
  procedures := rfl
  grows := by
    intro id value object member
    rw [mem_pointsToLocal] at member ⊢
    obtain ⟨entry, listed, held⟩ := member
    exact ⟨entry, List.mem_cons_of_mem _ listed, held⟩
  unknown := by
    intro id value empty
    simp only [SortedSet.isEmpty_iff, mem_pointsToLocal] at empty ⊢
    intro object held
    obtain ⟨entry, listed, ⟨sameId, sameValue⟩, member⟩ := held
    rcases List.mem_cons.mp listed with added | old
    · subst added
      subst sameId
      subst sameValue
      exact empty 1 ⟨⟨1, 1, [1]⟩, by simp [aliasedCounter], ⟨rfl, rfl⟩, by simp⟩
    · exact empty object ⟨entry, old, ⟨sameId, sameValue⟩, member⟩

theorem aliasedCounter_widened :
    aliasedCounter.Accepted ∧ blurredCounter.Accepted ∧
      aliasedCounter.BlursAliases blurredCounter ∧
      ∃ outcome wider finding widerFinding,
        aliasedCounter.audit aliasedCounter.callGraph {} = .ok outcome ∧
        blurredCounter.audit blurredCounter.callGraph {} = .ok wider ∧
        outcome.Finds aliasedCounter.callGraph (.block ⟨⟨0, 0⟩, 3⟩) finding ∧
        wider.Finds blurredCounter.callGraph (.block ⟨⟨0, 0⟩, 3⟩)
          widerFinding ∧
        finding.Within widerFinding := by
  have accepted : aliasedCounter.Accepted := by decide +kernel
  have blurredAccepted : blurredCounter.Accepted := by decide +kernel
  have computed : (aliasedCounter.audit aliasedCounter.callGraph {}).map
      (fun outcome => decide (outcome.Finds aliasedCounter.callGraph
        (.block ⟨⟨0, 0⟩, 3⟩) ⟨"LCK06J", .block,
          ⟨"Counter", "Counter", "add", "()V", none, some 3⟩,
          .ofList ["Counter.total"]⟩)) = .ok true := by decide +kernel
  have blurredComputed :
      (blurredCounter.audit blurredCounter.callGraph {}).map
        (fun _ => ()) = .ok () := by decide +kernel
  obtain ⟨outcome, success, finds⟩ := map_eq_ok_iff.mp computed
  obtain ⟨wider, blurredSuccess, _⟩ := map_eq_ok_iff.mp blurredComputed
  obtain ⟨_, _, _, kept⟩ := blurred_aliases_lose_no_finding aliasedCounter
    blurredCounter accepted blurredAccepted aliasedCounter_blursAliases {}
    outcome wider success blurredSuccess
  have found := of_decide_eq_true finds
  obtain ⟨widerFinding, widerFound, within⟩ := kept _ _ found
  exact ⟨accepted, blurredAccepted, aliasedCounter_blursAliases, outcome,
    wider, _, widerFinding, success, blurredSuccess, found, widerFound, within⟩

end Program

end LockAudit
