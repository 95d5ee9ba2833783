import LockAudit.Proofs.CoarserPrograms

/-!
# Audited code

Regions and seeds depend on audited code alone.  Programs with the same audited
code have the same regions and the same seeds, numbers and errors included,
whatever their procedures call and whatever the platform does.
-/

namespace LockAudit

/-- Each procedure goes on with the numbers that the earlier ones have given. -/
theorem Scope.seedFrom_congr {scope other : Scope}
    {procedures others : List Procedure} (id : ProcedureId)
    (sameLength : others.length = procedures.length)
    (each : ∀ offset procedure otherProcedure,
      procedures[offset]? = some procedure →
      others[offset]? = some otherProcedure →
      ∀ numbering,
        other.seedProcedure numbering (id + offset) otherProcedure =
          scope.seedProcedure numbering (id + offset) procedure)
    (numbering : Numbering InstructionRef) :
    other.seedFrom numbering id others =
      scope.seedFrom numbering id procedures := by
  induction procedures generalizing id others numbering with
  | nil =>
      cases List.eq_nil_of_length_eq_zero sameLength
      rfl
  | cons procedure rest induction =>
      cases others with
      | nil => cases sameLength
      | cons otherProcedure otherRest =>
          have here := each 0 procedure otherProcedure rfl rfl
          have later : ∀ numbering,
              other.seedFrom numbering (id + 1) otherRest =
                scope.seedFrom numbering (id + 1) rest := by
            apply induction (id + 1) (Nat.succ.inj sameLength)
            intro offset next otherNext found otherFound
            rw [Nat.add_right_comm, Nat.add_assoc]
            exact each (offset + 1) next otherNext found otherFound
          rw [Nat.add_zero] at here
          simp only [Scope.seedFrom, here, later]

namespace Program

/-- The procedures have the same heading and are synchronized alike, and their
values may hold the same objects. -/
structure SameLocks (left right : Program) (id : ProcedureId)
    (leftProcedure rightProcedure : Procedure) : Prop where
  heading : leftProcedure.SameHeading rightProcedure
  isStatic : rightProcedure.isStatic = leftProcedure.isStatic
  isSynchronized :
    rightProcedure.isSynchronized = leftProcedure.isSynchronized
  locals : ∀ value, right.pointsToLocal id value = left.pointsToLocal id value

structure SameCode (left right : Program) (id : ProcedureId)
    (leftProcedure rightProcedure : Procedure) : Prop
    extends SameLocks left right id leftProcedure rightProcedure where
  body : rightProcedure.body = leftProcedure.body

/-- The programs find the same classes, and the procedures of audited classes
have the same code. -/
structure SameAudited (left right : Program) : Prop
    extends SameLookups left right where
  count : right.procedures.length = left.procedures.length
  className : ∀ id leftProcedure rightProcedure,
    left.procedure? id = some leftProcedure →
    right.procedure? id = some rightProcedure →
    rightProcedure.className = leftProcedure.className
  code : ∀ id leftProcedure rightProcedure,
    left.procedure? id = some leftProcedure →
    right.procedure? id = some rightProcedure →
    ¬left.OfPlatform leftProcedure.className →
    left.SameCode right id leftProcedure rightProcedure

section Procedures

variable {left right : Program} {id : ProcedureId}
  {leftProcedure rightProcedure : Procedure}

theorem SameLocks.symm
    (same : left.SameLocks right id leftProcedure rightProcedure) :
    right.SameLocks left id rightProcedure leftProcedure where
  heading := same.heading.symm
  isStatic := same.isStatic.symm
  isSynchronized := same.isSynchronized.symm
  locals := fun value => (same.locals value).symm

theorem SameCode.symm
    (same : left.SameCode right id leftProcedure rightProcedure) :
    right.SameCode left id rightProcedure leftProcedure where
  toSameLocks := same.toSameLocks.symm
  body := same.body.symm

theorem SameCode.code_eq
    (same : left.SameCode right id leftProcedure rightProcedure) :
    rightProcedure.code = leftProcedure.code := by
  rw [Procedure.code, same.body, ← Procedure.code]

theorem SameCode.relaxesCode
    (same : left.SameCode right id leftProcedure rightProcedure) :
    left.RelaxesCode right id leftProcedure.code rightProcedure.code := by
  rw [same.code_eq]
  exact .refl left right id leftProcedure.code

theorem SameLocks.localMayHold_iff
    (same : left.SameLocks right id leftProcedure rightProcedure)
    {value : ValueNumber} {object : InstanceKey} :
    right.LocalMayHold id value object ↔ left.LocalMayHold id value object := by
  rw [← mem_pointsToLocal, same.locals, mem_pointsToLocal]

theorem SameLookups.trusts_iff (declared : left.SameLookups right)
    (same : left.SameLocks right id leftProcedure rightProcedure)
    {value : ValueNumber} : right.Trusts id value ↔ left.Trusts id value := by
  simp only [Trusts, same.localMayHold_iff, declared.global_iff]

theorem SameLookups.resembles (declared : left.SameLookups right)
    (same : left.SameLocks right id leftProcedure rightProcedure) :
    left.Resembles right id leftProcedure rightProcedure where
  heading := same.heading
  isStatic := same.isStatic
  isSynchronized := same.isSynchronized
  held := fun _ _ => same.localMayHold_iff.mpr
  trusted := fun _ => (declared.trusts_iff same).mp

theorem SameLookups.guarded_iff (declared : left.SameLookups right)
    (same : left.SameLocks right id leftProcedure rightProcedure) :
    right.Guarded id rightProcedure ↔ left.Guarded id leftProcedure :=
  ⟨(declared.resembles same).guarded,
    (declared.symm.resembles same.symm).guarded⟩

end Procedures

section Programs

variable {left right : Program}

theorem exists_procedure_of_count
    (count : right.procedures.length = left.procedures.length)
    {id : ProcedureId} {leftProcedure : Procedure}
    (found : left.procedure? id = some leftProcedure) :
    ∃ rightProcedure, right.procedure? id = some rightProcedure := by
  have inRange := (List.getElem?_eq_some_iff.mp found).1
  rw [← count] at inRange
  exact ⟨_, List.getElem?_eq_getElem inRange⟩

theorem SameAudited.symm (same : left.SameAudited right) :
    right.SameAudited left where
  toSameLookups := same.toSameLookups.symm
  count := same.count.symm
  className := by
    intro id rightProcedure leftProcedure rightFound leftFound
    exact (same.className id _ _ leftFound rightFound).symm
  code := by
    intro id rightProcedure leftProcedure rightFound leftFound audited
    rw [same.className id _ _ leftFound rightFound,
      same.ofPlatform_iff] at audited
    exact (same.code id _ _ leftFound rightFound audited).symm

/-- Of two programs with the same audited code, the one that calls more is
coarser. -/
theorem SameAudited.coarsens (same : left.SameAudited right)
    (calls : ∀ caller site callee, left.CallsAt caller site callee →
      right.CallsAt caller site callee) :
    left.Coarsens right where
  toSameLookups := same.toSameLookups
  calls := calls
  procedures := by
    intro id leftProcedure found audited
    obtain ⟨rightProcedure, rightFound⟩ :=
      exists_procedure_of_count same.count found
    have sameCode := same.code id _ _ found rightFound audited
    exact ⟨rightProcedure, rightFound, same.resembles sameCode.toSameLocks,
      fun _ => sameCode.relaxesCode⟩

theorem SameAudited.blocks_subset (same : left.SameAudited right)
    (accepted : left.Accepted) (rightAccepted : right.Accepted) :
    left.scope.regions.blocks ⊆ right.scope.regions.blocks := by
  intro block listed
  obtain ⟨leftProcedure, _, exposed, _⟩ :=
    accepted.mem_blocks_regions.mp listed
  obtain ⟨rightProcedure, found⟩ :=
    exists_procedure_of_count same.count exposed.found
  have sameCode := same.code _ _ _ exposed.found found exposed.audited
  exact same.mem_blocks accepted rightAccepted exposed.found found
    (same.resembles sameCode.toSameLocks) sameCode.relaxesCode listed

theorem SameAudited.methods_subset (same : left.SameAudited right)
    (accepted : left.Accepted) (rightAccepted : right.Accepted) :
    left.scope.regions.methods ⊆ right.scope.regions.methods := by
  intro id listed
  obtain ⟨leftProcedure, exposed⟩ := accepted.mem_methods_regions.mp listed
  obtain ⟨rightProcedure, found⟩ :=
    exists_procedure_of_count same.count exposed.found
  have sameCode := same.code _ _ _ exposed.found found exposed.audited
  exact rightAccepted.mem_methods_regions.mpr ⟨rightProcedure,
    same.exposedMethod found (same.resembles sameCode.toSameLocks) exposed⟩

theorem SameAudited.regions_eq (same : left.SameAudited right)
    (accepted : left.Accepted) (rightAccepted : right.Accepted) :
    right.scope.regions = left.scope.regions := by
  have blocks : right.scope.regions.blocks = left.scope.regions.blocks := by
    apply eq_of_increasing
      (List.pairwise_map.mp right.blocks_regions_increasing)
      (List.pairwise_map.mp left.blocks_regions_increasing)
    · exact same.symm.blocks_subset rightAccepted accepted
    · exact same.blocks_subset accepted rightAccepted
  have methods : right.scope.regions.methods = left.scope.regions.methods := by
    apply eq_of_increasing right.methods_regions_increasing
      left.methods_regions_increasing
    · exact same.symm.methods_subset rightAccepted accepted
    · exact same.methods_subset accepted rightAccepted
  calc
    right.scope.regions =
        ⟨right.scope.regions.blocks, right.scope.regions.methods⟩ := rfl
    _ = left.scope.regions := by rw [blocks, methods]

theorem SameAudited.hasExposedRegion_iff (same : left.SameAudited right)
    (accepted : left.Accepted) (rightAccepted : right.Accepted) :
    right.HasExposedRegion ↔ left.HasExposedRegion := by
  rw [← not_iff_not, ← rightAccepted.isEmpty_regions_iff,
    ← accepted.isEmpty_regions_iff, same.regions_eq accepted rightAccepted]

theorem SameLookups.staticFields_eq (same : left.SameLookups right) :
    right.scope.staticFields = left.scope.staticFields := by
  have found : right.class? = left.class? := funext same.lookup
  have names : SortedSet.ofList (right.classes.map (·.name)) =
      SortedSet.ofList (left.classes.map (·.name)) := by
    apply SortedSet.ext
    intro name
    simp only [SortedSet.mem_ofList, List.mem_map, same.classes.mem_iff]
  simp only [scope, staticFields, sortedClasses, names, found]

theorem SameLookups.globals_eq (same : left.SameLookups right)
    (accepted : left.Accepted) (rightAccepted : right.Accepted) :
    right.scope.globals = left.scope.globals := by
  apply SortedSet.ext
  intro object
  rw [rightAccepted.mem_globals, accepted.mem_globals, same.global_iff]

section Seeding

variable {id : ProcedureId} {leftProcedure rightProcedure : Procedure}
  (declared : left.SameLookups right)
  (same : left.SameCode right id leftProcedure rightProcedure)
  (accepted : left.Accepted) (rightAccepted : right.Accepted)

include declared same accepted rightAccepted

theorem SameCode.trustedBlocks_eq :
    right.scope.trustedBlocks id rightProcedure =
      left.scope.trustedBlocks id leftProcedure := by
  have trusts : right.scope.trustsLock id = left.scope.trustsLock id := by
    funext lock
    rw [Bool.eq_iff_iff, rightAccepted.trustsLock_iff, accepted.trustsLock_iff,
      declared.trusts_iff same.toSameLocks]
  simp only [Scope.trustedBlocks, Procedure.blocks, same.code_eq, trusts]

theorem SameCode.isSeeded_eq :
    right.scope.isSeeded id rightProcedure =
      left.scope.isSeeded id leftProcedure := by
  rw [Bool.eq_iff_iff, rightAccepted.isSeeded_iff, accepted.isSeeded_iff,
    same.heading.className, declared.ofPlatform_iff,
    declared.guarded_iff same.toSameLocks]

theorem SameCode.isSharedWrite_eq (operation : Operation) :
    right.scope.isSharedWrite id rightProcedure operation =
      left.scope.isSharedWrite id leftProcedure operation := by
  cases operation with
  | fieldWrite field receiver =>
      have target : right.scope.program.writeTarget rightProcedure field
          receiver = left.scope.program.writeTarget leftProcedure field
          receiver := by
        simp only [scope, writeTarget, declared.resolveField_eq,
          same.heading.signature_eq]
      have ignored : ∀ name, right.scope.program.isIgnoredClass name =
          left.scope.program.isIgnoredClass name := by
        intro name
        simp only [scope, isIgnoredClass, declared.lookup]
      have held : ∀ value, right.scope.program.pointsToLocal id value =
          left.scope.program.pointsToLocal id value := same.locals
      simp only [Scope.isSharedWrite, target, ignored, held,
        declared.globals_eq accepted rightAccepted]
  | _ => rfl

theorem SameCode.unguardedWritesFrom_eq (guards : List Block) (index : Nat)
    (code : List Instruction) :
    right.scope.unguardedWritesFrom id rightProcedure guards index code =
      left.scope.unguardedWritesFrom id leftProcedure guards index code := by
  induction code generalizing index with
  | nil => rfl
  | cons instruction rest induction =>
      simp only [Scope.unguardedWritesFrom, induction,
        same.isSharedWrite_eq declared accepted rightAccepted]

theorem SameCode.seedProcedure_eq (numbering : Numbering InstructionRef) :
    right.scope.seedProcedure numbering id rightProcedure =
      left.scope.seedProcedure numbering id leftProcedure := by
  simp only [Scope.seedProcedure, Scope.unguardedWrites, same.code_eq,
    same.isSeeded_eq declared accepted rightAccepted,
    same.trustedBlocks_eq declared accepted rightAccepted,
    same.unguardedWritesFrom_eq declared accepted rightAccepted]

end Seeding

/-- Procedures of the platform are passed over, whatever their code. -/
theorem SameAudited.seedProcedure_eq (same : left.SameAudited right)
    (accepted : left.Accepted) (rightAccepted : right.Accepted)
    {id : ProcedureId} {leftProcedure rightProcedure : Procedure}
    (found : left.procedure? id = some leftProcedure)
    (rightFound : right.procedure? id = some rightProcedure)
    (numbering : Numbering InstructionRef) :
    right.scope.seedProcedure numbering id rightProcedure =
      left.scope.seedProcedure numbering id leftProcedure := by
  by_cases platform : left.OfPlatform leftProcedure.className
  · have passed : left.scope.isSeeded id leftProcedure = false := by
      rw [Bool.eq_false_iff, Ne, accepted.isSeeded_iff]
      exact fun seeded => seeded.1 platform
    have rightPassed : right.scope.isSeeded id rightProcedure = false := by
      rw [Bool.eq_false_iff, Ne, rightAccepted.isSeeded_iff,
        same.className id _ _ found rightFound, same.ofPlatform_iff]
      exact fun seeded => seeded.1 platform
    simp only [Scope.seedProcedure, passed, rightPassed, Bool.false_eq_true,
      if_false]
  · exact (same.code id _ _ found rightFound platform).seedProcedure_eq
      same.toSameLookups accepted rightAccepted numbering

/-- Seeding gives the same numbers, facts and errors. -/
theorem SameAudited.seed_eq (same : left.SameAudited right)
    (accepted : left.Accepted) (rightAccepted : right.Accepted) :
    right.scope.seed = left.scope.seed := by
  apply Scope.seedFrom_congr 0 same.count
  intro offset leftProcedure rightProcedure found rightFound numbering
  rw [Nat.zero_add]
  exact same.seedProcedure_eq accepted rightAccepted found rightFound numbering

end Programs

end Program

end LockAudit
