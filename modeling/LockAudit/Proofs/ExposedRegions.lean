import LockAudit.Proofs.TrustedLocks
import Mathlib.Data.List.Sort

/-!
# Exposed regions

The regions that an audit looks at, and their order: by the instructions at
which blocks start, and by procedure.  A block ends in its procedure, and not
before it starts.
-/

namespace LockAudit

/-- The instruction comes earlier in the program. -/
def InstructionRef.Before (left right : InstructionRef) : Prop :=
  left.procedure < right.procedure ∨
    left.procedure = right.procedure ∧ left.index < right.index

theorem InstructionRef.eq_of_not_before {left right : InstructionRef}
    (notBefore : ¬left.Before right) (notAfter : ¬right.Before left) :
    left = right := by
  obtain ⟨procedure, index⟩ := left
  obtain ⟨otherProcedure, otherIndex⟩ := right
  rcases Nat.lt_trichotomy procedure otherProcedure with less | same | greater
  · exact (notBefore (.inl less)).elim
  · subst same
    rcases Nat.lt_trichotomy index otherIndex with less | same | greater
    · exact (notBefore (.inr ⟨rfl, less⟩)).elim
    · rw [same]
    · exact (notAfter (.inr ⟨rfl, greater⟩)).elim
  · exact (notAfter (.inl greater)).elim

theorem InstructionRef.compare_eq_lt_iff {left right : InstructionRef} :
    compare left right = .lt ↔ left.Before right := by
  change (compare left.procedure right.procedure).then
    (compare left.index right.index) = .lt ↔ _
  rw [Ordering.then_eq_lt, Nat.compare_eq_lt, Nat.compare_eq_eq,
    Nat.compare_eq_lt]
  rfl

theorem zipIdx_increasing (items : List α) :
    items.zipIdx.Pairwise fun left right => left.2 < right.2 := by
  have indices : (items.zipIdx.map Prod.snd).Pairwise (· < ·) := by
    rw [List.zipIdx_map_snd]
    exact List.pairwise_lt_range'
  exact List.pairwise_map.mp indices

/-- What is made from numbered items in order comes in the order of the
numbers. -/
theorem filterMap_increasing {numbered : List (α × Nat)}
    (increasing : numbered.Pairwise fun left right => left.2 < right.2)
    {make : α × Nat → Option β} {number : β → Nat}
    (kept : ∀ item made, make item = some made → number made = item.2) :
    (numbered.filterMap make).Pairwise fun left right =>
      number left < number right := by
  rw [List.pairwise_filterMap]
  apply increasing.imp
  intro left right before first firstMade second secondMade
  rw [kept left first firstMade, kept right second secondMade]
  exact before

/-- Items whose keys increase are determined by their set. -/
theorem eq_of_increasing {β : Type} [Ord β] [Std.TransOrd β] {key : α → β}
    {left right : List α}
    (leftIncreasing : left.Pairwise fun first second =>
      compare (key first) (key second) = .lt)
    (rightIncreasing : right.Pairwise fun first second =>
      compare (key first) (key second) = .lt)
    (forth : left ⊆ right) (back : right ⊆ left) : left = right := by
  have irreflexive : Std.Irrefl fun first second : α =>
      compare (key first) (key second) = .lt := by
    constructor
    intro item less
    simp [Std.ReflCmp.compare_self] at less
  have antisymmetric : Std.Antisymm fun first second : α =>
      compare (key first) (key second) = .lt := by
    constructor
    intro first second less greater
    have smaller := Std.TransCmp.lt_trans less greater
    simp [Std.ReflCmp.compare_self] at smaller
  exact List.Subset.antisymm_of_pairwise leftIncreasing rightIncreasing forth
    back

theorem closingExit?_bounds {depth index exit : Nat} {code : List Instruction}
    (closed : closingExit? depth index code = some exit) :
    index ≤ exit ∧ exit < index + code.length := by
  induction code generalizing depth index with
  | nil => cases closed
  | cons instruction rest induction =>
      rw [List.length_cons]
      unfold closingExit? at closed
      split at closed
      · have later := induction closed
        omega
      · split at closed
        · cases closed
          omega
        · have later := induction closed
          omega
      · have later := induction closed
        omega

theorem matchingExit_bounds {code : List Instruction} {enter : Nat}
    (inRange : enter < code.length) :
    enter ≤ matchingExit code enter ∧
      matchingExit code enter < code.length := by
  unfold matchingExit
  cases closed : closingExit? 0 enter (code.drop enter) with
  | none =>
      simp only [Option.getD_none]
      omega
  | some exit =>
      have bounds := closingExit?_bounds closed
      rw [List.length_drop] at bounds
      simp only [Option.getD_some]
      omega

/-- The items at the indices of a block, with these indices. -/
def Block.window (block : Block) (items : List α) : List (α × Nat) :=
  (items.zipIdx.drop block.enter.index).take
    (block.last - block.enter.index + 1)

theorem Block.mem_window {block : Block}
    (ordered : block.enter.index ≤ block.last) {items : List α} {item : α}
    {index : Nat} :
    (item, index) ∈ block.window items ↔
      items[index]? = some item ∧
        block.enter.index ≤ index ∧ index ≤ block.last := by
  simp only [Block.window, List.mem_iff_getElem?, List.getElem?_take,
    List.getElem?_drop, List.getElem?_zipIdx, Nat.zero_add]
  constructor
  · intro member
    obtain ⟨offset, found⟩ := member
    split at found
    · next inside =>
        obtain ⟨other, listed, made⟩ := Option.map_eq_some_iff.mp found
        cases made
        exact ⟨listed, by omega, by omega⟩
    · cases found
  · intro inside
    obtain ⟨listed, after, before⟩ := inside
    refine ⟨index - block.enter.index, ?_⟩
    have inside :
        index - block.enter.index < block.last - block.enter.index + 1 := by
      omega
    have place :
        block.enter.index + (index - block.enter.index) = index := by omega
    simp [inside, place, listed]

/-- The window of a block has the items whose indices lie in it, and no
others. -/
theorem Block.window_eq_filter {block : Block}
    (ordered : block.enter.index ≤ block.last) (items : List α) :
    block.window items = items.zipIdx.filter fun numbered =>
      block.contains ⟨block.procedure, numbered.2⟩ := by
  have increasing : items.zipIdx.Pairwise fun left right =>
      compare left.2 right.2 = .lt :=
    (zipIdx_increasing items).imp Nat.compare_eq_lt.mpr
  have members : ∀ numbered, numbered ∈ block.window items ↔
      numbered ∈ items.zipIdx.filter fun numbered =>
        block.contains ⟨block.procedure, numbered.2⟩ := by
    rintro ⟨item, index⟩
    rw [Block.mem_window ordered, List.mem_filter,
      List.mem_zipIdx_iff_getElem?, Block.contains_iff]
    simp [Block.procedure]
  have part : (block.window items).Sublist items.zipIdx :=
    (List.take_sublist _ _).trans (List.drop_sublist _ _)
  exact eq_of_increasing (increasing.sublist part)
    (increasing.sublist List.filter_sublist)
    (fun _ => (members _).mp) (fun _ => (members _).mpr)

theorem Procedure.blocks_increasing (procedure : Procedure)
    (id : ProcedureId) (test : ValueNumber → Bool) :
    (procedure.blocks id test).Pairwise fun left right =>
      left.enter.index < right.enter.index := by
  apply filterMap_increasing (zipIdx_increasing procedure.code)
  intro numbered block made
  obtain ⟨instruction, index⟩ := numbered
  dsimp only at made
  split at made
  · split at made
    · cases made
      rfl
    · cases made
  · cases made

namespace Program

/-- A synchronized block of an audited procedure holds a lock that is not
trusted. -/
structure ExposedBlock (program : Program) (enter : InstructionRef)
    (procedure : Procedure) (lock : ValueNumber) : Prop where
  found : program.procedure? enter.procedure = some procedure
  audited : ¬program.OfPlatform procedure.className
  entered : procedure.operation? enter.index = some (.monitorEnter lock)
  untrusted : ¬program.Trusts enter.procedure lock

/-- A synchronized method that is audited holds a lock that is not trusted. -/
structure ExposedMethod (program : Program) (id : ProcedureId)
    (procedure : Procedure) : Prop where
  found : program.procedure? id = some procedure
  audited : ¬program.OfPlatform procedure.className
  exposed : program.Exposed id procedure

/-- Some block or method of the program is exposed. -/
def HasExposedRegion (program : Program) : Prop :=
  (∃ enter procedure lock, program.ExposedBlock enter procedure lock) ∨
    ∃ id procedure, program.ExposedMethod id procedure

variable {program : Program}

theorem ExposedBlock.enter_le_exit {enter : InstructionRef}
    {procedure : Procedure} {lock : ValueNumber}
    (exposed : program.ExposedBlock enter procedure lock) :
    enter.index ≤ matchingExit procedure.code enter.index := by
  obtain ⟨instruction, listed, _⟩ :=
    Procedure.operation?_eq_some_iff.mp exposed.entered
  exact (matchingExit_bounds (List.getElem?_eq_some_iff.mp listed).1).1

theorem Accepted.mem_auditedProcedures (accepted : program.Accepted)
    {procedure : Procedure} {id : ProcedureId} :
    (procedure, id) ∈ program.auditedProcedures ↔
      program.procedure? id = some procedure ∧
        ¬program.OfPlatform procedure.className := by
  rw [auditedProcedures, List.mem_filter, List.mem_zipIdx_iff_getElem?,
    Bool.not_eq_true', Bool.eq_false_iff, Ne, isIgnored,
    accepted.isIgnoredClass_iff]
  rfl

theorem blocks_regions (program : Program) :
    program.scope.regions.blocks =
      program.auditedProcedures.flatMap fun numbered =>
        program.scope.exposedBlocks numbered.2 numbered.1 :=
  rfl

theorem Accepted.mem_blocks_regions (accepted : program.Accepted)
    {block : Block} :
    block ∈ program.scope.regions.blocks ↔
      ∃ procedure lock, program.ExposedBlock block.enter procedure lock ∧
        block.last = matchingExit procedure.code block.enter.index := by
  simp only [blocks_regions, List.mem_flatMap, Prod.exists,
    accepted.mem_auditedProcedures, Scope.exposedBlocks,
    Procedure.mem_blocks, Bool.not_eq_true', Bool.eq_false_iff, Ne,
    accepted.trustsLock_iff]
  constructor
  · intro member
    obtain ⟨procedure, id, ⟨found, audited⟩, enter, lock, entered, untrusted,
      same⟩ := member
    subst same
    exact ⟨procedure, lock, ⟨found, audited, entered, untrusted⟩, rfl⟩
  · intro member
    obtain ⟨procedure, lock, exposed, last⟩ := member
    refine ⟨procedure, block.procedure, ⟨exposed.found, exposed.audited⟩,
      block.enter.index, lock, exposed.entered, exposed.untrusted, ?_⟩
    rw [← last]
    rfl

/-- An exposed region starts wherever an exposed block is entered. -/
theorem Accepted.mem_enters_regions (accepted : program.Accepted)
    {enter : InstructionRef} :
    enter ∈ program.scope.regions.blocks.map Block.enter ↔
      ∃ procedure lock, program.ExposedBlock enter procedure lock := by
  simp only [List.mem_map, accepted.mem_blocks_regions]
  constructor
  · intro member
    obtain ⟨block, ⟨procedure, lock, exposed, _⟩, same⟩ := member
    exact ⟨procedure, lock, same ▸ exposed⟩
  · intro member
    obtain ⟨procedure, lock, exposed⟩ := member
    exact ⟨⟨enter, matchingExit procedure.code enter.index⟩,
      ⟨procedure, lock, exposed, rfl⟩, rfl⟩

theorem Accepted.mem_methods_regions (accepted : program.Accepted)
    {id : ProcedureId} :
    id ∈ program.scope.regions.methods ↔
      ∃ procedure, program.ExposedMethod id procedure := by
  have regions : program.scope.regions.methods =
      program.auditedProcedures.filterMap fun numbered =>
        if program.scope.isExposed numbered.2 numbered.1 then
          some numbered.2
        else none := rfl
  simp only [regions, List.mem_filterMap, Prod.exists,
    accepted.mem_auditedProcedures, accepted.isExposed_iff,
    Option.ite_none_right_eq_some, Option.some.injEq]
  constructor
  · intro member
    obtain ⟨procedure, other, ⟨found, audited⟩, exposed, same⟩ := member
    subst same
    exact ⟨procedure, found, audited, exposed⟩
  · intro member
    obtain ⟨procedure, exposed⟩ := member
    exact ⟨procedure, id, ⟨exposed.found, exposed.audited⟩, exposed.exposed,
      rfl⟩

theorem auditedProcedures_increasing (program : Program) :
    program.auditedProcedures.Pairwise fun left right => left.2 < right.2 :=
  (zipIdx_increasing program.procedures).filter _

theorem blocks_regions_increasing (program : Program) :
    Increasing (program.scope.regions.blocks.map Block.enter) := by
  simp only [Increasing, InstructionRef.compare_eq_lt_iff, List.pairwise_map]
  rw [blocks_regions, List.pairwise_flatMap]
  have started : ∀ {id procedure block},
      block ∈ program.scope.exposedBlocks id procedure →
        block.enter.procedure = id := by
    intro id procedure block member
    obtain ⟨_, _, _, _, same⟩ := Procedure.mem_blocks.mp member
    rw [same]
  constructor
  · intro numbered _
    obtain ⟨procedure, id⟩ := numbered
    apply (procedure.blocks_increasing id _).imp_of_mem
    intro left right leftMember rightMember before
    exact .inr ⟨(started leftMember).trans (started rightMember).symm, before⟩
  · apply (auditedProcedures_increasing program).imp
    intro numbered otherNumbered before left leftMember right rightMember
    obtain ⟨procedure, id⟩ := numbered
    obtain ⟨otherProcedure, otherId⟩ := otherNumbered
    have less : left.enter.procedure < right.enter.procedure := by
      rw [started leftMember, started rightMember]
      exact before
    exact .inl less

theorem methods_regions_increasing (program : Program) :
    Increasing program.scope.regions.methods := by
  have numbers : program.scope.regions.methods.Pairwise (· < ·) := by
    apply filterMap_increasing (auditedProcedures_increasing program)
    intro numbered method made
    obtain ⟨procedure, id⟩ := numbered
    exact (Option.some.inj (Option.ite_none_right_eq_some.mp made).2).symm
  simpa only [Increasing, Nat.compare_eq_lt] using numbers

theorem Accepted.isEmpty_regions_iff (accepted : program.Accepted) :
    program.scope.regions.isEmpty = true ↔ ¬program.HasExposedRegion := by
  rw [Regions.isEmpty, Bool.and_eq_true, List.isEmpty_iff, List.isEmpty_iff,
    List.eq_nil_iff_forall_not_mem, List.eq_nil_iff_forall_not_mem,
    HasExposedRegion, not_or]
  simp only [accepted.mem_blocks_regions, accepted.mem_methods_regions]
  constructor
  · intro empty
    obtain ⟨noBlocks, noMethods⟩ := empty
    constructor
    · intro exposure
      obtain ⟨enter, procedure, lock, exposed⟩ := exposure
      exact noBlocks ⟨enter, matchingExit procedure.code enter.index⟩
        ⟨procedure, lock, exposed, rfl⟩
    · intro exposure
      obtain ⟨id, exposed⟩ := exposure
      exact noMethods id exposed
  · intro unexposed
    obtain ⟨noBlock, noMethod⟩ := unexposed
    constructor
    · intro block exposure
      obtain ⟨procedure, lock, exposed, _⟩ := exposure
      exact noBlock ⟨block.enter, procedure, lock, exposed⟩
    · intro id exposed
      exact noMethod ⟨id, exposed⟩

end Program

end LockAudit
