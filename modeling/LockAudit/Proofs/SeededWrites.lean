import LockAudit.Proofs.BitVectorSets
import LockAudit.Proofs.ExposedRegions
import LockAudit.Proofs.NumberingTables
import LockAudit.Proofs.Outcomes
import LockAudit.Proofs.SharedWrites
import LockAudit.Write.Seeding

/-!
# Seeded writes

The writes from which an audit starts, and the errors with which it can end
before anything is propagated.  Both are about the instructions that no trusted
lock guards: seeding looks at these in the order of procedures and indices, and
at nothing else.
-/

namespace LockAudit

namespace Program

/-- An instruction of a procedure that is audited, with no trusted lock around
the procedure or around the instruction. -/
structure Unguarded (program : Program) (place : InstructionRef)
    (procedure : Procedure) (operation : Operation) : Prop where
  found : program.procedure? place.procedure = some procedure
  audited : ¬program.OfPlatform procedure.className
  unguarded : ¬program.Guarded place.procedure procedure
  listed : procedure.operation? place.index = some operation
  uncovered : ¬program.Covered place.procedure procedure place.index

/-- An unguarded write of global state. -/
def Seeded (program : Program) (place : InstructionRef) : Prop :=
  ∃ procedure operation, program.Unguarded place procedure operation ∧
    program.SharedWrite place.procedure operation

/-- An unguarded write whose target cannot be told. -/
def Faulty (program : Program) (place : InstructionRef)
    (error : AuditError) : Prop :=
  ∃ procedure operation, program.Unguarded place procedure operation ∧
    program.WriteFault procedure operation error

theorem Seeded.lt_length {program : Program} {place : InstructionRef}
    {procedure : Procedure} (seeded : program.Seeded place)
    (found : program.procedure? place.procedure = some procedure) :
    place.index < procedure.code.length := by
  obtain ⟨_, _, bare, _⟩ := seeded
  cases found.symm.trans bare.found
  exact Procedure.lt_of_operation? bare.listed

end Program

namespace Scope

/-- What a scan makes of one instruction. -/
def scanned (scope : Scope) (id : ProcedureId) (procedure : Procedure)
    (guards : List Block) (index : Nat) (operation : Operation) :
    Except AuditError Bool :=
  if isProtected guards ⟨id, index⟩ then .ok false
  else scope.isSharedWrite id procedure operation

section Scan

variable {scope : Scope} {id : ProcedureId} {procedure : Procedure}
  {guards : List Block} {index : Nat}

theorem unguardedWritesFrom_cons (instruction : Instruction)
    (rest : List Instruction) :
    scope.unguardedWritesFrom id procedure guards index (instruction :: rest) =
      (do
        let shared ← scope.scanned id procedure guards index
          instruction.operation
        let later ← scope.unguardedWritesFrom id procedure guards (index + 1) rest
        return if shared then ⟨id, index⟩ :: later else later) := by
  rw [unguardedWritesFrom, scanned]
  split <;> rfl

/-- A scan that succeeds has a verdict on its first instruction and succeeds on
the others. -/
theorem unguardedWritesFrom_cons_ok {instruction : Instruction}
    {rest : List Instruction} {writes : List InstructionRef}
    (success : scope.unguardedWritesFrom id procedure guards index
      (instruction :: rest) = .ok writes) :
    ∃ shared later,
      scope.scanned id procedure guards index instruction.operation =
        .ok shared ∧
      scope.unguardedWritesFrom id procedure guards (index + 1) rest =
        .ok later ∧
      ∀ place, place ∈ writes ↔
        (place = ⟨id, index⟩ ∧ shared = true) ∨ place ∈ later := by
  rw [unguardedWritesFrom_cons] at success
  obtain ⟨shared, verdict, continued⟩ := bind_eq_ok_iff.mp success
  obtain ⟨later, remaining, made⟩ := bind_eq_ok_iff.mp continued
  refine ⟨shared, later, verdict, remaining, ?_⟩
  intro place
  rw [← pure_eq_ok_iff.mp made]
  cases shared with
  | false => simp
  | true => simp

theorem exists_verdict_of_ok {code : List Instruction}
    {writes : List InstructionRef}
    (success : scope.unguardedWritesFrom id procedure guards index code =
      .ok writes)
    {offset : Nat} {instruction : Instruction}
    (found : code[offset]? = some instruction) :
    ∃ shared, scope.scanned id procedure guards (index + offset)
      instruction.operation = .ok shared := by
  induction code generalizing index writes offset with
  | nil => cases found
  | cons head rest induction =>
      obtain ⟨shared, later, verdict, remaining, _⟩ :=
        unguardedWritesFrom_cons_ok success
      cases offset with
      | zero =>
          cases found
          exact ⟨shared, verdict⟩
      | succ offset =>
          rw [← Nat.add_assoc, Nat.add_right_comm]
          exact induction remaining found

/-- A scan that succeeds lists the instructions on which its verdict is
true. -/
theorem mem_of_unguardedWritesFrom_ok {code : List Instruction}
    {writes : List InstructionRef}
    (success : scope.unguardedWritesFrom id procedure guards index code =
      .ok writes)
    (place : InstructionRef) :
    place ∈ writes ↔ ∃ offset instruction,
      code[offset]? = some instruction ∧ place = ⟨id, index + offset⟩ ∧
        scope.scanned id procedure guards (index + offset)
          instruction.operation = .ok true := by
  induction code generalizing index writes with
  | nil =>
      cases success
      simp
  | cons instruction rest induction =>
      obtain ⟨shared, later, verdict, remaining, members⟩ :=
        unguardedWritesFrom_cons_ok success
      rw [members, induction remaining]
      constructor
      · intro member
        rcases member with
          ⟨here, isShared⟩ | ⟨offset, other, found, there, isShared⟩
        · exact ⟨0, instruction, rfl, here, isShared ▸ verdict⟩
        · rw [Nat.add_right_comm] at there isShared
          exact ⟨offset + 1, other, found, there, isShared⟩
      · intro member
        obtain ⟨offset, other, found, there, isShared⟩ := member
        cases offset with
        | zero =>
            cases found
            rw [Nat.add_zero, verdict, Except.ok.injEq] at isShared
            exact .inl ⟨there, isShared⟩
        | succ offset =>
            rw [← Nat.add_assoc, Nat.add_right_comm] at there isShared
            exact .inr ⟨offset, other, found, there, isShared⟩

/-- A scan lists instructions in their order. -/
theorem unguardedWritesFrom_increasing {code : List Instruction}
    {writes : List InstructionRef}
    (success : scope.unguardedWritesFrom id procedure guards index code =
      .ok writes) : Increasing writes := by
  induction code generalizing index writes with
  | nil =>
      cases success
      exact .nil
  | cons instruction rest induction =>
      rw [unguardedWritesFrom_cons] at success
      obtain ⟨shared, _, continued⟩ := bind_eq_ok_iff.mp success
      obtain ⟨later, remaining, made⟩ := bind_eq_ok_iff.mp continued
      have increasing := induction remaining
      rw [← pure_eq_ok_iff.mp made]
      split
      · refine List.pairwise_cons.mpr ⟨?_, increasing⟩
        intro place member
        obtain ⟨offset, _, _, there, _⟩ :=
          (mem_of_unguardedWritesFrom_ok remaining place).mp member
        subst there
        rw [InstructionRef.compare_eq_lt_iff]
        refine .inr ⟨rfl, ?_⟩
        show index < index + 1 + offset
        omega
      · exact increasing

/-- A scan that fails does so at the first instruction without a verdict. -/
theorem unguardedWritesFrom_error {code : List Instruction}
    {error : AuditError}
    (failure : scope.unguardedWritesFrom id procedure guards index code =
      .error error) :
    ∃ offset instruction, code[offset]? = some instruction ∧
      scope.scanned id procedure guards (index + offset)
        instruction.operation = .error error ∧
      ∀ earlier < offset, ∀ other, code[earlier]? = some other →
        ∃ shared, scope.scanned id procedure guards (index + earlier)
          other.operation = .ok shared := by
  induction code generalizing index with
  | nil => cases failure
  | cons instruction rest induction =>
      rw [unguardedWritesFrom_cons] at failure
      rcases bind_eq_error_iff.mp failure with
        here | ⟨shared, verdict, continued⟩
      · refine ⟨0, instruction, rfl, here, ?_⟩
        intro earlier impossible
        cases impossible
      · rcases bind_eq_error_iff.mp continued with
          there | ⟨later, _, made⟩
        · obtain ⟨offset, other, found, failed, before⟩ := induction there
          rw [Nat.add_right_comm] at failed
          refine ⟨offset + 1, other, found, failed, ?_⟩
          intro earlier smaller another listed
          cases earlier with
          | zero =>
              cases listed
              exact ⟨shared, verdict⟩
          | succ earlier =>
              rw [← Nat.add_assoc, Nat.add_right_comm]
              exact before earlier (Nat.lt_of_succ_lt_succ smaller) another
                listed
        · exact (pure_ne_error made).elim

end Scan

end Scope

namespace Program

section Verdicts

variable {program : Program} {id : ProcedureId} {procedure : Procedure}
  {index : Nat} {operation : Operation}

theorem Accepted.scanned_error_iff (accepted : program.Accepted)
    {error : AuditError} :
    program.scope.scanned id procedure
        (program.scope.trustedBlocks id procedure) index operation =
        .error error ↔
      ¬program.Covered id procedure index ∧
        program.WriteFault procedure operation error := by
  rw [← accepted.isProtected_iff]
  unfold Scope.scanned
  split
  · next inside => simp [inside]
  · next outside =>
      simp only [outside, Bool.false_eq_true, not_false_eq_true, true_and]
      rcases accepted.isSharedWrite_verdict id procedure operation with
        ⟨found, verdict, fault⟩ | ⟨shared, verdict, _, none⟩
      · rw [verdict, Except.error.injEq]
        constructor
        · intro same
          exact same ▸ fault
        · intro other
          exact fault.unique other
      · rw [verdict]
        constructor
        · intro impossible
          cases impossible
        · intro fault
          exact (none error fault).elim

theorem Accepted.scanned_true_iff (accepted : program.Accepted) :
    program.scope.scanned id procedure
        (program.scope.trustedBlocks id procedure) index operation =
        .ok true ↔
      ¬program.Covered id procedure index ∧
        program.SharedWrite id operation := by
  rw [← accepted.isProtected_iff]
  unfold Scope.scanned
  split
  · next inside => simp [inside]
  · next outside =>
      simp only [outside, Bool.false_eq_true, not_false_eq_true, true_and]
      rcases accepted.isSharedWrite_verdict id procedure operation with
        ⟨error, verdict, fault⟩ | ⟨shared, verdict, iff, _⟩
      · rw [verdict]
        constructor
        · intro impossible
          cases impossible
        · intro shared
          exact (shared.not_writeFault procedure error fault).elim
      · rw [verdict, Except.ok.injEq, iff]

theorem Accepted.isSeeded_iff (accepted : program.Accepted) :
    program.scope.isSeeded id procedure = true ↔
      ¬program.OfPlatform procedure.className ∧
        ¬program.Guarded id procedure := by
  rw [← accepted.isIgnoredClass_iff, ← accepted.isGuarded_iff,
    Scope.isSeeded, Bool.and_eq_true, Bool.not_eq_true', Bool.not_eq_true',
    Bool.eq_false_iff, Bool.eq_false_iff]
  rfl

end Verdicts

end Program

/-- The instructions whose numbers a vector holds. -/
def Numbering.decode (numbering : Numbering InstructionRef)
    (bits : BitVector) : SortedSet InstructionRef :=
  SortedSet.ofList (bits.toList.filterMap numbering.object?)

theorem Numbering.mem_decode {numbering : Numbering InstructionRef}
    {bits : BitVector} {place : InstructionRef} :
    place ∈ numbering.decode bits ↔
      ∃ number, bits.get number = true ∧
        numbering.object? number = some place := by
  simp only [decode, SortedSet.mem_ofList, List.mem_filterMap,
    BitVector.mem_toList]

namespace Scope

/-- The number of one more place joins those that are collected. -/
def numberOne (collected : BitVector × Numbering InstructionRef)
    (place : InstructionRef) : BitVector × Numbering InstructionRef :=
  (collected.1.set (collected.2.add place).1, (collected.2.add place).2)

theorem numberAll_eq_foldl (numbering : Numbering InstructionRef)
    (places : List InstructionRef) :
    numberAll numbering places = places.foldl numberOne (∅, numbering) :=
  rfl

/-- The later collection has the numbers of the earlier one and those of the
places, all of which it has numbered. -/
structure Collects (places : List InstructionRef)
    (earlier later : BitVector × Numbering InstructionRef) : Prop where
  grows : earlier.2.Grows later.2
  numbered : ∀ place ∈ places, ∃ number, later.2.number? place = some number
  members : ∀ number, later.1.get number = true ↔
    earlier.1.get number = true ∨
      ∃ place ∈ places, later.2.number? place = some number

theorem collects_foldl (places : List InstructionRef)
    (collected : BitVector × Numbering InstructionRef) :
    Collects places collected (places.foldl numberOne collected) := by
  induction places generalizing collected with
  | nil => exact ⟨.refl _, by simp, by simp⟩
  | cons place places induction =>
      have later := induction (numberOne collected place)
      have kept := later.grows.number? (collected.2.number?_add place)
      constructor
      · exact (collected.2.grows_add place).trans later.grows
      · intro other listed
        rcases List.mem_cons.mp listed with first | inTail
        · subst first
          exact ⟨_, kept⟩
        · exact later.numbered other inTail
      · intro number
        refine (later.members number).trans ?_
        simp only [numberOne, BitVector.get_set, Bool.or_eq_true,
          decide_eq_true_eq, or_assoc]
        apply or_congr_right
        constructor
        · intro held
          rcases held with here | ⟨other, listed, there⟩
          · subst here
            exact ⟨place, List.mem_cons_self, kept⟩
          · exact ⟨other, List.mem_cons_of_mem place listed, there⟩
        · intro held
          obtain ⟨other, listed, there⟩ := held
          rcases List.mem_cons.mp listed with first | inTail
          · subst first
            exact .inl (Option.some.inj (there.symm.trans kept))
          · exact .inr ⟨other, inTail, there⟩

theorem collects_numberAll (numbering : Numbering InstructionRef)
    (places : List InstructionRef) :
    Collects places (∅, numbering) (numberAll numbering places) :=
  numberAll_eq_foldl numbering places ▸ collects_foldl places (∅, numbering)

/-- What seeding records about a procedure. -/
inductive Records (scope : Scope) (numbering : Numbering InstructionRef)
    (id : ProcedureId) (procedure : Procedure) : ProcedureFacts → Prop where
  | skipped : scope.isSeeded id procedure = false →
      Records scope numbering id procedure {}
  | seeded {writes : List InstructionRef} {bits : BitVector} :
      scope.isSeeded id procedure = true →
      scope.unguardedWrites id procedure
        (scope.trustedBlocks id procedure) = .ok writes →
      (∀ place ∈ writes, ∃ number,
        numbering.number? place = some number) →
      (∀ number, bits.get number = true ↔
        ∃ place ∈ writes, numbering.number? place = some number) →
      Records scope numbering id procedure
        ⟨scope.trustedBlocks id procedure, bits⟩

section Seeding

variable {scope : Scope} {numbering later : Numbering InstructionRef}
  {id : ProcedureId} {procedure : Procedure} {facts : ProcedureFacts}

/-- Records stay right when more places are numbered. -/
theorem Records.grow (records : scope.Records numbering id procedure facts)
    (grows : numbering.Grows later) :
    scope.Records later id procedure facts := by
  cases records with
  | skipped unseeded => exact .skipped unseeded
  | @seeded writes bits isSeeded scanned numbered members =>
      refine .seeded isSeeded scanned ?_ ?_
      · intro place listed
        obtain ⟨number, known⟩ := numbered place listed
        exact ⟨number, grows.number? known⟩
      · intro number
        rw [members]
        constructor
        · intro member
          obtain ⟨place, listed, known⟩ := member
          exact ⟨place, listed, grows.number? known⟩
        · intro member
          obtain ⟨place, listed, there⟩ := member
          obtain ⟨earlier, known⟩ := numbered place listed
          cases there.symm.trans (grows.number? known)
          exact ⟨place, listed, known⟩

/-- A procedure that is seeded has its writes numbered; any other leaves the
numbers as they are. -/
theorem seedProcedure_eq_ok_iff :
    scope.seedProcedure numbering id procedure = .ok (facts, later) ↔
      (scope.isSeeded id procedure = false ∧ facts = {} ∧
        later = numbering) ∨
      (scope.isSeeded id procedure = true ∧ ∃ writes,
        scope.unguardedWrites id procedure
          (scope.trustedBlocks id procedure) = .ok writes ∧
        facts = ⟨scope.trustedBlocks id procedure,
          (numberAll numbering writes).1⟩ ∧
        later = (numberAll numbering writes).2) := by
  unfold seedProcedure
  cases scope.isSeeded id procedure with
  | false =>
      simp [@eq_comm _ {} facts, @eq_comm _ numbering later]
  | true =>
      simp only [if_true, bind_eq_ok_iff, pure_eq_ok_iff, Prod.mk.injEq,
        Bool.true_eq_false, false_and, true_and, false_or,
        @eq_comm _ facts, @eq_comm _ later]

theorem seedProcedure_ok
    (success : scope.seedProcedure numbering id procedure =
      .ok (facts, later)) :
    numbering.Grows later ∧ scope.Records later id procedure facts := by
  rcases seedProcedure_eq_ok_iff.mp success with
    ⟨unseeded, rfl, rfl⟩ | ⟨isSeeded, writes, scanned, rfl, rfl⟩
  · exact ⟨.refl _, .skipped unseeded⟩
  · have collects := collects_numberAll numbering writes
    refine ⟨collects.grows, .seeded isSeeded scanned collects.numbered ?_⟩
    intro number
    rw [collects.members]
    simp

theorem seedProcedure_error {error : AuditError}
    (failure : scope.seedProcedure numbering id procedure = .error error) :
    scope.isSeeded id procedure = true ∧
      scope.unguardedWrites id procedure
        (scope.trustedBlocks id procedure) = .error error := by
  unfold seedProcedure at failure
  cases isSeeded : scope.isSeeded id procedure with
  | false =>
      simp only [isSeeded, Bool.false_eq_true, if_false] at failure
      cases failure
  | true =>
      simp only [isSeeded, if_true] at failure
      rcases bind_eq_error_iff.mp failure with scanned | ⟨_, _, made⟩
      · exact ⟨rfl, scanned⟩
      · cases made

theorem seedFrom_cons_ok {rest : List Procedure} {seeds : Seeds}
    (success : scope.seedFrom numbering id (procedure :: rest) = .ok seeds) :
    ∃ facts between later,
      scope.seedProcedure numbering id procedure = .ok (facts, between) ∧
      scope.seedFrom between (id + 1) rest = .ok later ∧
      seeds = ⟨later.numbering, facts :: later.facts⟩ := by
  obtain ⟨⟨facts, between⟩, seeded, continued⟩ := bind_eq_ok_iff.mp success
  obtain ⟨later, remaining, made⟩ := bind_eq_ok_iff.mp continued
  cases made
  exact ⟨facts, between, later, seeded, remaining, rfl⟩

theorem seedFrom_ok {procedures : List Procedure} {seeds : Seeds}
    (success : scope.seedFrom numbering id procedures = .ok seeds) :
    numbering.Grows seeds.numbering ∧
      seeds.facts.length = procedures.length ∧
      ∀ offset procedure, procedures[offset]? = some procedure →
        ∃ facts, seeds.facts[offset]? = some facts ∧
          scope.Records seeds.numbering (id + offset) procedure facts := by
  induction procedures generalizing numbering id seeds with
  | nil =>
      cases success
      exact ⟨.refl _, rfl, by simp⟩
  | cons procedure rest induction =>
      obtain ⟨facts, between, later, seeded, remaining, rfl⟩ :=
        seedFrom_cons_ok success
      obtain ⟨start, records⟩ := seedProcedure_ok seeded
      obtain ⟨growth, sameLength, laterRecords⟩ := induction remaining
      refine ⟨start.trans growth, congrArg (· + 1) sameLength, ?_⟩
      intro offset other found
      cases offset with
      | zero =>
          cases found
          exact ⟨facts, rfl, records.grow growth⟩
      | succ offset =>
          obtain ⟨otherFacts, listed, recorded⟩ :=
            laterRecords offset other found
          rw [Nat.add_right_comm, Nat.add_assoc] at recorded
          exact ⟨otherFacts, listed, recorded⟩

theorem seedFrom_error {procedures : List Procedure} {error : AuditError}
    (failure : scope.seedFrom numbering id procedures = .error error) :
    ∃ offset procedure, procedures[offset]? = some procedure ∧
      scope.isSeeded (id + offset) procedure = true ∧
      scope.unguardedWrites (id + offset) procedure
        (scope.trustedBlocks (id + offset) procedure) = .error error ∧
      ∀ earlier < offset, ∀ other, procedures[earlier]? = some other →
        ∃ numbering facts, scope.Records numbering (id + earlier) other
          facts := by
  induction procedures generalizing numbering id with
  | nil => cases failure
  | cons procedure rest induction =>
      rcases bind_eq_error_iff.mp failure with
        here | ⟨⟨facts, between⟩, seeded, continued⟩
      · obtain ⟨isSeeded, scanned⟩ := seedProcedure_error here
        refine ⟨0, procedure, rfl, isSeeded, scanned, ?_⟩
        intro earlier impossible
        cases impossible
      · rcases bind_eq_error_iff.mp continued with there | ⟨_, _, made⟩
        · obtain ⟨offset, other, found, isSeeded, scanned, before⟩ :=
            induction there
          rw [Nat.add_right_comm, Nat.add_assoc] at isSeeded scanned
          refine ⟨offset + 1, other, found, isSeeded, scanned, ?_⟩
          intro earlier smaller another listed
          cases earlier with
          | zero =>
              cases listed
              exact ⟨between, facts, (seedProcedure_ok seeded).2⟩
          | succ earlier =>
              have recorded := before earlier
                (Nat.lt_of_succ_lt_succ smaller) another listed
              rwa [Nat.add_right_comm, Nat.add_assoc] at recorded
        · cases made

end Seeding

end Scope

namespace Program

section Seeding

variable {program : Program} {id : ProcedureId} {procedure : Procedure}

/-- An instruction on which a scan has a verdict is not faulty. -/
theorem Accepted.not_faulty_of_verdict (accepted : program.Accepted)
    (found : program.procedure? id = some procedure) {index : Nat}
    (verdict : ∀ instruction, procedure.code[index]? = some instruction →
      ∃ shared, program.scope.scanned id procedure
        (program.scope.trustedBlocks id procedure) index
        instruction.operation = .ok shared)
    (error : AuditError) : ¬program.Faulty ⟨id, index⟩ error := by
  intro faulty
  obtain ⟨other, operation, bare, fault⟩ := faulty
  cases found.symm.trans bare.found
  obtain ⟨instruction, listed, isOperation⟩ :=
    Procedure.operation?_eq_some_iff.mp bare.listed
  subst isOperation
  obtain ⟨shared, success⟩ := verdict instruction listed
  have failed := accepted.scanned_error_iff.mpr ⟨bare.uncovered, fault⟩
  cases success.symm.trans failed

/-- The scan of a seeded procedure finds its seeded writes. -/
theorem Accepted.unguardedWrites_ok (accepted : program.Accepted)
    (found : program.procedure? id = some procedure)
    (isSeeded : program.scope.isSeeded id procedure = true)
    {writes : List InstructionRef}
    (success : program.scope.unguardedWrites id procedure
      (program.scope.trustedBlocks id procedure) = .ok writes) :
    (∀ place, place ∈ writes ↔
      place.procedure = id ∧ program.Seeded place) ∧
    ∀ place error, place.procedure = id → ¬program.Faulty place error := by
  obtain ⟨audited, unguarded⟩ := accepted.isSeeded_iff.mp isSeeded
  have members := Scope.mem_of_unguardedWritesFrom_ok success
  simp only [Nat.zero_add] at members
  constructor
  · intro place
    rw [members]
    constructor
    · intro member
      obtain ⟨index, instruction, listed, same, shared⟩ := member
      subst same
      obtain ⟨uncovered, isShared⟩ := accepted.scanned_true_iff.mp shared
      refine ⟨rfl, procedure, instruction.operation, ?_, isShared⟩
      exact ⟨found, audited, unguarded,
        Procedure.operation?_eq_some_iff.mpr ⟨instruction, listed, rfl⟩,
        uncovered⟩
    · intro member
      obtain ⟨same, other, operation, bare, isShared⟩ := member
      subst same
      cases found.symm.trans bare.found
      obtain ⟨instruction, listed, isOperation⟩ :=
        Procedure.operation?_eq_some_iff.mp bare.listed
      subst isOperation
      exact ⟨place.index, instruction, listed, rfl,
        accepted.scanned_true_iff.mpr ⟨bare.uncovered, isShared⟩⟩
  · intro place error same
    subst same
    apply accepted.not_faulty_of_verdict found
    intro instruction listed
    have verdict := Scope.exists_verdict_of_ok success listed
    rwa [Nat.zero_add] at verdict

theorem Accepted.isSeeded_of_unguarded (accepted : program.Accepted)
    {place : InstructionRef} {operation : Operation}
    (bare : program.Unguarded place procedure operation) :
    program.scope.isSeeded place.procedure procedure = true :=
  accepted.isSeeded_iff.mpr ⟨bare.audited, bare.unguarded⟩

/-- What the facts about a procedure say of its instructions. -/
structure Tells (program : Program) (numbering : Numbering InstructionRef)
    (id : ProcedureId) (facts : ProcedureFacts) : Prop where
  own : ∀ number, facts.ownWrites.get number = true ↔
    ∃ place, place.procedure = id ∧ program.Seeded place ∧
      numbering.number? place = some number
  numbered : ∀ place, place.procedure = id → program.Seeded place →
    ∃ number, numbering.number? place = some number
  faultless : ∀ place error, place.procedure = id →
    ¬program.Faulty place error

theorem Accepted.tells (accepted : program.Accepted)
    (found : program.procedure? id = some procedure)
    {numbering : Numbering InstructionRef} {facts : ProcedureFacts}
    (records : program.scope.Records numbering id procedure facts) :
    program.Tells numbering id facts := by
  cases records with
  | skipped unseeded =>
      have none : ∀ place other operation, place.procedure = id →
          ¬program.Unguarded place other operation := by
        intro place other operation same bare
        subst same
        cases found.symm.trans bare.found
        have isSeeded := accepted.isSeeded_of_unguarded bare
        simp [unseeded] at isSeeded
      constructor
      · intro number
        simp only [BitVector.get_empty, Bool.false_eq_true, false_iff]
        intro own
        obtain ⟨place, same, ⟨other, operation, bare, _⟩, _⟩ := own
        exact none place other operation same bare
      · intro place same isSeeded
        obtain ⟨other, operation, bare, _⟩ := isSeeded
        exact (none place other operation same bare).elim
      · intro place error same faulty
        obtain ⟨other, operation, bare, _⟩ := faulty
        exact none place other operation same bare
  | @seeded writes bits isSeeded scanned numbered members =>
      obtain ⟨seededWrites, faultless⟩ :=
        accepted.unguardedWrites_ok found isSeeded scanned
      constructor
      · intro number
        simp only [members, seededWrites, and_assoc]
      · intro place same seeded
        exact numbered place ((seededWrites place).mpr ⟨same, seeded⟩)
      · exact faultless

/-- Whatever has been numbered before, what is recorded for a procedure is
right. -/
theorem records_of_procedure {numbering : Numbering InstructionRef}
    {seeds : Seeds}
    (success : program.scope.seedInto numbering = .ok seeds)
    (found : program.procedure? id = some procedure) :
    ∃ facts, seeds.facts[id]? = some facts ∧
      program.scope.Records seeds.numbering id procedure facts := by
  obtain ⟨facts, listed, records⟩ :=
    (Scope.seedFrom_ok success).2.2 id procedure found
  rw [Nat.zero_add] at records
  exact ⟨facts, listed, records⟩

/-- Facts are those of a procedure. -/
theorem records_of_facts {numbering : Numbering InstructionRef}
    {seeds : Seeds}
    (success : program.scope.seedInto numbering = .ok seeds)
    {facts : ProcedureFacts} (listed : seeds.facts[id]? = some facts) :
    ∃ procedure, program.procedure? id = some procedure ∧
      program.scope.Records seeds.numbering id procedure facts := by
  obtain ⟨inRange, _⟩ := List.getElem?_eq_some_iff.mp listed
  rw [(Scope.seedFrom_ok success).2.1] at inRange
  have found : program.procedure? id = some program.procedures[id] :=
    List.getElem?_eq_getElem inRange
  obtain ⟨_, alsoListed, records⟩ := records_of_procedure success found
  cases listed.symm.trans alsoListed
  exact ⟨_, found, records⟩

theorem Accepted.seed_ok (accepted : program.Accepted) {seeds : Seeds}
    (success : program.scope.seed = .ok seeds) :
    seeds.facts.length = program.procedures.length ∧
      ∀ id procedure, program.procedure? id = some procedure →
        ∃ facts, seeds.facts[id]? = some facts ∧
          program.scope.Records seeds.numbering id procedure facts ∧
          program.Tells seeds.numbering id facts := by
  refine ⟨(Scope.seedFrom_ok success).2.1, ?_⟩
  intro id procedure found
  obtain ⟨facts, listed, recorded⟩ := records_of_procedure success found
  exact ⟨facts, listed, recorded, accepted.tells found recorded⟩

theorem Accepted.tells_of_listed (accepted : program.Accepted)
    {seeds : Seeds} (success : program.scope.seed = .ok seeds)
    {facts : ProcedureFacts} (listed : seeds.facts[id]? = some facts) :
    program.Tells seeds.numbering id facts := by
  obtain ⟨_, found, records⟩ := records_of_facts success listed
  exact accepted.tells found records

theorem Accepted.not_faulty_of_seed_ok (accepted : program.Accepted)
    {seeds : Seeds} (success : program.scope.seed = .ok seeds)
    (place : InstructionRef) (error : AuditError) :
    ¬program.Faulty place error := by
  intro faulty
  have unguarded := faulty
  obtain ⟨procedure, operation, bare, _⟩ := unguarded
  obtain ⟨facts, _, _, tells⟩ :=
    (accepted.seed_ok success).2 place.procedure procedure bare.found
  exact tells.faultless place error rfl faulty

/-- The error is that of the first unguarded write whose target cannot be
told. -/
def FirstFault (program : Program) (place : InstructionRef)
    (error : AuditError) : Prop :=
  program.Faulty place error ∧
    ∀ other otherError, program.Faulty other otherError → ¬other.Before place

theorem Faulty.unique {place : InstructionRef} {left right : AuditError}
    (leftFault : program.Faulty place left)
    (rightFault : program.Faulty place right) : left = right := by
  obtain ⟨procedure, operation, bare, fault⟩ := leftFault
  obtain ⟨other, otherOperation, otherBare, otherFault⟩ := rightFault
  cases bare.found.symm.trans otherBare.found
  cases bare.listed.symm.trans otherBare.listed
  exact fault.unique otherFault

theorem FirstFault.unique {place other : InstructionRef}
    {error otherError : AuditError}
    (first : program.FirstFault place error)
    (second : program.FirstFault other otherError) : error = otherError := by
  have notAfter := first.2 other otherError second.1
  have notBefore := second.2 place error first.1
  cases InstructionRef.eq_of_not_before notBefore notAfter
  exact first.1.unique second.1

/-- An error of the scan of a procedure comes from its first faulty
instruction. -/
theorem Accepted.unguardedWrites_error (accepted : program.Accepted)
    (found : program.procedure? id = some procedure)
    (isSeeded : program.scope.isSeeded id procedure = true)
    {error : AuditError}
    (failure : program.scope.unguardedWrites id procedure
      (program.scope.trustedBlocks id procedure) = .error error) :
    ∃ index, program.Faulty ⟨id, index⟩ error ∧
      ∀ earlier < index, ∀ otherError,
        ¬program.Faulty ⟨id, earlier⟩ otherError := by
  obtain ⟨audited, unguarded⟩ := accepted.isSeeded_iff.mp isSeeded
  obtain ⟨index, instruction, listed, failed, before⟩ :=
    Scope.unguardedWritesFrom_error failure
  simp only [Nat.zero_add] at failed before
  obtain ⟨uncovered, fault⟩ := accepted.scanned_error_iff.mp failed
  refine ⟨index, ⟨procedure, instruction.operation, ?_, fault⟩, ?_⟩
  · exact ⟨found, audited, unguarded,
      Procedure.operation?_eq_some_iff.mpr ⟨instruction, listed, rfl⟩,
      uncovered⟩
  · intro earlier smaller
    exact accepted.not_faulty_of_verdict found (before earlier smaller)

theorem Accepted.firstFault_of_seed_error (accepted : program.Accepted)
    {error : AuditError} (failure : program.scope.seed = .error error) :
    ∃ place, program.FirstFault place error := by
  obtain ⟨id, procedure, found, isSeeded, failed, before⟩ :=
    Scope.seedFrom_error failure
  simp only [Nat.zero_add] at isSeeded failed before
  obtain ⟨index, faulty, earlierFine⟩ :=
    accepted.unguardedWrites_error found isSeeded failed
  refine ⟨⟨id, index⟩, faulty, ?_⟩
  intro other otherError otherFaulty earlier
  rcases earlier with inEarlier | ⟨same, smaller⟩
  · have unguarded := otherFaulty
    obtain ⟨otherProcedure, _, bare, _⟩ := unguarded
    obtain ⟨numbering, facts, records⟩ :=
      before other.procedure inEarlier otherProcedure bare.found
    exact (accepted.tells bare.found records).faultless other otherError rfl
      otherFaulty
  · obtain ⟨otherId, otherIndex⟩ := other
    simp only at same smaller
    subst same
    exact earlierFine otherIndex smaller otherError otherFaulty

theorem Accepted.seed_error_iff (accepted : program.Accepted)
    {error : AuditError} :
    program.scope.seed = .error error ↔
      ∃ place, program.FirstFault place error := by
  constructor
  · exact accepted.firstFault_of_seed_error
  · intro faulty
    obtain ⟨place, first⟩ := faulty
    cases result : program.scope.seed with
    | ok seeds =>
        exact (accepted.not_faulty_of_seed_ok result place error first.1).elim
    | error other =>
        obtain ⟨_, otherFirst⟩ := accepted.firstFault_of_seed_error result
        rw [first.unique otherFirst]

end Seeding

end Program

end LockAudit
