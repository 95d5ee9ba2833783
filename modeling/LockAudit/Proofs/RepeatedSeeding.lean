import LockAudit.Proofs.SeededWrites
import LockAudit.Reach

/-!
# Seeding again

Seeding goes on from the numbers that a table has already.  They stay, and what
is recorded for a procedure is the same whatever they are, once the numbers are
read as instructions.  After a seeding every write has its number, so that
another one finds the same facts and nothing to add.
-/

namespace LockAudit

theorem InstructionRef.nodup_of_before {places : List InstructionRef}
    (increasing : places.Pairwise InstructionRef.Before) : places.Nodup := by
  apply increasing.imp
  intro left right before same
  subst same
  rcases before with less | ⟨_, less⟩
  · exact Nat.lt_irrefl _ less
  · exact Nat.lt_irrefl _ less

/-- The writes that are recorded for a procedure. -/
def Seeds.ownWrites (seeds : Seeds) (id : ProcedureId) :
    SortedSet InstructionRef :=
  match seeds.facts[id]? with
  | some facts => seeds.numbering.decode facts.ownWrites
  | none => ∅

namespace Scope

section Numbering

variable {numbering later : Numbering InstructionRef}
  {places : List InstructionRef}

theorem foldl_numberOne_again
    (collected : BitVector × Numbering InstructionRef)
    (grows : (places.foldl numberOne collected).2.Grows later) :
    places.foldl numberOne (collected.1, later) =
      ((places.foldl numberOne collected).1, later) := by
  induction places generalizing collected with
  | nil => rfl
  | cons place places induction =>
      have kept : later.number? place = some (collected.2.add place).1 := by
        apply grows.number?
        apply (collects_foldl places (numberOne collected place)).grows.number?
        exact collected.2.number?_add place
      have step : numberOne (collected.1, later) place =
          ((numberOne collected place).1, later) := by
        simp only [numberOne, Numbering.add_of_number? kept]
      rw [List.foldl_cons, step]
      exact induction (numberOne collected place) grows

/-- Places that are numbered already have the same numbers collected. -/
theorem numberAll_again
    (grows : (numberAll numbering places).2.Grows later) :
    numberAll later places = ((numberAll numbering places).1, later) :=
  foldl_numberOne_again (∅, numbering) grows

theorem mem_objects_foldl
    (collected : BitVector × Numbering InstructionRef)
    {place : InstructionRef} :
    place ∈ (places.foldl numberOne collected).2.objects ↔
      place ∈ collected.2.objects ∨ place ∈ places := by
  induction places generalizing collected with
  | nil => simp
  | cons first places induction =>
      rw [List.foldl_cons, induction, List.mem_cons]
      simp only [numberOne, Numbering.mem_objects_add, or_assoc]

theorem mem_objects_numberAll {place : InstructionRef} :
    place ∈ (numberAll numbering places).2.objects ↔
      place ∈ numbering.objects ∨ place ∈ places :=
  mem_objects_foldl (∅, numbering)

theorem objects_foldl_of_fresh (distinct : places.Nodup)
    (collected : BitVector × Numbering InstructionRef)
    (fresh : ∀ place ∈ places, place ∉ collected.2.objects) :
    (places.foldl numberOne collected).2.objects =
      collected.2.objects ++ places := by
  induction places generalizing collected with
  | nil => simp
  | cons place places induction =>
      obtain ⟨apart, distinct⟩ := List.nodup_cons.mp distinct
      have added : (numberOne collected place).2.objects =
          collected.2.objects ++ [place] :=
        Numbering.objects_add_of_fresh (fresh place List.mem_cons_self)
      rw [List.foldl_cons, induction distinct, added, List.append_assoc,
        List.singleton_append]
      intro other listed
      rw [added, List.mem_append, List.mem_singleton]
      rintro (known | same)
      · exact fresh other (List.mem_cons_of_mem place listed) known
      · exact apart (same ▸ listed)

/-- Places that have no number yet get the next ones in their order. -/
theorem objects_numberAll_of_fresh (distinct : places.Nodup)
    (fresh : ∀ place ∈ places, place ∉ numbering.objects) :
    (numberAll numbering places).2.objects = numbering.objects ++ places :=
  objects_foldl_of_fresh distinct (∅, numbering) fresh

end Numbering

section Recorded

variable {scope : Scope} {numbering other later : Numbering InstructionRef}
  {id : ProcedureId} {procedure : Procedure}
  {facts otherFacts : ProcedureFacts}

theorem procedure_of_mem_unguardedWrites {guards : List Block}
    {writes : List InstructionRef} {place : InstructionRef}
    (scanned : scope.unguardedWrites id procedure guards = .ok writes)
    (listed : place ∈ writes) : place.procedure = id := by
  obtain ⟨_, _, _, same, _⟩ :=
    (mem_of_unguardedWritesFrom_ok scanned place).mp listed
  rw [same]

theorem Records.decode_of_skipped
    (records : scope.Records numbering id procedure facts)
    (unseeded : scope.isSeeded id procedure = false) :
    numbering.decode facts.ownWrites = ∅ := by
  cases records with
  | skipped => rfl
  | seeded isSeeded => cases unseeded.symm.trans isSeeded

/-- The numbers that are recorded are those of the unguarded writes. -/
theorem Records.decode_of_seeded
    (records : scope.Records numbering id procedure facts)
    (isSeeded : scope.isSeeded id procedure = true) :
    ∃ writes, scope.unguardedWrites id procedure
        (scope.trustedBlocks id procedure) = .ok writes ∧
      numbering.decode facts.ownWrites = SortedSet.ofList writes := by
  cases records with
  | skipped unseeded => cases unseeded.symm.trans isSeeded
  | @seeded writes bits _ scanned numbered members =>
      refine ⟨writes, scanned, SortedSet.ext ?_⟩
      intro place
      simp only [Numbering.mem_decode, members, SortedSet.mem_ofList]
      constructor
      · intro decoded
        obtain ⟨number, ⟨write, listed, known⟩, denotes⟩ := decoded
        cases (Numbering.object?_of_number? known).symm.trans denotes
        exact listed
      · intro listed
        obtain ⟨number, known⟩ := numbered place listed
        exact ⟨number, ⟨place, listed, known⟩,
          Numbering.object?_of_number? known⟩

theorem Records.decode_eq
    (records : scope.Records numbering id procedure facts)
    (otherRecords : scope.Records other id procedure otherFacts) :
    other.decode otherFacts.ownWrites =
      numbering.decode facts.ownWrites := by
  cases isSeeded : scope.isSeeded id procedure with
  | false =>
      rw [records.decode_of_skipped isSeeded,
        otherRecords.decode_of_skipped isSeeded]
  | true =>
      obtain ⟨writes, scanned, decoded⟩ := records.decode_of_seeded isSeeded
      obtain ⟨otherWrites, otherScanned, otherDecoded⟩ :=
        otherRecords.decode_of_seeded isSeeded
      cases scanned.symm.trans otherScanned
      rw [decoded, otherDecoded]

/-- A number that is recorded for a procedure is that of an instruction in
it. -/
theorem Records.object?_of_get
    (records : scope.Records numbering id procedure facts) {number : Nat}
    (held : facts.ownWrites.get number = true) :
    ∃ place, numbering.object? number = some place ∧
      place.procedure = id := by
  cases records with
  | skipped => simp at held
  | seeded _ scanned _ members =>
      obtain ⟨place, listed, known⟩ := (members number).mp held
      exact ⟨place, Numbering.object?_of_number? known,
        procedure_of_mem_unguardedWrites scanned listed⟩

theorem seedProcedure_again
    (success : scope.seedProcedure numbering id procedure =
      .ok (facts, later))
    (grows : later.Grows other) :
    scope.seedProcedure other id procedure = .ok (facts, other) := by
  rw [seedProcedure_eq_ok_iff] at success ⊢
  rcases success with
    ⟨unseeded, noFacts, _⟩ | ⟨isSeeded, writes, scanned, rfl, rfl⟩
  · exact .inl ⟨unseeded, noFacts, rfl⟩
  · refine .inr ⟨isSeeded, writes, scanned, ?_⟩
    rw [numberAll_again grows]
    exact ⟨rfl, rfl⟩

/-- Seeding a procedure numbers nothing but what it records. -/
theorem recorded_of_seedProcedure
    (success : scope.seedProcedure numbering id procedure =
      .ok (facts, later))
    {place : InstructionRef} (listed : place ∈ later.objects) :
    place ∈ numbering.objects ∨
      ∃ number, facts.ownWrites.get number = true ∧
        later.number? place = some number := by
  rcases seedProcedure_eq_ok_iff.mp success with
    ⟨_, _, rfl⟩ | ⟨_, writes, _, rfl, rfl⟩
  · exact .inl listed
  · rcases mem_objects_numberAll.mp listed with known | written
    · exact .inl known
    · have collects := collects_numberAll numbering writes
      obtain ⟨number, numbered⟩ := collects.numbered place written
      exact .inr ⟨number,
        (collects.members number).mpr (.inr ⟨place, written, numbered⟩),
        numbered⟩

/-- The table lists instructions of earlier procedures, in their order. -/
structure Ordered (numbering : Numbering InstructionRef)
    (id : ProcedureId) : Prop where
  increasing : numbering.objects.Pairwise InstructionRef.Before
  earlier : ∀ place ∈ numbering.objects, place.procedure < id

theorem Ordered.seedProcedure (ordered : Ordered numbering id)
    (success : scope.seedProcedure numbering id procedure =
      .ok (facts, later)) : Ordered later (id + 1) := by
  rcases seedProcedure_eq_ok_iff.mp success with
    ⟨_, _, rfl⟩ | ⟨_, writes, scanned, _, rfl⟩
  · refine ⟨ordered.increasing, ?_⟩
    intro place listed
    exact Nat.lt_succ_of_lt (ordered.earlier place listed)
  · have here : ∀ place ∈ writes, place.procedure = id := fun _ =>
      procedure_of_mem_unguardedWrites scanned
    have increasing : writes.Pairwise InstructionRef.Before :=
      (unguardedWritesFrom_increasing scanned).imp
        InstructionRef.compare_eq_lt_iff.mp
    have fresh : ∀ place ∈ writes, place ∉ numbering.objects := by
      intro place written known
      exact Nat.lt_irrefl id
        (here place written ▸ ordered.earlier place known)
    constructor
    · have distinct := InstructionRef.nodup_of_before increasing
      rw [objects_numberAll_of_fresh distinct fresh, List.pairwise_append]
      refine ⟨ordered.increasing, increasing, ?_⟩
      intro known listed write written
      exact .inl (here write written ▸ ordered.earlier known listed)
    · intro place listed
      rcases mem_objects_numberAll.mp listed with known | written
      · exact Nat.lt_succ_of_lt (ordered.earlier place known)
      · exact Nat.lt_succ_of_le (Nat.le_of_eq (here place written))

end Recorded

section Seeding

variable {scope : Scope} {numbering : Numbering InstructionRef}
  {id : ProcedureId} {procedures : List Procedure} {seeds : Seeds}

/-- Whether seeding succeeds does not depend on the numbers that there are. -/
theorem seedFrom_ok_of_ok
    (success : scope.seedFrom numbering id procedures = .ok seeds)
    (other : Numbering InstructionRef) :
    ∃ otherSeeds, scope.seedFrom other id procedures = .ok otherSeeds := by
  cases outcome : scope.seedFrom other id procedures with
  | ok otherSeeds => exact ⟨otherSeeds, rfl⟩
  | error error =>
      obtain ⟨offset, procedure, found, isSeeded, failed, _⟩ :=
        seedFrom_error outcome
      obtain ⟨facts, _, records⟩ := (seedFrom_ok success).2.2 offset _ found
      obtain ⟨writes, scanned, _⟩ := records.decode_of_seeded isSeeded
      cases scanned.symm.trans failed

theorem seedFrom_again
    (success : scope.seedFrom numbering id procedures = .ok seeds)
    {other : Numbering InstructionRef} (grows : seeds.numbering.Grows other) :
    scope.seedFrom other id procedures = .ok ⟨other, seeds.facts⟩ := by
  induction procedures generalizing numbering id seeds with
  | nil =>
      cases success
      rfl
  | cons procedure rest induction =>
      obtain ⟨facts, between, later, seeded, remaining, rfl⟩ :=
        seedFrom_cons_ok success
      have growth := (seedFrom_ok remaining).1.trans grows
      simp only [seedFrom, seedProcedure_again seeded growth, ok_bind,
        induction remaining grows]
      rfl

theorem recorded_of_seedFrom
    (success : scope.seedFrom numbering id procedures = .ok seeds)
    {place : InstructionRef} (listed : place ∈ seeds.numbering.objects) :
    place ∈ numbering.objects ∨
      ∃ facts ∈ seeds.facts, ∃ number,
        facts.ownWrites.get number = true ∧
          seeds.numbering.number? place = some number := by
  induction procedures generalizing numbering id seeds with
  | nil =>
      cases success
      exact .inl listed
  | cons procedure rest induction =>
      obtain ⟨facts, between, later, seeded, remaining, rfl⟩ :=
        seedFrom_cons_ok success
      rcases induction remaining listed with
        known | ⟨otherFacts, recorded, held⟩
      · rcases recorded_of_seedProcedure seeded known with
          old | ⟨number, held, numbered⟩
        · exact .inl old
        · exact .inr ⟨facts, List.mem_cons_self, number, held,
            (seedFrom_ok remaining).1.number? numbered⟩
      · exact .inr ⟨otherFacts, List.mem_cons_of_mem facts recorded, held⟩

theorem Ordered.seedFrom (ordered : Ordered numbering id)
    (success : scope.seedFrom numbering id procedures = .ok seeds) :
    Ordered seeds.numbering (id + procedures.length) := by
  induction procedures generalizing numbering id seeds with
  | nil =>
      cases success
      exact ordered
  | cons procedure rest induction =>
      obtain ⟨facts, between, later, seeded, remaining, rfl⟩ :=
        seedFrom_cons_ok success
      have result := induction (ordered.seedProcedure seeded) remaining
      rwa [Nat.add_right_comm, Nat.add_assoc] at result

end Seeding

end Scope

namespace Program

section Seeding

variable {program : Program} {numbering : Numbering InstructionRef}
  {seeds : Seeds}

theorem isSeeded_scope (id : ProcedureId) (procedure : Procedure) :
    program.scope.isSeeded id procedure =
      (!program.isIgnored procedure &&
        !program.scope.isGuarded id procedure) :=
  rfl

theorem ownWrites_eq_of_seedInto
    (success : program.scope.seedInto numbering = .ok seeds)
    {other : Numbering InstructionRef} {otherSeeds : Seeds}
    (otherSuccess : program.scope.seedInto other = .ok otherSeeds)
    (id : ProcedureId) : otherSeeds.ownWrites id = seeds.ownWrites id := by
  unfold Seeds.ownWrites
  cases listed : seeds.facts[id]? with
  | none =>
      have beyond := List.getElem?_eq_none_iff.mp listed
      rw [(Scope.seedFrom_ok success).2.1,
        ← (Scope.seedFrom_ok otherSuccess).2.1] at beyond
      rw [List.getElem?_eq_none beyond]
  | some facts =>
      obtain ⟨procedure, found, records⟩ := records_of_facts success listed
      obtain ⟨otherFacts, otherListed, otherRecords⟩ :=
        records_of_procedure otherSuccess found
      rw [otherListed]
      exact records.decode_eq otherRecords

theorem ordered_of_seed (success : program.scope.seed = .ok seeds) :
    seeds.numbering.objects.Pairwise InstructionRef.Before := by
  have nothing : Scope.Ordered ∅ 0 :=
    ⟨.nil, fun _ listed => (List.not_mem_nil listed).elim⟩
  exact (nothing.seedFrom success).increasing

theorem distinct_of_seed (success : program.scope.seed = .ok seeds) :
    seeds.numbering.objects.Nodup :=
  InstructionRef.nodup_of_before (ordered_of_seed success)

/-- The numbers from zero on are all given, and each of them is recorded. -/
theorem lt_size_iff_recorded (success : program.scope.seed = .ok seeds)
    {number : Nat} :
    number < seeds.numbering.size ↔
      ∃ facts ∈ seeds.facts, facts.ownWrites.get number = true := by
  constructor
  · intro inRange
    have denotes : seeds.numbering.object? number =
        some (seeds.numbering.objects[number]) :=
      List.getElem?_eq_getElem inRange
    rcases Scope.recorded_of_seedFrom success
      (List.mem_of_getElem? denotes) with old | recorded
    · cases old
    · obtain ⟨facts, listed, known, held, numbered⟩ := recorded
      have same := Numbering.number?_of_object?
        (distinct_of_seed success) denotes
      cases numbered.symm.trans same
      exact ⟨facts, listed, held⟩
  · intro recorded
    obtain ⟨facts, listed, held⟩ := recorded
    obtain ⟨id, found⟩ := List.mem_iff_getElem?.mp listed
    obtain ⟨_, _, records⟩ := records_of_facts success found
    obtain ⟨place, denotes, _⟩ := records.object?_of_get held
    exact (List.getElem?_eq_some_iff.mp denotes).1

end Seeding

/-- Seeding into any table keeps its numbers.  Read as instructions, what it
records for a procedure are the unguarded writes of the procedure, or nothing
when it belongs to the platform or runs under a trusted lock; so another table
gets other numbers for the same writes.  No number is recorded for two
procedures, and seeding into the table that results changes nothing.  An empty
table ends up with the writes in their order, all of them recorded. -/
theorem seeding_loses_nothing (program : Program)
    (numbering : Numbering InstructionRef) (seeds : Seeds)
    (success : program.scope.seedInto numbering = .ok seeds) :
    (∀ place number, numbering.number? place = some number →
      seeds.numbering.number? place = some number) ∧
    (∀ place number, numbering.object? number = some place →
      seeds.numbering.object? number = some place) ∧
    seeds.facts.length = program.procedures.length ∧
    (∀ id procedure, program.procedure? id = some procedure →
      ((program.isIgnored procedure = true ∨
          program.scope.isGuarded id procedure = true) →
        seeds.ownWrites id = ∅) ∧
      (program.isIgnored procedure = false →
        program.scope.isGuarded id procedure = false →
        ∃ writes, program.scope.unguardedWrites id procedure
            (program.scope.trustedBlocks id procedure) = .ok writes ∧
          seeds.ownWrites id = SortedSet.ofList writes)) ∧
    (∀ other, ∃ otherSeeds,
      program.scope.seedInto other = .ok otherSeeds ∧
      ∀ id, otherSeeds.ownWrites id = seeds.ownWrites id) ∧
    (∀ (id other : ProcedureId) (facts otherFacts : ProcedureFacts)
      (number : Nat), seeds.facts[id]? = some facts →
      seeds.facts[other]? = some otherFacts →
      facts.ownWrites.get number = true →
      otherFacts.ownWrites.get number = true → id = other) ∧
    program.scope.seedInto seeds.numbering = .ok seeds ∧
    (numbering = ∅ →
      seeds.numbering.objects.Pairwise InstructionRef.Before ∧
      ∀ number, number < seeds.numbering.size ↔
        ∃ facts ∈ seeds.facts, facts.ownWrites.get number = true) := by
  obtain ⟨grows, sameLength, _⟩ := Scope.seedFrom_ok success
  refine ⟨fun _ _ => grows.number?, fun _ _ => grows.object?, sameLength, ?_,
    ?_, ?_, Scope.seedFrom_again success (.refl _), ?_⟩
  · intro id procedure found
    obtain ⟨facts, listed, records⟩ := records_of_procedure success found
    simp only [Seeds.ownWrites, listed]
    constructor
    · intro exempt
      apply records.decode_of_skipped
      rw [isSeeded_scope]
      rcases exempt with ignored | guarded
      · simp [ignored]
      · simp [guarded]
    · intro audited unguarded
      apply records.decode_of_seeded
      simp [isSeeded_scope, audited, unguarded]
  · intro other
    obtain ⟨otherSeeds, otherSuccess⟩ :=
      Scope.seedFrom_ok_of_ok success other
    exact ⟨otherSeeds, otherSuccess,
      ownWrites_eq_of_seedInto success otherSuccess⟩
  · intro id other facts otherFacts number listed otherListed held otherHeld
    obtain ⟨_, _, records⟩ := records_of_facts success listed
    obtain ⟨_, _, otherRecords⟩ := records_of_facts success otherListed
    obtain ⟨place, denotes, here⟩ := records.object?_of_get held
    obtain ⟨_, alsoDenotes, there⟩ := otherRecords.object?_of_get otherHeld
    cases denotes.symm.trans alsoDenotes
    exact here.symm.trans there
  · intro empty
    subst empty
    exact ⟨ordered_of_seed success, fun _ => lt_size_iff_recorded success⟩

/-- Two methods that write static fields, and between them one that does so
under the lock of the class. -/
def pairedCounter : Program where
  classes :=
    [{ name := "Counter"
       fields :=
        [{ name := "total", isStatic := true },
          { name := "last", isStatic := true }] }]
  procedures :=
    [{ className := "Counter"
       name := "add"
       descriptor := "()V"
       body := some [⟨none, .fieldWrite ⟨"Counter", "total"⟩ none⟩] },
     { className := "Counter"
       name := "reset"
       descriptor := "()V"
       isStatic := true
       isSynchronized := true
       body := some [⟨none, .fieldWrite ⟨"Counter", "total"⟩ none⟩] },
     { className := "Counter"
       name := "store"
       descriptor := "()V"
       body := some
        [⟨none, .fieldWrite ⟨"Counter", "total"⟩ none⟩,
          ⟨none, .fieldWrite ⟨"Counter", "last"⟩ none⟩] }]

/-- One instruction of the table is unknown to the program, and one is its last
write. -/
theorem pairedCounter_loses_nothing :
    ∃ seeds fresh,
      pairedCounter.scope.seedInto ⟨[⟨9, 4⟩, ⟨2, 1⟩]⟩ = .ok seeds ∧
      seeds.numbering.number? ⟨2, 1⟩ = some 1 ∧
      seeds.ownWrites 1 = ∅ ∧
      seeds.ownWrites 2 = .ofList [⟨2, 0⟩, ⟨2, 1⟩] ∧
      pairedCounter.scope.seedInto seeds.numbering = .ok seeds ∧
      pairedCounter.scope.seedInto ∅ = .ok fresh ∧
      fresh.ownWrites 2 = seeds.ownWrites 2 ∧
      fresh.numbering.objects.Pairwise InstructionRef.Before := by
  have computed : (pairedCounter.scope.seedInto ⟨[⟨9, 4⟩, ⟨2, 1⟩]⟩).map
      (·.numbering) = .ok ⟨[⟨9, 4⟩, ⟨2, 1⟩, ⟨0, 0⟩, ⟨2, 0⟩]⟩ := by
    decide +kernel
  obtain ⟨seeds, success, _⟩ := map_eq_ok_iff.mp computed
  obtain ⟨kept, _, _, recorded, others, _, again, _⟩ :=
    seeding_loses_nothing pairedCounter _ seeds success
  obtain ⟨fresh, alsoSuccess, same⟩ := others ∅
  obtain ⟨_, _, _, _, _, _, _, ordered⟩ :=
    seeding_loses_nothing pairedCounter ∅ fresh alsoSuccess
  have guarded := (recorded 1 _ rfl).1 (.inr (by decide +kernel))
  obtain ⟨writes, scanned, decoded⟩ :=
    (recorded 2 _ rfl).2 (by decide +kernel) (by decide +kernel)
  have listed : writes = [⟨2, 0⟩, ⟨2, 1⟩] := by
    have expected : pairedCounter.scope.unguardedWrites 2
        pairedCounter.procedures[2]
        (pairedCounter.scope.trustedBlocks 2 pairedCounter.procedures[2]) =
        .ok [⟨2, 0⟩, ⟨2, 1⟩] := by decide +kernel
    exact Except.ok.inj (scanned.symm.trans expected)
  exact ⟨seeds, fresh, success, kept ⟨2, 1⟩ 1 (by decide), guarded,
    listed ▸ decoded, again, alsoSuccess, same 2, (ordered rfl).1⟩

end Program

end LockAudit
