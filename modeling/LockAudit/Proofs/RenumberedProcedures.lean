import LockAudit.Proofs.RelocatedCode
import Mathlib.Data.Fin.Basic
import Mathlib.Data.List.OfFn
import Mathlib.Logic.Equiv.Basic

/-!
# Renumbered procedures

Procedures are numbered by their order in the program, and calls and points-to
entries go by these numbers.  When the procedures are put in another order, and
calls and entries follow, an audit ends alike: it reaches the same writes under
their new numbers and reports the same findings in some order.
-/

namespace LockAudit

/-- The procedure whose calls go by other numbers. -/
def Procedure.renumber (procedure : Procedure)
    (number : ProcedureId → ProcedureId) : Procedure :=
  { procedure with
    calls := procedure.calls.map fun call =>
      { call with targets := call.targets.map number } }

namespace Program

/-- The new numbers of procedures.  A number that no procedure has is kept. -/
def newNumber (program : Program)
    (order : Equiv.Perm (Fin program.procedures.length)) :
    Equiv.Perm ProcedureId :=
  order.extendDomain Fin.equivSubtype

/-- The program with its procedures in another order. -/
def renumber (program : Program)
    (order : Equiv.Perm (Fin program.procedures.length)) : Program :=
  { program with
    procedures := List.ofFn fun id =>
      (program.procedures.get (order.symm id)).renumber
        (program.newNumber order)
    localPointsTo := program.localPointsTo.map fun entry =>
      { entry with procedure := program.newNumber order entry.procedure } }

section Renumbering

variable {program : Program}
  {order : Equiv.Perm (Fin program.procedures.length)}

theorem newNumber_of_lt {id : ProcedureId}
    (inRange : id < program.procedures.length) :
    program.newNumber order id = (order ⟨id, inRange⟩ : Nat) :=
  order.extendDomain_apply_subtype Fin.equivSubtype inRange

theorem newNumber_of_not_lt {id : ProcedureId}
    (outOfRange : ¬id < program.procedures.length) :
    program.newNumber order id = id :=
  order.extendDomain_apply_not_subtype Fin.equivSubtype outOfRange

theorem newNumber_lt_iff {id : ProcedureId} :
    program.newNumber order id < program.procedures.length ↔
      id < program.procedures.length := by
  by_cases inRange : id < program.procedures.length
  · rw [newNumber_of_lt inRange]
    exact iff_of_true (order ⟨id, inRange⟩).isLt inRange
  · rw [newNumber_of_not_lt inRange]

theorem length_procedures_renumber :
    (program.renumber order).procedures.length =
      program.procedures.length :=
  List.length_ofFn

/-- A procedure is found under its new number. -/
theorem procedure?_renumber (id : ProcedureId) :
    (program.renumber order).procedure? (program.newNumber order id) =
      (program.procedure? id).map
        (·.renumber (program.newNumber order)) := by
  by_cases inRange : id < program.procedures.length
  · have found : program.procedure? id = some (program.procedures.get
        ⟨id, inRange⟩) := List.getElem?_eq_getElem inRange
    rw [found, newNumber_of_lt inRange, procedure?, renumber,
      List.getElem?_ofFn]
    simp
  · have missing : program.procedure? id = none :=
      List.getElem?_eq_none (Nat.le_of_not_lt inRange)
    have stillMissing : (program.renumber order).procedure? id = none := by
      apply List.getElem?_eq_none
      rw [length_procedures_renumber]
      exact Nat.le_of_not_lt inRange
    rw [newNumber_of_not_lt inRange, missing, stillMissing]
    rfl

theorem callsAt_renumber {caller target : ProcedureId} {site : SiteNumber} :
    (program.renumber order).CallsAt (program.newNumber order caller) site
        target ↔
      ∃ callee, program.newNumber order callee = target ∧
        program.CallsAt caller site callee := by
  simp only [CallsAt, procedure?_renumber, Option.map_eq_some_iff]
  constructor
  · intro calls
    obtain ⟨_, ⟨procedure, found, rfl⟩, call, listed, sameSite,
      targeted⟩ := calls
    obtain ⟨old, oldListed, rfl⟩ := List.mem_map.mp listed
    obtain ⟨callee, oldTargeted, reached⟩ := List.mem_map.mp targeted
    exact ⟨callee, reached, procedure, found, old, oldListed, sameSite,
      oldTargeted⟩
  · intro calls
    obtain ⟨callee, reached, procedure, found, call, listed, sameSite,
      targeted⟩ := calls
    subst reached
    exact ⟨_, ⟨procedure, found, rfl⟩, _, List.mem_map_of_mem listed, sameSite,
      List.mem_map_of_mem targeted⟩

theorem pointsToLocal_renumber (id : ProcedureId) (value : ValueNumber) :
    (program.renumber order).pointsToLocal (program.newNumber order id)
      value = program.pointsToLocal id value := by
  apply SortedSet.ext
  intro object
  rw [mem_pointsToLocal, mem_pointsToLocal]
  constructor
  · intro held
    obtain ⟨_, listed, ⟨sameId, sameValue⟩, member⟩ := held
    obtain ⟨entry, oldListed, rfl⟩ := List.mem_map.mp listed
    have same := (program.newNumber order).injective sameId
    exact ⟨entry, oldListed, ⟨same, sameValue⟩, member⟩
  · intro held
    obtain ⟨entry, listed, ⟨sameId, sameValue⟩, member⟩ := held
    exact ⟨_, List.mem_map_of_mem listed,
      ⟨congrArg (program.newNumber order) sameId, sameValue⟩, member⟩

/-- Procedures move, and the instructions of each keep their indices. -/
def renumbering (program : Program)
    (order : Equiv.Perm (Fin program.procedures.length)) : Relocation where
  procedure := (program.newNumber order).toEmbedding
  index := fun _ => .refl Nat

theorem carries_renumber (id : ProcedureId) (procedure : Procedure) :
    program.Carries (program.renumber order) (program.renumbering order) id
      procedure (procedure.renumber (program.newNumber order)) where
  heading := ⟨rfl, rfl, rfl, rfl, rfl⟩
  isStatic := rfl
  isSynchronized := rfl
  locals := pointsToLocal_renumber id
  moved := fun _ _ listed => listed
  origin := fun index _ listed _ => ⟨index, rfl, listed⟩
  inBlock := fun _ _ _ _ => Iff.rfl

theorem relocates_renumber (program : Program)
    (order : Equiv.Perm (Fin program.procedures.length)) :
    program.Relocates (program.renumber order)
      (program.renumbering order) where
  classes := .refl _
  lookup := fun _ => rfl
  statics := fun _ _ _ => rfl
  moved := by
    intro id procedure found
    refine ⟨procedure.renumber (program.newNumber order), ?_,
      carries_renumber id procedure⟩
    exact (procedure?_renumber id).trans (congrArg _ found)
  origin := by
    intro id procedure found
    obtain ⟨origin, there⟩ := (program.newNumber order).surjective id
    subst there
    rw [procedure?_renumber] at found
    obtain ⟨old, oldFound, _⟩ := Option.map_eq_some_iff.mp found
    exact ⟨origin, old, rfl, oldFound⟩
  calls := fun _ _ _ => callsAt_renumber

theorem forall_procedure?_renumber {property : Procedure → Prop} :
    (∀ id procedure,
      (program.renumber order).procedure? id = some procedure →
        property procedure) ↔
      ∀ id procedure, program.procedure? id = some procedure →
        property (procedure.renumber (program.newNumber order)) := by
  rw [(program.newNumber order).surjective.forall]
  simp only [procedure?_renumber, Option.map_eq_some_iff,
    forall_exists_index, and_imp, forall_apply_eq_imp_iff₂]

/-- Call targets lead to procedures under the new numbers as under the old
ones. -/
theorem targets_lt_renumber_iff {procedure : Procedure} :
    (∀ call ∈ (procedure.renumber (program.newNumber order)).calls,
      ∀ target ∈ call.targets, target < program.procedures.length) ↔
      ∀ call ∈ procedure.calls, ∀ target ∈ call.targets,
        target < program.procedures.length := by
  simp only [Procedure.renumber, List.forall_mem_map, newNumber_lt_iff]

theorem accepted_renumber_iff :
    (program.renumber order).Accepted ↔ program.Accepted := by
  rw [accepted_iff, accepted_iff]
  constructor
  · intro kept
    have targets := kept.targets
    have locals := kept.locals
    rw [length_procedures_renumber] at targets locals
    refine ⟨kept.fields, kept.names,
      forall_procedure?_renumber.mp kept.declared,
      forall_procedure?_renumber.mp kept.descriptors, ?_, ?_, kept.statics⟩
    · intro id procedure found
      exact targets_lt_renumber_iff.mp
        (forall_procedure?_renumber.mp targets id procedure found)
    · intro entry listed
      exact newNumber_lt_iff.mp (locals _ (List.mem_map_of_mem listed))
  · intro kept
    refine ⟨kept.fields, kept.names,
      forall_procedure?_renumber.mpr kept.declared,
      forall_procedure?_renumber.mpr kept.descriptors, ?_, ?_, kept.statics⟩
    · refine forall_procedure?_renumber.mpr ?_
      intro id procedure found
      rw [length_procedures_renumber]
      exact targets_lt_renumber_iff.mpr (kept.targets id procedure found)
    · intro entry listed
      obtain ⟨old, oldListed, rfl⟩ := List.mem_map.mp listed
      rw [length_procedures_renumber]
      exact newNumber_lt_iff.mpr (kept.locals old oldListed)

end Renumbering

/-- Putting the procedures of a program in another order changes neither
whether it is accepted nor whether an audit that is not stopped succeeds.  From
each procedure the audit then reaches the same writes under their new numbers,
and its findings are the same up to their order. -/
theorem procedure_order_only_permutes_findings (program : Program)
    (order : Equiv.Perm (Fin program.procedures.length)) :
    ((program.renumber order).Accepted ↔ program.Accepted) ∧
    (program.Accepted → ∀ signal : StopSignal, signal.Silent →
      ((∃ outcome, (program.renumber order).audit
          (program.renumber order).callGraph signal = .ok outcome) ↔
        ∃ outcome, program.audit program.callGraph signal = .ok outcome) ∧
      ∀ outcome renumbered,
        program.audit program.callGraph signal = .ok outcome →
        (program.renumber order).audit (program.renumber order).callGraph
          signal = .ok renumbered →
        renumbered.findings.Perm outcome.findings ∧
        (renumbered.reach = none ↔ outcome.reach = none) ∧
        ∀ reach renumberedReach, outcome.reach = some reach →
          renumbered.reach = some renumberedReach →
          ∀ id place,
            ⟨program.newNumber order place.procedure, place.index⟩ ∈
                renumberedReach.writes (program.newNumber order id) ↔
              place ∈ reach.writes id) := by
  have relocates := program.relocates_renumber order
  refine ⟨accepted_renumber_iff, ?_⟩
  intro accepted signal silent
  have renumberedAccepted : (program.renumber order).Accepted :=
    accepted_renumber_iff.mpr accepted
  refine ⟨relocates.audit_succeeds_iff accepted renumberedAccepted silent, ?_⟩
  intro outcome renumbered success renumberedSuccess
  refine ⟨relocates.findings_perm accepted renumberedAccepted success
      renumberedSuccess,
    relocates.reach_eq_none_iff accepted renumberedAccepted success
      renumberedSuccess, ?_⟩
  intro reach renumberedReach reached renumberedReached id place
  exact relocates.mem_writes_iff accepted renumberedAccepted success
    renumberedSuccess reached renumberedReached

/-- A block that calls a method with another block. -/
def chainedCounter : Program where
  classes :=
    [{ name := "Counter", fields := [{ name := "total", isStatic := true }] }]
  procedures :=
    [{ className := "Counter"
       name := "add"
       descriptor := "()V"
       body := some
        [⟨some 3, .monitorEnter 2⟩, ⟨none, .invoke 0⟩, ⟨none, .monitorExit 2⟩]
       calls := [⟨0, [1]⟩] },
     { className := "Counter"
       name := "store"
       descriptor := "()V"
       body := some
        [⟨some 7, .monitorEnter 2⟩,
          ⟨none, .fieldWrite ⟨"Counter", "total"⟩ none⟩,
          ⟨none, .monitorExit 2⟩] }]
  localPointsTo := [⟨0, 2, [5]⟩, ⟨1, 2, [6]⟩]

/-- The two methods of the counter change places. -/
def chainedOrder : Equiv.Perm (Fin chainedCounter.procedures.length) :=
  Equiv.swap ⟨0, by decide⟩ ⟨1, by decide⟩

theorem chainedCounter_renumbered :
    chainedCounter.Accepted ∧ StopSignal.Silent {} ∧
      (chainedCounter.renumber chainedOrder).Accepted ∧
      ∃ outcome renumbered,
        chainedCounter.audit chainedCounter.callGraph {} = .ok outcome ∧
        (chainedCounter.renumber chainedOrder).audit
          (chainedCounter.renumber chainedOrder).callGraph {} =
            .ok renumbered ∧
        outcome.findings.map (·.position.line) = [some 3, some 7] ∧
        renumbered.findings.map (·.position.line) = [some 7, some 3] ∧
        renumbered.findings.Perm outcome.findings ∧
        ∀ reach renumberedReach, outcome.reach = some reach →
          renumbered.reach = some renumberedReach →
          (⟨0, 1⟩ ∈ renumberedReach.writes 1 ↔ ⟨1, 1⟩ ∈ reach.writes 0) := by
  have accepted : chainedCounter.Accepted := by decide +kernel
  obtain ⟨alsoAccepted, audits⟩ :=
    procedure_order_only_permutes_findings chainedCounter chainedOrder
  obtain ⟨_, compared⟩ := audits accepted {} StopSignal.silent_default
  have computed : (chainedCounter.audit chainedCounter.callGraph {}).map
      (·.findings.map (·.position.line)) = .ok [some 3, some 7] := by
    decide +kernel
  have renumberedComputed : ((chainedCounter.renumber chainedOrder).audit
      (chainedCounter.renumber chainedOrder).callGraph {}).map
        (·.findings.map (·.position.line)) = .ok [some 7, some 3] := by
    decide +kernel
  obtain ⟨outcome, success, lines⟩ := map_eq_ok_iff.mp computed
  obtain ⟨renumbered, renumberedSuccess, renumberedLines⟩ :=
    map_eq_ok_iff.mp renumberedComputed
  obtain ⟨permuted, _, writes⟩ :=
    compared outcome renumbered success renumberedSuccess
  refine ⟨accepted, StopSignal.silent_default, alsoAccepted.mpr accepted,
    outcome, renumbered, success, renumberedSuccess, lines, renumberedLines,
    permuted, ?_⟩
  intro reach renumberedReach reached renumberedReached
  exact writes reach renumberedReach reached renumberedReached 0 ⟨1, 1⟩

end Program

end LockAudit
