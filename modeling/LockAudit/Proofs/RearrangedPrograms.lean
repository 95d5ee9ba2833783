import LockAudit.Proofs.OpaqueCode

/-!
# Rearranged programs

A program lists its classes, calls and points-to entries in some order, and may
name a key or a call target more than once.  Neither leaves a trace: programs
that list the same declarations, keys, objects and targets are accepted alike,
answer every question alike and have the same audit under every signal.
-/

namespace LockAudit

/-- The procedures are the same, and their call sites have the same targets. -/
structure Procedure.SameTargets (left right : Procedure) : Prop where
  same : { left with calls := right.calls } = right
  targets : ∀ site target,
    (∃ call ∈ right.calls, call.site = site ∧ target ∈ call.targets) ↔
      ∃ call ∈ left.calls, call.site = site ∧ target ∈ call.targets

theorem Procedure.SameTargets.symm {left right : Procedure}
    (same : left.SameTargets right) : right.SameTargets left where
  same := by rw [← same.same]
  targets := fun site target => (same.targets site target).symm

namespace Program

/-- Some entry is about the value. -/
def NamesLocal (program : Program) (id : ProcedureId) (value : ValueNumber) :
    Prop :=
  ∃ entry ∈ program.localPointsTo, entry.procedure = id ∧ entry.value = value

/-- Some entry is about the static field. -/
def NamesStatic (program : Program) (className fieldName : String) : Prop :=
  ∃ entry ∈ program.staticPointsTo,
    entry.className = className ∧ entry.name = fieldName

/-- The programs have the same procedures and list the same classes, call
targets, keys and objects, in any order and any number of times. -/
structure Rearranges (left right : Program) : Prop where
  classes : right.classes.Perm left.classes
  procedures : List.Forall₂ Procedure.SameTargets left.procedures
    right.procedures
  localKeys : ∀ id value, right.NamesLocal id value ↔ left.NamesLocal id value
  locals : ∀ id value object, right.LocalMayHold id value object ↔
    left.LocalMayHold id value object
  staticKeys : ∀ className fieldName,
    right.NamesStatic className fieldName ↔
      left.NamesStatic className fieldName
  statics : ∀ className fieldName object,
    right.StaticMayHold className fieldName object ↔
      left.StaticMayHold className fieldName object

section Rearranged

variable {left right : Program} (rearranges : left.Rearranges right)

include rearranges

theorem Rearranges.symm : right.Rearranges left where
  classes := rearranges.classes.symm
  procedures := by
    apply List.Forall₂.flip
    exact rearranges.procedures.imp fun _ _ same => same.symm
  localKeys := fun id value => (rearranges.localKeys id value).symm
  locals := fun id value object => (rearranges.locals id value object).symm
  staticKeys := fun className fieldName =>
    (rearranges.staticKeys className fieldName).symm
  statics := fun className fieldName object =>
    (rearranges.statics className fieldName object).symm

theorem Rearranges.count :
    right.procedures.length = left.procedures.length :=
  rearranges.procedures.length_eq.symm

theorem Rearranges.sameTargets {id : ProcedureId}
    {leftProcedure rightProcedure : Procedure}
    (found : left.procedure? id = some leftProcedure)
    (rightFound : right.procedure? id = some rightProcedure) :
    leftProcedure.SameTargets rightProcedure := by
  have related := forall₂_getElem? rearranges.procedures id
  rw [← procedure?, ← procedure?, found, rightFound] at related
  cases related with
  | some related => exact related

theorem Rearranges.exists_procedure {id : ProcedureId}
    {rightProcedure : Procedure}
    (rightFound : right.procedure? id = some rightProcedure) :
    ∃ leftProcedure, left.procedure? id = some leftProcedure ∧
      leftProcedure.SameTargets rightProcedure := by
  obtain ⟨leftProcedure, found⟩ :=
    exists_procedure_of_count rearranges.count.symm rightFound
  exact ⟨leftProcedure, found, rearranges.sameTargets found rightFound⟩

theorem Rearranges.lookup (distinct : (left.classes.map (·.name)).Nodup)
    (name : String) : right.class? name = left.class? name :=
  class?_eq_of_perm rearranges.classes distinct name

theorem Rearranges.accepted (accepted : left.Accepted) : right.Accepted := by
  have kept := accepted_iff.mp accepted
  have lookup := rearranges.lookup kept.names
  apply accepted_iff.mpr
  constructor
  · intro declaration listed
    exact kept.fields declaration (rearranges.classes.mem_iff.mp listed)
  · exact (rearranges.classes.map (·.name)).nodup_iff.mpr kept.names
  · intro id procedure found
    obtain ⟨leftProcedure, leftFound, same⟩ :=
      rearranges.exists_procedure found
    rw [lookup, ← same.same]
    exact kept.declared id leftProcedure leftFound
  · intro id procedure found
    obtain ⟨leftProcedure, leftFound, same⟩ :=
      rearranges.exists_procedure found
    rw [← same.same]
    exact kept.descriptors id leftProcedure leftFound
  · intro id procedure found call listed target targeted
    obtain ⟨leftProcedure, leftFound, same⟩ :=
      rearranges.exists_procedure found
    obtain ⟨leftCall, leftListed, _, leftTargeted⟩ :=
      (same.targets call.site target).mp ⟨call, listed, rfl, targeted⟩
    rw [rearranges.count]
    exact kept.targets id leftProcedure leftFound leftCall leftListed target
      leftTargeted
  · intro entry listed
    obtain ⟨leftEntry, leftListed, sameId, _⟩ :=
      (rearranges.localKeys entry.procedure entry.value).mp
        ⟨entry, listed, rfl, rfl⟩
    rw [rearranges.count, ← sameId]
    exact kept.locals leftEntry leftListed
  · intro entry listed
    obtain ⟨leftEntry, leftListed, sameClass, sameField⟩ :=
      (rearranges.staticKeys entry.className entry.name).mp
        ⟨entry, listed, rfl, rfl⟩
    have declared := kept.statics leftEntry leftListed
    rw [sameClass, sameField] at declared
    simpa only [declaresStatic, lookup] using declared

theorem Rearranges.accepted_iff : right.Accepted ↔ left.Accepted :=
  ⟨rearranges.symm.accepted, rearranges.accepted⟩

theorem Rearranges.pointsToLocal_eq (id : ProcedureId) (value : ValueNumber) :
    right.pointsToLocal id value = left.pointsToLocal id value := by
  apply SortedSet.ext
  intro object
  rw [mem_pointsToLocal, mem_pointsToLocal, rearranges.locals]

theorem Rearranges.pointsToStatic_eq (className fieldName : String) :
    right.pointsToStatic className fieldName =
      left.pointsToStatic className fieldName := by
  apply SortedSet.ext
  intro object
  rw [mem_pointsToStatic, mem_pointsToStatic, rearranges.statics]

theorem Rearranges.callsAt {caller callee : ProcedureId} {site : SiteNumber}
    (calls : right.CallsAt caller site callee) :
    left.CallsAt caller site callee := by
  obtain ⟨procedure, found, called⟩ := calls
  obtain ⟨leftProcedure, leftFound, same⟩ := rearranges.exists_procedure found
  exact ⟨leftProcedure, leftFound, (same.targets site callee).mp called⟩

theorem Rearranges.callsAt_iff (caller : ProcedureId) (site : SiteNumber)
    (callee : ProcedureId) :
    right.CallsAt caller site callee ↔ left.CallsAt caller site callee :=
  ⟨rearranges.callsAt, rearranges.symm.callsAt⟩

theorem Rearranges.sameAudited (accepted : left.Accepted) :
    left.SameAudited right where
  classes := rearranges.classes
  lookup := rearranges.lookup accepted.distinctNames
  statics := fun className fieldName _ =>
    rearranges.pointsToStatic_eq className fieldName
  count := rearranges.count
  className := by
    intro id leftProcedure rightProcedure found rightFound
    rw [← (rearranges.sameTargets found rightFound).same]
  code := by
    intro id leftProcedure rightProcedure found rightFound _
    rw [← (rearranges.sameTargets found rightFound).same]
    exact ⟨⟨⟨rfl, rfl, rfl, rfl, rfl⟩, rfl, rfl,
      rearranges.pointsToLocal_eq id⟩, rfl⟩

end Rearranged

/-- Programs that differ only in how they list their classes, call targets and
points-to entries are accepted alike.  When they are accepted, they have the
same static fields, the same points-to sets and the same call graph, and under
every signal the same audit, whether it succeeds, fails or is stopped. -/
theorem rearrangement_changes_nothing (left right : Program)
    (rearranges : left.Rearranges right) :
    (right.Accepted ↔ left.Accepted) ∧
    (left.Accepted →
      right.staticFields = left.staticFields ∧
      (∀ id value,
        right.pointsToLocal id value = left.pointsToLocal id value) ∧
      (∀ className fieldName,
        right.pointsToStatic className fieldName =
          left.pointsToStatic className fieldName) ∧
      right.callGraph = left.callGraph ∧
      ∀ signal, right.audit right.callGraph signal =
        (left.audit left.callGraph signal).map (·.transfer right)) := by
  refine ⟨rearranges.accepted_iff, ?_⟩
  intro accepted
  have same := rearranges.sameAudited accepted
  refine ⟨same.staticFields_eq, rearranges.pointsToLocal_eq,
    rearranges.pointsToStatic_eq,
    callGraph_eq_of_callsAt rearranges.count rearranges.callsAt_iff, ?_⟩
  exact same.audit_eq_of_callsAt accepted (rearranges.accepted accepted)
    rearranges.callsAt_iff

/-- A block that calls a method of another class, whose receiver may be one of
two objects. -/
def storedCounter : Program where
  classes :=
    [{ name := "Counter", fields := [{ name := "guard", isStatic := true }] },
     { name := "Store", fields := [{ name := "total", isStatic := true }] }]
  procedures :=
    [{ className := "Counter"
       name := "add"
       descriptor := "()V"
       body := some
        [⟨some 3, .monitorEnter 2⟩, ⟨none, .invoke 0⟩, ⟨none, .monitorExit 2⟩]
       calls := [⟨0, [1]⟩] },
     { className := "Store"
       name := "put"
       descriptor := "()V"
       isSynchronized := true
       body := some [⟨none, .fieldWrite ⟨"Store", "total"⟩ none⟩] }]
  localPointsTo := [⟨1, 1, [5, 6]⟩]
  staticPointsTo := [⟨"Counter", "guard", [5]⟩]

/-- The same counter: classes come in the other order, a target is repeated, and
an entry is split into parts that overlap. -/
def scatteredCounter : Program :=
  { storedCounter with
    classes := storedCounter.classes.reverse
    procedures := storedCounter.procedures.map fun procedure =>
      { procedure with calls := procedure.calls ++ procedure.calls }
    localPointsTo := [⟨1, 1, [6]⟩, ⟨1, 1, []⟩, ⟨1, 1, [6, 5]⟩]
    staticPointsTo := [⟨"Counter", "guard", []⟩, ⟨"Counter", "guard", [5]⟩] }

theorem storedCounter_rearranges :
    storedCounter.Rearranges scatteredCounter where
  classes := List.reverse_perm _
  procedures := by
    rw [scatteredCounter, List.forall₂_map_right_iff]
    apply List.forall₂_same.mpr
    intro procedure _
    exact ⟨rfl, by simp⟩
  localKeys := by
    intro id value
    simp [NamesLocal, scatteredCounter, storedCounter]
  locals := by
    intro id value object
    simp only [LocalMayHold, scatteredCounter, storedCounter, List.mem_cons,
      List.not_mem_nil, or_false, exists_eq_or_imp, exists_eq_left]
    grind
  staticKeys := by
    intro className fieldName
    simp [NamesStatic, scatteredCounter, storedCounter]
  statics := by
    intro className fieldName object
    simp [StaticMayHold, scatteredCounter, storedCounter]

theorem scatteredCounter_audited_alike :
    storedCounter.Rearranges scatteredCounter ∧ storedCounter.Accepted ∧
      scatteredCounter.Accepted ∧
      scatteredCounter.callGraph = storedCounter.callGraph ∧
      ∃ outcome,
        storedCounter.audit storedCounter.callGraph {} = .ok outcome ∧
        outcome.findings.map (·.position.methodName) = ["add", "put"] ∧
        scatteredCounter.audit scatteredCounter.callGraph {} =
          .ok (outcome.transfer scatteredCounter) := by
  have accepted : storedCounter.Accepted := by decide +kernel
  obtain ⟨alsoAccepted, alike⟩ := rearrangement_changes_nothing storedCounter
    scatteredCounter storedCounter_rearranges
  obtain ⟨_, _, _, graph, audits⟩ := alike accepted
  have computed : (storedCounter.audit storedCounter.callGraph {}).map
      (·.findings.map (·.position.methodName)) = .ok ["add", "put"] := by
    decide +kernel
  obtain ⟨outcome, success, methods⟩ := map_eq_ok_iff.mp computed
  have audited := audits {}
  rw [success] at audited
  exact ⟨storedCounter_rearranges, accepted, alsoAccepted.mpr accepted, graph,
    outcome, success, methods, audited⟩

end Program

end LockAudit
