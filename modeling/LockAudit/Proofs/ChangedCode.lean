import LockAudit.Proofs.CallRelation

/-!
# Changed code

The contract of a program says nothing about instructions, and calls are listed
apart from them.  A program whose code is changed in one procedure is therefore
accepted as before and calls the same procedures.
-/

namespace LockAudit

/-- The procedure with other code, if it has any. -/
def Procedure.changeCode (procedure : Procedure)
    (change : List Instruction → List Instruction) : Procedure :=
  { procedure with body := procedure.body.map change }

theorem Procedure.code_changeCode {procedure : Procedure}
    {code : List Instruction} (hasCode : procedure.body = some code)
    (change : List Instruction → List Instruction) :
    (procedure.changeCode change).code = change procedure.code := by
  simp [Procedure.code, Procedure.changeCode, hasCode]

namespace Program

/-- The program with other code in one procedure. -/
def changeCode (program : Program) (id : ProcedureId)
    (change : List Instruction → List Instruction) : Program :=
  { program with
    procedures := program.procedures.modify id (·.changeCode change) }

variable {program : Program} {id : ProcedureId}
  {change : List Instruction → List Instruction}

theorem procedure?_changeCode (other : ProcedureId) :
    (program.changeCode id change).procedure? other =
      (program.procedure? other).map fun procedure =>
        if id = other then procedure.changeCode change else procedure :=
  List.getElem?_modify _ _ _ _

theorem exists_of_changedCode {other : ProcedureId} {changed : Procedure}
    (found : (program.changeCode id change).procedure? other = some changed) :
    ∃ procedure, program.procedure? other = some procedure ∧
      changed = if id = other then procedure.changeCode change
        else procedure := by
  rw [procedure?_changeCode] at found
  obtain ⟨procedure, foundHere, made⟩ := Option.map_eq_some_iff.mp found
  exact ⟨procedure, foundHere, made.symm⟩

theorem Accepted.changeCode (accepted : program.Accepted) :
    (program.changeCode id change).Accepted := by
  have kept := accepted_iff.mp accepted
  have count : (program.changeCode id change).procedures.length =
      program.procedures.length := List.length_modify _ _ _
  apply accepted_iff.mpr
  refine ⟨kept.fields, kept.names, ?_, ?_, ?_, ?_, kept.statics⟩
  · intro other changed found
    obtain ⟨procedure, foundHere, made⟩ := exists_of_changedCode found
    have declared := kept.declared other procedure foundHere
    rw [made]
    split <;> exact declared
  · intro other changed found
    obtain ⟨procedure, foundHere, made⟩ := exists_of_changedCode found
    have typed := kept.descriptors other procedure foundHere
    rw [made]
    split <;> exact typed
  · intro other changed found
    obtain ⟨procedure, foundHere, made⟩ := exists_of_changedCode found
    have targets := kept.targets other procedure foundHere
    rw [made, count]
    split <;> exact targets
  · intro entry listed
    rw [count]
    exact kept.locals entry listed

theorem callsAt_changeCode_iff {caller callee : ProcedureId}
    {site : SiteNumber} :
    (program.changeCode id change).CallsAt caller site callee ↔
      program.CallsAt caller site callee := by
  constructor
  · intro calls
    obtain ⟨changed, found, called⟩ := calls
    obtain ⟨procedure, foundHere, made⟩ := exists_of_changedCode found
    refine ⟨procedure, foundHere, ?_⟩
    rw [made] at called
    split at called <;> exact called
  · intro calls
    obtain ⟨procedure, found, called⟩ := calls
    refine ⟨_, (procedure?_changeCode caller).trans (congrArg _ found), ?_⟩
    dsimp only
    split <;> exact called

end Program

end LockAudit
