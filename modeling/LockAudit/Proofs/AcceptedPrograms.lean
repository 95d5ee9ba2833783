import LockAudit.Program.Contract

/-!
# Accepted programs

A program is accepted when it keeps every term of the contract.  Its parts may
then rely on them: a class is found by its name, and calls lead to procedures.
-/

namespace LockAudit

theorem ClassDeclaration.find?_eq_some_iff {classes : List ClassDeclaration}
    (distinct : (classes.map (·.name)).Nodup) {name : String}
    {declaration : ClassDeclaration} :
    classes.find? (·.name = name) = some declaration ↔
      declaration ∈ classes ∧ declaration.name = name := by
  induction classes with
  | nil => simp
  | cons head tail induction =>
      obtain ⟨headFresh, tailDistinct⟩ := List.nodup_cons.mp distinct
      have later := induction tailDistinct
      rw [List.find?_cons]
      by_cases same : head.name = name
      · simp only [same, decide_true, Option.some.injEq, List.mem_cons]
        constructor
        · intro first
          exact ⟨.inl first.symm, first ▸ same⟩
        · intro member
          obtain ⟨listed, named⟩ := member
          rcases listed with first | inTail
          · exact first.symm
          · have repeated : head.name ∈ tail.map (·.name) := by
              rw [same, ← named]
              exact List.mem_map_of_mem inTail
            exact (headFresh repeated).elim
      · simp only [same, decide_false, later, List.mem_cons]
        constructor
        · intro member
          obtain ⟨inTail, named⟩ := member
          exact ⟨.inr inTail, named⟩
        · intro member
          obtain ⟨listed, named⟩ := member
          rcases listed with first | inTail
          · exact (same (first ▸ named)).elim
          · exact ⟨inTail, named⟩

namespace Program

theorem duplicateViolations_eq_nil_iff {program : Program} :
    program.duplicateViolations = [] ↔
      (program.classes.map (·.name)).Nodup := by
  simp only [duplicateViolations, ite_eq_left_iff, reduceCtorEq,
    imp_false, Classical.not_not, SortedSet.isEmpty_iff, duplicateNames,
    SortedSet.mem_ofList, List.mem_filter, decide_eq_true_eq, not_and,
    Nat.not_lt]
  rw [List.nodup_iff_count]
  constructor
  · intro single name
    by_cases listed : name ∈ program.classes.map (·.name)
    · exact single name listed
    · rw [List.count_eq_zero.mpr listed]
      exact Nat.zero_le 1
  · intro single name _
    exact single name

theorem procedureViolations_eq_nil_iff {program : Program}
    {procedure : Procedure} {id : ProcedureId} :
    program.procedureViolations procedure id = [] ↔
      (program.class? procedure.className).isSome = true ∧
      (∃ type, methodType procedure.descriptor = .ok type) ∧
      ∀ call ∈ procedure.calls, ∀ target ∈ call.targets,
        target < program.procedures.length := by
  cases typed : methodType procedure.descriptor with
  | error error => simp [procedureViolations, typed]
  | ok type =>
      cases declared : program.class? procedure.className with
      | none => simp [procedureViolations, typed, declared]
      | some declaration => simp [procedureViolations, typed, declared]

/-- What a program has to keep to be accepted, stated about the members of its
parts. -/
structure KeepsContract (program : Program) : Prop where
  fields : ∀ declaration ∈ program.classes, declaration.violations = []
  names : (program.classes.map (·.name)).Nodup
  declared : ∀ id procedure, program.procedure? id = some procedure →
    (program.class? procedure.className).isSome = true
  descriptors : ∀ id procedure, program.procedure? id = some procedure →
    ∃ type, methodType procedure.descriptor = .ok type
  targets : ∀ id procedure, program.procedure? id = some procedure →
    ∀ call ∈ procedure.calls, ∀ target ∈ call.targets,
      target < program.procedures.length
  locals : ∀ entry ∈ program.localPointsTo,
    entry.procedure < program.procedures.length
  statics : ∀ entry ∈ program.staticPointsTo,
    program.declaresStatic entry.className entry.name = true

theorem accepted_iff {program : Program} :
    program.Accepted ↔ program.KeepsContract := by
  have numbered : (∀ entry ∈ program.procedures.zipIdx,
      program.procedureViolations entry.1 entry.2 = []) ↔
      ∀ id procedure, program.procedure? id = some procedure →
        program.procedureViolations procedure id = [] := by
    simp only [Prod.forall, List.mem_zipIdx_iff_getElem?]
    exact forall_comm
  unfold Accepted
  simp only [violations, classViolations, List.append_eq_nil_iff,
    List.flatMap_eq_nil_iff, duplicateViolations_eq_nil_iff, numbered,
    localViolations, staticViolations, List.map_eq_nil_iff,
    List.filter_eq_nil_iff, decide_eq_true_eq, Nat.not_le, Bool.not_eq_true',
    Bool.not_eq_false]
  simp only [procedureViolations_eq_nil_iff]
  constructor
  · intro kept
    obtain ⟨⟨⟨⟨fields, names⟩, procedures⟩, locals⟩, statics⟩ := kept
    exact ⟨fields, names, fun id procedure found =>
        (procedures id procedure found).1,
      fun id procedure found => (procedures id procedure found).2.1,
      fun id procedure found => (procedures id procedure found).2.2, locals,
      statics⟩
  · intro kept
    exact ⟨⟨⟨⟨kept.fields, kept.names⟩, fun id procedure found =>
      ⟨kept.declared id procedure found, kept.descriptors id procedure found,
        kept.targets id procedure found⟩⟩, kept.locals⟩, kept.statics⟩

/-- No two classes have the same name. -/
theorem Accepted.distinctNames {program : Program}
    (accepted : program.Accepted) : (program.classes.map (·.name)).Nodup :=
  (accepted_iff.mp accepted).names

/-- A declared class is the one that is found by its name. -/
theorem Accepted.class?_eq_some_iff {program : Program}
    (accepted : program.Accepted) {name : String}
    {declaration : ClassDeclaration} :
    program.class? name = some declaration ↔
      declaration ∈ program.classes ∧ declaration.name = name :=
  ClassDeclaration.find?_eq_some_iff accepted.distinctNames

/-- Where names are distinct, the order of declarations does not matter. -/
theorem class?_eq_of_perm {left right : Program}
    (permuted : right.classes.Perm left.classes)
    (distinct : (left.classes.map (·.name)).Nodup) (name : String) :
    right.class? name = left.class? name := by
  have rightDistinct : (right.classes.map (·.name)).Nodup :=
    (permuted.map (·.name)).nodup_iff.mpr distinct
  apply Option.ext
  intro declaration
  rw [class?, class?, ClassDeclaration.find?_eq_some_iff rightDistinct,
    ClassDeclaration.find?_eq_some_iff distinct, permuted.mem_iff]

/-- Calls lead to procedures of the program. -/
theorem Accepted.target_lt {program : Program} (accepted : program.Accepted)
    {id : ProcedureId} {procedure : Procedure}
    (found : program.procedure? id = some procedure) {call : CallTargets}
    (listed : call ∈ procedure.calls) {target : ProcedureId}
    (targeted : target ∈ call.targets) :
    target < program.procedures.length :=
  (accepted_iff.mp accepted).targets id procedure found call listed target
    targeted

end Program

end LockAudit
