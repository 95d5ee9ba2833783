import LockAudit.Proofs.LoadedTables
import LockAudit.Proofs.WrittenDescriptors
import Mathlib.Data.List.Lex
import Mathlib.Data.List.NodupEquivFin

/-!
# Breaches of the contract

A program is loaded exactly when each of its parts keeps the contract.  Any
other program is refused, and the error is the breach that comes first in the
order of the checks: field descriptors class by class, duplicate names, then
procedure by procedure its class, its descriptor and its call targets, and last
the points-to entries.
-/

namespace LockAudit

/-- The list is empty when there is nothing to report, and otherwise begins
with the report whose place comes first.  Places are numbers within numbers and
are ordered lexicographically. -/
inductive LedBy (reported : List Nat → α → Prop) : List α → Prop where
  | silent : (∀ place item, ¬reported place item) → LedBy reported []
  | first {place : List Nat} {item : α} {rest : List α} :
      reported place item →
      (∀ other otherItem, reported other otherItem →
        other = place ∨ List.Lex (· < ·) place other) →
      LedBy reported (item :: rest)

theorem LedBy.congr {reported alsoReported : List Nat → α → Prop}
    {items : List α} (led : LedBy reported items)
    (same : ∀ place item, alsoReported place item ↔ reported place item) :
    LedBy alsoReported items := by
  have equal : alsoReported = reported := by
    funext place item
    exact propext (same place item)
  exact equal ▸ led

/-- Reports that are made inside one part of a whole. -/
def Inside (number : Nat) (reported : List Nat → α → Prop)
    (place : List Nat) (item : α) : Prop :=
  ∃ inner, place = number :: inner ∧ reported inner item

theorem LedBy.inside {reported : List Nat → α → Prop} {items : List α}
    (led : LedBy reported items) (number : Nat) :
    LedBy (Inside number reported) items := by
  cases led with
  | silent nothing =>
      refine .silent ?_
      intro place item report
      obtain ⟨inner, _, reportedThere⟩ := report
      exact nothing inner item reportedThere
  | @first place item rest here earliest =>
      refine .first ⟨place, rfl, here⟩ ?_
      intro other otherItem report
      obtain ⟨inner, same, reportedThere⟩ := report
      subst same
      rcases earliest inner otherItem reportedThere with equal | later
      · exact .inl (congrArg _ equal)
      · exact .inr (.cons later)

theorem LedBy.append {reported later : List Nat → α → Prop}
    {items laterItems : List α} (led : LedBy reported items)
    (laterLed : LedBy later laterItems)
    (ordered : ∀ place item other otherItem, reported place item →
      later other otherItem → List.Lex (· < ·) place other) :
    LedBy (fun place item => reported place item ∨ later place item)
      (items ++ laterItems) := by
  cases led with
  | silent nothing =>
      apply laterLed.congr
      intro place item
      simp [nothing]
  | first here earliest =>
      refine .first (.inl here) ?_
      rintro other otherItem (report | report)
      · exact earliest other otherItem report
      · exact .inr (ordered _ _ other otherItem here report)

/-- Reports that are made inside the items of a list, which are numbered from a
number on. -/
def Within (items : List β) (reported : β → List Nat → α → Prop)
    (start : Nat) (place : List Nat) (item : α) : Prop :=
  ∃ index part, items[index]? = some part ∧
    Inside (start + index) (reported part) place item

theorem not_within_nil {reported : β → List Nat → α → Prop} {start : Nat}
    {place : List Nat} {item : α} :
    ¬Within [] reported start place item := by
  simp [Within]

theorem within_cons_iff {head : β} {tail : List β}
    {reported : β → List Nat → α → Prop} {start : Nat} {place : List Nat}
    {item : α} :
    Within (head :: tail) reported start place item ↔
      Inside start (reported head) place item ∨
        Within tail reported (start + 1) place item := by
  constructor
  · intro report
    obtain ⟨index, part, found, inside⟩ := report
    cases index with
    | zero =>
        cases found
        exact .inl inside
    | succ index =>
        refine .inr ⟨index, part, found, ?_⟩
        rwa [Nat.add_right_comm, Nat.add_assoc]
  · rintro (inside | report)
    · exact ⟨0, head, rfl, inside⟩
    · obtain ⟨index, part, found, inside⟩ := report
      refine ⟨index + 1, part, found, ?_⟩
      rwa [Nat.add_right_comm, Nat.add_assoc] at inside

theorem ledBy_flatMap {reported : β → List Nat → α → Prop}
    {report : β → List α} {items : List β}
    (each : ∀ item ∈ items, LedBy (reported item) (report item))
    (start : Nat) :
    LedBy (Within items reported start) (items.flatMap report) := by
  induction items generalizing start with
  | nil => exact .silent fun _ _ => not_within_nil
  | cons head tail induction =>
      obtain ⟨ofHead, ofTail⟩ := List.forall_mem_cons.mp each
      have ordered : ∀ place item other otherItem,
          Inside start (reported head) place item →
          Within tail reported (start + 1) other otherItem →
          List.Lex (· < ·) place other := by
        intro place item other otherItem inHead inTail
        obtain ⟨inner, same, _⟩ := inHead
        obtain ⟨index, _, _, deeper, sameOther, _⟩ := inTail
        subst same sameOther
        exact .rel (by omega)
      rw [List.flatMap_cons]
      apply ((ofHead.inside start).append
        (induction ofTail (start + 1)) ordered).congr
      intro place item
      exact within_cons_iff

/-- A list that begins with the first of its reports. -/
structure Section (α : Type) where
  reported : List Nat → α → Prop
  items : List α
  led : LedBy reported items

/-- Lists one after the other, which are numbered from zero on. -/
theorem ledBy_sections {α : Type} (sections : List (Section α)) :
    LedBy (Within sections Section.reported 0)
      (sections.flatMap Section.items) :=
  ledBy_flatMap (fun part _ => part.led) 0

/-- A check that reports at most once. -/
theorem ledBy_single {items : List α} (few : items.length ≤ 1) :
    LedBy (fun place item => place = [] ∧ item ∈ items) items := by
  cases items with
  | nil => exact .silent (by simp)
  | cons head tail =>
      have alone : tail = [] := by simpa using few
      subst alone
      refine .first ⟨rfl, List.mem_cons_self⟩ ?_
      intro other otherItem report
      exact .inl report.1

/-- A check of every item of a list. -/
theorem ledBy_filterMap (report : β → Option α) (items : List β) :
    LedBy (fun place made => ∃ index, place = [index] ∧
        ∃ item, items[index]? = some item ∧ report item = some made)
      (items.filterMap report) := by
  rw [List.filterMap_eq_flatMap_toList]
  apply (ledBy_flatMap
    (fun _ _ => ledBy_single Option.length_toList_le) 0).congr
  intro place made
  simp only [Within, Inside, Nat.zero_add, Option.mem_toList]
  constructor
  · intro reported
    obtain ⟨index, same, item, found, reportMade⟩ := reported
    exact ⟨index, item, found, [], same, rfl, reportMade⟩
  · intro reported
    obtain ⟨index, item, found, inner, same, alone, reportMade⟩ := reported
    subst alone
    exact ⟨index, same, item, found, reportMade⟩

theorem ledBy_map_filter (test : β → Bool) (change : β → α)
    (items : List β) :
    LedBy (fun place made => ∃ index, place = [index] ∧
        ∃ item, items[index]? = some item ∧ test item = true ∧
          made = change item)
      ((items.filter test).map change) := by
  rw [← List.filterMap_eq_filter, List.map_filterMap]
  have reports : ∀ item made,
      (Option.guard test item).map change = some made ↔
        test item = true ∧ made = change item := by
    intro item made
    by_cases fails : test item = true
    · simp [Option.guard, fails, eq_comm]
    · simp [Option.guard, fails]
  apply (ledBy_filterMap _ _).congr
  intro place made
  simp only [reports]

/-- The error of a step that fails. -/
def failure? : Except ε α → Option ε
  | .ok _ => none
  | .error error => some error

/-- The checks of the contract, by the numbers of the parts that they are
about. -/
inductive ContractCheck where
  | fieldDescriptor (declaration field : Nat)
  | classNames
  | declaringClass (procedure : ProcedureId)
  | methodDescriptor (procedure : ProcedureId)
  | callTarget (procedure : ProcedureId) (call target : Nat)
  | localEntry (entry : Nat)
  | staticEntry (entry : Nat)

/-- The place of a check in the order of all checks. -/
def ContractCheck.place : ContractCheck → List Nat
  | fieldDescriptor declaration field => [0, declaration, field]
  | classNames => [1]
  | declaringClass procedure => [2, procedure, 0]
  | methodDescriptor procedure => [2, procedure, 1]
  | callTarget procedure call target => [2, procedure, 2, call, target]
  | localEntry entry => [3, entry]
  | staticEntry entry => [4, entry]

theorem ContractCheck.place_injective {left right : ContractCheck}
    (same : left.place = right.place) : left = right := by
  cases left <;> cases right <;> simp_all [place]

namespace Program

/-- Two classes have the name. -/
def DeclaredTwice (program : Program) (name : String) : Prop :=
  ∃ (first second : Nat) (earlier later : ClassDeclaration), first < second ∧
    program.classes[first]? = some earlier ∧ earlier.name = name ∧
    program.classes[second]? = some later ∧ later.name = name

/-- The check finds a violation of the contract. -/
def Breach (program : Program) :
    ContractCheck → ContractViolation → Prop
  | .fieldDescriptor declaration field, violation =>
      ∃ owner, program.classes[declaration]? = some owner ∧
        ∃ declared, owner.fields[field]? = some declared ∧
          ∃ text error, declared.descriptor = some text ∧
            fieldType text = .error error ∧
            violation = .fieldDescriptor owner.name declared.name error
  | .classNames, violation =>
      ∃ names : SortedSet String,
        (∀ name, name ∈ names ↔ program.DeclaredTwice name) ∧
        (∃ name, program.DeclaredTwice name) ∧
        violation = .duplicateClasses names
  | .declaringClass id, violation =>
      ∃ procedure, program.procedures[id]? = some procedure ∧
        (∀ declaration ∈ program.classes,
          declaration.name ≠ procedure.className) ∧
        violation =
          .undeclaredClass id procedure.signature procedure.className
  | .methodDescriptor id, violation =>
      ∃ procedure error, program.procedures[id]? = some procedure ∧
        methodType procedure.descriptor = .error error ∧
        violation = .methodDescriptor id procedure.signature error
  | .callTarget id call target, violation =>
      ∃ procedure made callee, program.procedures[id]? = some procedure ∧
        procedure.calls[call]? = some made ∧
        made.targets[target]? = some callee ∧
        program.procedures.length ≤ callee ∧
        violation = .unknownTarget id made.site callee
  | .localEntry entry, violation =>
      ∃ listed, program.localPointsTo[entry]? = some listed ∧
        program.procedures.length ≤ listed.procedure ∧
        violation = .unknownProcedure listed.value listed.procedure
  | .staticEntry entry, violation =>
      ∃ listed, program.staticPointsTo[entry]? = some listed ∧
        (∀ owner, program.class? listed.className = some owner →
          ∀ field, owner.field? listed.name = some field →
            field.isStatic = false) ∧
        violation = .unknownStaticField listed.className listed.name

/-- No check that comes earlier finds a violation. -/
def FirstBreach (program : Program) (violation : ContractViolation) : Prop :=
  ∃ check, program.Breach check violation ∧
    ∀ other otherViolation, program.Breach other otherViolation →
      other = check ∨ List.Lex (· < ·) check.place other.place

variable {program : Program}

theorem Breach.unique {check : ContractCheck} {left right : ContractViolation}
    (leftBreach : program.Breach check left)
    (rightBreach : program.Breach check right) : left = right := by
  cases check with
  | fieldDescriptor declaration field =>
      obtain ⟨owner, found, declared, listed, text, error, described, failed,
        made⟩ := leftBreach
      obtain ⟨other, otherFound, otherDeclared, otherListed, otherText, otherError,
        otherDescribed, otherFailed, otherMade⟩ := rightBreach
      cases found.symm.trans otherFound
      cases listed.symm.trans otherListed
      cases described.symm.trans otherDescribed
      cases failed.symm.trans otherFailed
      exact made.trans otherMade.symm
  | classNames =>
      obtain ⟨names, members, _, made⟩ := leftBreach
      obtain ⟨otherNames, otherMembers, _, otherMade⟩ := rightBreach
      have same : names = otherNames := by
        apply SortedSet.ext
        intro name
        rw [members, otherMembers]
      rw [made, otherMade, same]
  | declaringClass id =>
      obtain ⟨procedure, found, _, made⟩ := leftBreach
      obtain ⟨other, otherFound, _, otherMade⟩ := rightBreach
      cases found.symm.trans otherFound
      exact made.trans otherMade.symm
  | methodDescriptor id =>
      obtain ⟨procedure, error, found, failed, made⟩ := leftBreach
      obtain ⟨other, otherError, otherFound, otherFailed, otherMade⟩ :=
        rightBreach
      cases found.symm.trans otherFound
      cases failed.symm.trans otherFailed
      exact made.trans otherMade.symm
  | callTarget id call target =>
      obtain ⟨procedure, entry, callee, found, called, listed, _, made⟩ :=
        leftBreach
      obtain ⟨other, otherEntry, otherCallee, otherFound, otherCalled,
        otherListed, _, otherMade⟩ := rightBreach
      cases found.symm.trans otherFound
      cases called.symm.trans otherCalled
      cases listed.symm.trans otherListed
      exact made.trans otherMade.symm
  | localEntry entry =>
      obtain ⟨listed, found, _, made⟩ := leftBreach
      obtain ⟨other, otherFound, _, otherMade⟩ := rightBreach
      cases found.symm.trans otherFound
      exact made.trans otherMade.symm
  | staticEntry entry =>
      obtain ⟨listed, found, _, made⟩ := leftBreach
      obtain ⟨other, otherFound, _, otherMade⟩ := rightBreach
      cases found.symm.trans otherFound
      exact made.trans otherMade.symm

theorem ledBy_fields (program : Program) :
    LedBy (fun place violation => ∃ declaration field,
        place = [declaration, field] ∧
          program.Breach (.fieldDescriptor declaration field) violation)
      (program.classes.flatMap ClassDeclaration.violations) := by
  have each : ∀ owner ∈ program.classes, LedBy
      (fun place violation => ∃ field, place = [field] ∧
        ∃ declared, owner.fields[field]? = some declared ∧
          ∃ text error, declared.descriptor = some text ∧
            fieldType text = .error error ∧
            violation = .fieldDescriptor owner.name declared.name error)
      owner.violations := by
    intro owner _
    apply (ledBy_filterMap _ _).congr
    intro place violation
    apply exists_congr
    intro field
    apply and_congr_right
    intro _
    apply exists_congr
    intro declared
    apply and_congr_right
    intro _
    cases described : declared.descriptor with
    | none => simp
    | some text =>
        cases typed : fieldType text with
        | ok type => simp [typed]
        | error error => simp [typed, eq_comm]
  apply (ledBy_flatMap each 0).congr
  intro place violation
  simp only [Within, Inside, Nat.zero_add, Breach]
  constructor
  · intro breach
    obtain ⟨declaration, field, same, owner, found, refused⟩ := breach
    exact ⟨declaration, owner, found, [field], same, field, rfl, refused⟩
  · intro breach
    obtain ⟨declaration, owner, found, _, same, field, inner, refused⟩ := breach
    subst inner
    exact ⟨declaration, field, same, owner, found, refused⟩

theorem declaredTwice_iff {name : String} :
    program.DeclaredTwice name ↔
      1 < (program.classes.map (·.name)).count name := by
  have repeated : 1 < (program.classes.map (·.name)).count name ↔
      ∃ (first second : Fin (program.classes.map (·.name)).length)
        (_ : first < second),
        name = (program.classes.map (·.name)).get first ∧
          name = (program.classes.map (·.name)).get second :=
    List.duplicate_iff_two_le_count.symm.trans
      List.duplicate_iff_exists_distinct_get
  rw [repeated]
  constructor
  · intro twice
    obtain ⟨first, second, earlier, later, less, found, named, laterFound,
      laterNamed⟩ := twice
    obtain ⟨inside, here⟩ := List.getElem?_eq_some_iff.mp found
    obtain ⟨laterInside, there⟩ := List.getElem?_eq_some_iff.mp laterFound
    refine ⟨⟨first, by simpa using inside⟩, ⟨second, by simpa using laterInside⟩,
      less, ?_, ?_⟩
    · simp [here, named]
    · simp [there, laterNamed]
  · intro twice
    obtain ⟨first, second, less, named, laterNamed⟩ := twice
    have inside : first.val < program.classes.length := by
      simpa using first.isLt
    have laterInside : second.val < program.classes.length := by
      simpa using second.isLt
    refine ⟨first, second, _, _, less, List.getElem?_eq_getElem inside, ?_,
      List.getElem?_eq_getElem laterInside, ?_⟩
    · simpa using named.symm
    · simpa using laterNamed.symm

theorem ledBy_names (program : Program) :
    LedBy (fun place violation => place = [] ∧
        program.Breach .classNames violation)
      program.duplicateViolations := by
  have members : ∀ name,
      name ∈ program.duplicateNames ↔ program.DeclaredTwice name := by
    intro name
    simp only [duplicateNames, SortedSet.mem_ofList, List.mem_filter,
      decide_eq_true_eq, declaredTwice_iff]
    constructor
    · exact And.right
    · intro twice
      exact ⟨List.count_pos_iff.mp (Nat.lt_of_succ_lt twice), twice⟩
  have few : program.duplicateViolations.length ≤ 1 := by
    rw [duplicateViolations]
    split <;> simp
  apply (ledBy_single few).congr
  intro place violation
  apply and_congr_right
  intro _
  rw [duplicateViolations]
  by_cases nothing : program.duplicateNames.isEmpty = true
  · have single := SortedSet.isEmpty_iff.mp nothing
    simp [Breach, nothing, ← members, single]
  · have held : program.Breach .classNames
        (.duplicateClasses program.duplicateNames) := by
      refine ⟨program.duplicateNames, members, ?_, rfl⟩
      rw [SortedSet.isEmpty_iff] at nothing
      simpa [members] using nothing
    rw [if_neg nothing, List.mem_singleton]
    constructor
    · intro breach
      exact breach.unique held
    · intro made
      exact made ▸ held

theorem ledBy_targets {id : ProcedureId} {procedure : Procedure}
    (found : program.procedures[id]? = some procedure) :
    LedBy (fun place violation => ∃ call target, place = [call, target] ∧
        program.Breach (.callTarget id call target) violation)
      (procedure.calls.flatMap fun call =>
        (call.targets.filter (program.procedures.length ≤ ·)).map
          (.unknownTarget id call.site)) := by
  have each : ∀ call ∈ procedure.calls, LedBy _ _ := fun call _ =>
    ledBy_map_filter (fun target : ProcedureId =>
        decide (program.procedures.length ≤ target))
      (ContractViolation.unknownTarget id call.site) call.targets
  apply (ledBy_flatMap each 0).congr
  intro place violation
  simp only [Within, Inside, Nat.zero_add, Breach, decide_eq_true_eq]
  constructor
  · intro breach
    obtain ⟨call, target, same, other, made, callee, otherFound, called, listed,
      unknown, reported⟩ := breach
    cases found.symm.trans otherFound
    exact ⟨call, made, called, [target], same, target, rfl, callee, listed,
      unknown, reported⟩
  · intro breach
    obtain ⟨call, made, called, _, same, target, inner, callee, listed, unknown,
      reported⟩ := breach
    subst inner
    exact ⟨call, target, same, procedure, made, callee, found, called, listed,
      unknown, reported⟩

theorem ledBy_locals (program : Program) :
    LedBy (fun place violation => ∃ entry, place = [entry] ∧
        program.Breach (.localEntry entry) violation)
      program.localViolations := by
  apply (ledBy_map_filter _ _ _).congr
  intro place violation
  simp only [Breach, decide_eq_true_eq]

theorem declaresStatic_eq_false_iff {className fieldName : String} :
    program.declaresStatic className fieldName = false ↔
      ∀ owner, program.class? className = some owner →
        ∀ field, owner.field? fieldName = some field →
          field.isStatic = false := by
  unfold declaresStatic
  cases found : program.class? className with
  | none => simp
  | some owner =>
      cases declared : owner.field? fieldName with
      | none => simp [declared]
      | some field => simp [declared]

theorem ledBy_statics (program : Program) :
    LedBy (fun place violation => ∃ entry, place = [entry] ∧
        program.Breach (.staticEntry entry) violation)
      program.staticViolations := by
  apply (ledBy_map_filter _ _ _).congr
  intro place violation
  simp only [Breach, Bool.not_eq_true', declaresStatic_eq_false_iff]

theorem class?_eq_none_iff {className : String} :
    program.class? className = none ↔
      ∀ declaration ∈ program.classes, declaration.name ≠ className := by
  simp [class?]

/-- A violation of a procedure, by the check of the procedure that finds it. -/
def ProcedureBreach (program : Program) (id : ProcedureId) (place : List Nat)
    (violation : ContractViolation) : Prop :=
  (place = [0] ∧ program.Breach (.declaringClass id) violation) ∨
  (place = [1] ∧ program.Breach (.methodDescriptor id) violation) ∨
  ∃ call target, place = [2, call, target] ∧
    program.Breach (.callTarget id call target) violation

theorem ProcedureBreach.exists_procedure {id : ProcedureId}
    {place : List Nat} {violation : ContractViolation}
    (violated : program.ProcedureBreach id place violation) :
    ∃ procedure, program.procedures[id]? = some procedure := by
  rcases violated with ⟨_, procedure, found, _⟩ | ⟨_, procedure, _, found, _⟩ |
    ⟨_, _, _, procedure, _, _, found, _⟩
  · exact ⟨procedure, found⟩
  · exact ⟨procedure, found⟩
  · exact ⟨procedure, found⟩

theorem ledBy_declaringClass {id : ProcedureId} {procedure : Procedure}
    (found : program.procedures[id]? = some procedure) :
    LedBy (fun place violation => place = [] ∧
        program.Breach (.declaringClass id) violation)
      (if (program.class? procedure.className).isSome then []
        else [ContractViolation.undeclaredClass id procedure.signature
          procedure.className]) := by
  apply (ledBy_single (by split <;> simp)).congr
  intro place violation
  apply and_congr_right
  intro _
  have breach : program.Breach (.declaringClass id) violation ↔
      program.class? procedure.className = none ∧
        violation = .undeclaredClass id procedure.signature
          procedure.className := by
    simp [Breach, found, class?_eq_none_iff]
  rw [breach]
  cases program.class? procedure.className with
  | none => simp
  | some declaration => simp

theorem ledBy_methodDescriptor {id : ProcedureId} {procedure : Procedure}
    (found : program.procedures[id]? = some procedure) :
    LedBy (fun place violation => place = [] ∧
        program.Breach (.methodDescriptor id) violation)
      ((failure? (methodType procedure.descriptor)).map
        (ContractViolation.methodDescriptor id procedure.signature)).toList := by
  apply (ledBy_single Option.length_toList_le).congr
  intro place violation
  apply and_congr_right
  intro _
  cases typed : methodType procedure.descriptor with
  | ok type => simp [Breach, found, typed, failure?]
  | error error => simp [Breach, found, typed, failure?, eq_comm]

theorem ledBy_procedure {id : ProcedureId} {procedure : Procedure}
    (found : program.procedures[id]? = some procedure) :
    LedBy (program.ProcedureBreach id)
      (program.procedureViolations procedure id) := by
  let sections : List (Section ContractViolation) :=
    [⟨_, _, ledBy_declaringClass found⟩, ⟨_, _, ledBy_methodDescriptor found⟩,
      ⟨_, _, ledBy_targets found⟩]
  have listed : sections.flatMap Section.items =
      program.procedureViolations procedure id := by
    cases typed : methodType procedure.descriptor with
    | ok type => simp [sections, procedureViolations, typed, failure?]
    | error error => simp [sections, procedureViolations, typed, failure?]
  rw [← listed]
  apply (ledBy_sections sections).congr
  intro place violation
  simp only [sections, within_cons_iff, not_within_nil, or_false, Inside,
    ProcedureBreach]
  constructor
  · rintro (⟨same, breach⟩ | ⟨same, breach⟩ | ⟨call, target, same, breach⟩)
    · exact .inl ⟨[], same, rfl, breach⟩
    · exact .inr (.inl ⟨[], same, rfl, breach⟩)
    · exact .inr (.inr ⟨[call, target], same, call, target, rfl, breach⟩)
  · rintro (⟨_, same, inner, breach⟩ | ⟨_, same, inner, breach⟩ |
      ⟨_, same, call, target, inner, breach⟩)
    · exact .inl ⟨inner ▸ same, breach⟩
    · exact .inr (.inl ⟨inner ▸ same, breach⟩)
    · exact .inr (.inr ⟨call, target, inner ▸ same, breach⟩)

theorem ledBy_procedures (program : Program) :
    LedBy (fun place violation => ∃ id inner, place = id :: inner ∧
        program.ProcedureBreach id inner violation)
      (program.procedures.zipIdx.flatMap fun entry =>
        program.procedureViolations entry.1 entry.2) := by
  have each : ∀ entry ∈ program.procedures.zipIdx,
      LedBy (program.ProcedureBreach entry.2)
        (program.procedureViolations entry.1 entry.2) := by
    intro entry listed
    exact ledBy_procedure (List.mem_zipIdx_iff_getElem?.mp listed)
  apply (ledBy_flatMap each 0).congr
  intro place violation
  simp only [Within, Inside, Nat.zero_add]
  constructor
  · intro breach
    obtain ⟨id, inner, same, violated⟩ := breach
    obtain ⟨procedure, found⟩ := violated.exists_procedure
    exact ⟨id, (procedure, id), by simp [found], inner, same, violated⟩
  · intro breach
    obtain ⟨index, entry, found, inner, same, violated⟩ := breach
    have numbered : entry.2 = index := by
      obtain ⟨_, _, entryEq⟩ := by
        simpa [List.getElem?_zipIdx] using found
      simp [← entryEq]
    exact ⟨index, inner, same, numbered ▸ violated⟩

/-- Sections are numbered as the places of their checks begin. -/
theorem ledBy_violations (program : Program) :
    LedBy (fun place violation => ∃ check : ContractCheck,
        place = check.place ∧ program.Breach check violation)
      program.violations := by
  let sections : List (Section ContractViolation) :=
    [⟨_, _, ledBy_fields program⟩, ⟨_, _, ledBy_names program⟩,
      ⟨_, _, ledBy_procedures program⟩, ⟨_, _, ledBy_locals program⟩,
      ⟨_, _, ledBy_statics program⟩]
  have listed : sections.flatMap Section.items = program.violations := by
    simp [sections, violations, classViolations]
  rw [← listed]
  apply (ledBy_sections sections).congr
  intro place violation
  simp only [sections, within_cons_iff, not_within_nil, or_false, Inside]
  constructor
  · intro breach
    obtain ⟨check, same, breach⟩ := breach
    cases check with
    | fieldDescriptor declaration field =>
        exact .inl ⟨_, same, declaration, field, rfl, breach⟩
    | classNames => exact .inr (.inl ⟨_, same, rfl, breach⟩)
    | declaringClass id =>
        exact .inr (.inr (.inl ⟨_, same, id, _, rfl, .inl ⟨rfl, breach⟩⟩))
    | methodDescriptor id =>
        exact .inr (.inr (.inl ⟨_, same, id, _, rfl,
          .inr (.inl ⟨rfl, breach⟩)⟩))
    | callTarget id call target =>
        exact .inr (.inr (.inl ⟨_, same, id, _, rfl,
          .inr (.inr ⟨call, target, rfl, breach⟩)⟩))
    | localEntry entry =>
        exact .inr (.inr (.inr (.inl ⟨_, same, entry, rfl, breach⟩)))
    | staticEntry entry =>
        exact .inr (.inr (.inr (.inr ⟨_, same, entry, rfl, breach⟩)))
  · rintro (⟨_, same, declaration, field, rfl, breach⟩ |
      ⟨_, same, rfl, breach⟩ | ⟨_, same, id, _, rfl, violated⟩ |
      ⟨_, same, entry, rfl, breach⟩ | ⟨_, same, entry, rfl, breach⟩)
    · exact ⟨.fieldDescriptor declaration field, same, breach⟩
    · exact ⟨.classNames, same, breach⟩
    · rcases violated with ⟨rfl, breach⟩ | ⟨rfl, breach⟩ |
        ⟨call, target, rfl, breach⟩
      · exact ⟨.declaringClass id, same, breach⟩
      · exact ⟨.methodDescriptor id, same, breach⟩
      · exact ⟨.callTarget id call target, same, breach⟩
    · exact ⟨.localEntry entry, same, breach⟩
    · exact ⟨.staticEntry entry, same, breach⟩

theorem FirstBreach.unique {left right : ContractViolation}
    (leftFirst : program.FirstBreach left)
    (rightFirst : program.FirstBreach right) : left = right := by
  obtain ⟨check, breach, earliest⟩ := leftFirst
  obtain ⟨other, otherBreach, otherEarliest⟩ := rightFirst
  rcases earliest other right otherBreach with same | later
  · subst same
    exact breach.unique otherBreach
  · rcases otherEarliest check left breach with same | earlier
    · subst same
      exact breach.unique otherBreach
    · exact (Std.Asymm.asymm _ _ later earlier).elim

theorem violations_eq_nil_or_first (program : Program) :
    (program.violations = [] ∧ ∀ violation, ¬program.FirstBreach violation) ∨
      ∃ violation rest, program.violations = violation :: rest ∧
        program.FirstBreach violation := by
  have led := ledBy_violations program
  cases listed : program.violations with
  | nil =>
      rw [listed] at led
      cases led with
      | silent nothing =>
          refine .inl ⟨rfl, ?_⟩
          intro violation first
          obtain ⟨check, breach, _⟩ := first
          exact nothing check.place violation ⟨check, rfl, breach⟩
  | cons violation rest =>
      rw [listed] at led
      cases led with
      | first here earliest =>
          obtain ⟨check, same, breach⟩ := here
          refine .inr ⟨violation, rest, rfl, check, breach, ?_⟩
          intro other otherViolation otherBreach
          rcases earliest other.place otherViolation
              ⟨other, rfl, otherBreach⟩ with equal | later
          · exact .inl (ContractCheck.place_injective (equal.trans same))
          · exact .inr (same ▸ later)

theorem check_eq_error_iff {error : LoadError} :
    program.check = .error error ↔
      ∃ violation, error = .inconsistent violation ∧
        program.FirstBreach violation := by
  rw [check]
  rcases violations_eq_nil_or_first program with
    ⟨listed, nothing⟩ | ⟨violation, rest, listed, first⟩
  · simp [listed, nothing]
  · simp only [listed, Except.error.injEq]
    constructor
    · intro same
      exact ⟨violation, same.symm, first⟩
    · intro refused
      obtain ⟨other, same, otherFirst⟩ := refused
      rw [same, first.unique otherFirst]

/-- The terms of the contract. -/
structure Consistent (program : Program) : Prop where
  fieldTypes : ∀ declaration ∈ program.classes,
    ∀ field ∈ declaration.fields, ∀ text, field.descriptor = some text →
      ∃ type, TypeDescriptor.parse text = .ok type ∧ type ≠ .plain .void
  distinctNames : (program.classes.map (·.name)).Nodup
  declaringClasses : ∀ procedure ∈ program.procedures,
    ∃ declaration ∈ program.classes,
      declaration.name = procedure.className
  methodTypes : ∀ procedure ∈ program.procedures,
    ∃ method, MethodDescriptor.parse procedure.descriptor = .ok method
  callTargets : ∀ procedure ∈ program.procedures,
    ∀ call ∈ procedure.calls, ∀ target ∈ call.targets,
      target < program.procedures.length
  localEntries : ∀ entry ∈ program.localPointsTo,
    entry.procedure < program.procedures.length
  staticEntries : ∀ entry ∈ program.staticPointsTo,
    ∃ declaration ∈ program.classes, declaration.name = entry.className ∧
      ∃ field, declaration.field? entry.name = some field ∧
        field.isStatic = true

theorem violations_eq_nil_iff {declaration : ClassDeclaration} :
    declaration.violations = [] ↔
      ∀ field ∈ declaration.fields, ∀ text, field.descriptor = some text →
        ∃ type, TypeDescriptor.parse text = .ok type ∧
          type ≠ .plain .void := by
  rw [ClassDeclaration.violations, List.filterMap_eq_nil_iff]
  apply forall₂_congr
  intro field _
  simp only [← fieldType_eq_ok_iff]
  cases described : field.descriptor with
  | none => simp
  | some text => cases typed : fieldType text <;> simp [typed]

theorem forall_procedure?_iff {holds : Procedure → Prop} :
    (∀ id procedure, program.procedure? id = some procedure →
      holds procedure) ↔ ∀ procedure ∈ program.procedures, holds procedure := by
  simp only [procedure?, List.mem_iff_getElem?]
  constructor
  · intro each procedure listed
    obtain ⟨id, found⟩ := listed
    exact each id procedure found
  · intro each id procedure found
    exact each procedure ⟨id, found⟩

theorem isSome_class?_iff {className : String} :
    (program.class? className).isSome = true ↔
      ∃ declaration ∈ program.classes, declaration.name = className := by
  simp [class?]

theorem declaresStatic_iff
    (distinct : (program.classes.map (·.name)).Nodup)
    {className fieldName : String} :
    program.declaresStatic className fieldName = true ↔
      ∃ declaration ∈ program.classes, declaration.name = className ∧
        ∃ field, declaration.field? fieldName = some field ∧
          field.isStatic = true := by
  have found : ∀ declaration, program.class? className = some declaration ↔
      declaration ∈ program.classes ∧ declaration.name = className :=
    fun _ => ClassDeclaration.find?_eq_some_iff distinct
  rw [← Bool.not_eq_false, declaresStatic_eq_false_iff]
  simp only [found, Classical.not_forall, exists_prop, Bool.not_eq_false,
    and_assoc]

theorem accepted_iff_consistent : program.Accepted ↔ program.Consistent := by
  rw [accepted_iff]
  constructor
  · intro kept
    exact {
      fieldTypes := fun declaration listed =>
        violations_eq_nil_iff.mp (kept.fields declaration listed)
      distinctNames := kept.names
      declaringClasses := fun procedure listed => isSome_class?_iff.mp
        (forall_procedure?_iff.mp kept.declared procedure listed)
      methodTypes := fun procedure listed => (exists_congr fun _ =>
        mapError_eq_ok_iff).mp
          (forall_procedure?_iff.mp kept.descriptors procedure listed)
      callTargets := forall_procedure?_iff.mp kept.targets
      localEntries := kept.locals
      staticEntries := fun entry listed =>
        (declaresStatic_iff kept.names).mp (kept.statics entry listed) }
  · intro consistent
    exact {
      fields := fun declaration listed =>
        violations_eq_nil_iff.mpr (consistent.fieldTypes declaration listed)
      names := consistent.distinctNames
      declared := forall_procedure?_iff.mpr fun procedure listed =>
        isSome_class?_iff.mpr (consistent.declaringClasses procedure listed)
      descriptors := forall_procedure?_iff.mpr fun procedure listed =>
        (exists_congr fun _ => mapError_eq_ok_iff).mpr
          (consistent.methodTypes procedure listed)
      targets := forall_procedure?_iff.mpr consistent.callTargets
      locals := consistent.localEntries
      statics := fun entry listed =>
        (declaresStatic_iff consistent.distinctNames).mpr
          (consistent.staticEntries entry listed) }

theorem check_eq_ok_iff {loaded : Program} :
    program.check = .ok loaded ↔ loaded = program ∧ program.Consistent := by
  rw [← accepted_iff_consistent, Accepted, check]
  cases program.violations with
  | nil => simp [eq_comm]
  | cons violation rest => simp

theorem exists_tabulate_eq_ok_iff :
    (∃ tables, program.tabulate = .ok tables) ↔ program.Consistent := by
  simp [tabulate_eq_ok_iff, accepted_iff_consistent]

theorem answers_of_tabulate_eq_ok {tables : ProgramTables}
    (success : program.tabulate = .ok tables) : tables.Answers program := by
  obtain ⟨_, same⟩ := tabulate_eq_ok_iff.mp success
  rw [same]
  exact program.tables_answer

theorem tabulate_eq_error_iff_firstBreach {violation : ContractViolation} :
    program.tabulate = .error violation ↔ program.FirstBreach violation := by
  rw [tabulate_eq_error_iff, check_eq_error_iff]
  simp

theorem eq_empty_of_absent {objects : SortedSet InstanceKey} {entries : List α}
    {keyed : α → Prop} {instances : α → List InstanceKey}
    (members : ∀ object, object ∈ objects ↔
      ∃ entry ∈ entries, keyed entry ∧ object ∈ instances entry)
    (absent : ∀ entry ∈ entries, ¬keyed entry) : objects = ∅ := by
  apply SortedSet.ext
  intro object
  simp only [members, SortedSet.not_mem_empty, iff_false]
  intro held
  obtain ⟨entry, listed, keyedSo, _⟩ := held
  exact absent entry listed keyedSo

/-- A program is loaded exactly when it is consistent.  What may be held is then
the union of all entries of a key, and nothing where there is no entry.  Any
other program is refused with its first breach of the contract.  The loops that
check a program while they enter its parts into tables end in the same way, and
the tables answer as the program does. -/
theorem check_agrees_with_contract (program : Program) :
    (∀ loaded, program.check = .ok loaded ↔
      loaded = program ∧ program.Consistent) ∧
    (∀ loaded, program.check = .ok loaded →
      (∀ id value object, object ∈ loaded.pointsToLocal id value ↔
        program.LocalMayHold id value object) ∧
      (∀ id value, (∀ entry ∈ program.localPointsTo,
          ¬(entry.procedure = id ∧ entry.value = value)) →
        loaded.pointsToLocal id value = ∅) ∧
      (∀ className fieldName object,
        object ∈ loaded.pointsToStatic className fieldName ↔
          program.StaticMayHold className fieldName object) ∧
      (∀ className fieldName, (∀ entry ∈ program.staticPointsTo,
          ¬(entry.className = className ∧ entry.name = fieldName)) →
        loaded.pointsToStatic className fieldName = ∅)) ∧
    (∀ error, program.check = .error error ↔
      ∃ violation, error = .inconsistent violation ∧
        program.FirstBreach violation) ∧
    ((∃ tables, program.tabulate = .ok tables) ↔ program.Consistent) ∧
    (∀ tables, program.tabulate = .ok tables → tables.Answers program) ∧
    ∀ violation, program.tabulate = .error violation ↔
      program.FirstBreach violation := by
  refine ⟨fun _ => check_eq_ok_iff, ?_, fun _ => check_eq_error_iff,
    exists_tabulate_eq_ok_iff, fun _ => answers_of_tabulate_eq_ok,
    fun _ => tabulate_eq_error_iff_firstBreach⟩
  intro loaded success
  obtain ⟨same, _⟩ := check_eq_ok_iff.mp success
  subst same
  exact ⟨fun _ _ _ => mem_pointsToLocal,
    fun _ _ => eq_empty_of_absent fun _ => mem_pointsToLocal,
    fun _ _ _ => mem_pointsToStatic,
    fun _ _ => eq_empty_of_absent fun _ => mem_pointsToStatic⟩

/-- Entries of one key, for a static field whose name a later field has too. -/
def splitEntries : Program where
  classes :=
    [{ name := "Counter"
       fields := [{ name := "lock", descriptor := some "I", isStatic := true },
         { name := "lock" }] }]
  procedures := [{ className := "Counter", name := "add", descriptor := "()V" }]
  localPointsTo := [⟨0, 1, [7, 5]⟩, ⟨0, 2, [4]⟩, ⟨0, 1, [6, 5]⟩]
  staticPointsTo := [⟨"Counter", "lock", [5]⟩, ⟨"Counter", "lock", [3]⟩]

/-- Two classes of one name, the second of which has a field without a type,
and a method that is not one of a class. -/
def brokenCopies : Program where
  classes :=
    [{ name := "Counter" },
     { name := "Counter"
       fields := [{ name := "size", descriptor := some "V" }] }]
  procedures := [{ className := "Store", name := "add", descriptor := "(" }]

theorem splitEntries_loaded :
    splitEntries.check = .ok splitEntries ∧ splitEntries.Consistent ∧
      (6 ∈ splitEntries.pointsToLocal 0 1 ↔
        splitEntries.LocalMayHold 0 1 6) ∧
      splitEntries.pointsToLocal 0 3 = ∅ ∧
      splitEntries.pointsToStatic "Counter" "size" = ∅ ∧
      (∃ tables, splitEntries.tabulate = .ok tables ∧
        tables.pointsToLocal 0 1 = .ofList [5, 6, 7]) ∧
      brokenCopies.FirstBreach
        (.fieldDescriptor "Counter" "size" (.voidField "V")) ∧
      brokenCopies.tabulate = .error
        (.fieldDescriptor "Counter" "size" (.voidField "V")) := by
  have success : splitEntries.check = .ok splitEntries := by rfl
  obtain ⟨loads, holds, _, tabulates, answers, _⟩ :=
    check_agrees_with_contract splitEntries
  obtain ⟨locals, noLocals, _, noStatics⟩ := holds splitEntries success
  have consistent := ((loads _).mp success).2
  obtain ⟨tables, made⟩ := tabulates.mpr consistent
  have joined : tables.pointsToLocal 0 1 = .ofList [5, 6, 7] :=
    ((answers tables made).pointsToLocal 0 1).trans (by rfl)
  obtain ⟨_, _, refused, _, _, ends⟩ :=
    check_agrees_with_contract brokenCopies
  have failure : brokenCopies.check = .error (.inconsistent
      (.fieldDescriptor "Counter" "size" (.voidField "V"))) := by rfl
  obtain ⟨violation, same, first⟩ := (refused _).mp failure
  cases same
  exact ⟨success, consistent, locals 0 1 6, noLocals 0 3 (by decide),
    noStatics "Counter" "size" (by decide), ⟨tables, made, joined⟩, first,
    (ends _).mpr first⟩

end Program

end LockAudit
