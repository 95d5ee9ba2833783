import LockAudit.Program.Query
import Mathlib.Data.List.Nodup
import Mathlib.Data.List.Perm.Subperm

/-!
# Inherited fields

A field is looked for in the class that a reference names and then in one
superclass after another.  What is found is the nearest declaration, whatever
the superclasses are: not declared, missing, or in a cycle.  A search that
remembers the names it has passed and ends at the first one that comes again
finds the same, and looks into no class twice.
-/

namespace LockAudit.Program

variable {program : Program}

/-- The class so many steps up from a class, through declared classes only. -/
def ancestor? (program : Program) : Nat → String → Option ClassDeclaration
  | 0, className => program.class? className
  | steps + 1, className =>
      ((program.class? className).bind (·.superName)).bind
        (program.ancestor? steps)

/-- The class so many steps up is the first one that declares the field. -/
structure Nearest (program : Program) (field : FieldReference) (steps : Nat)
    (declaration : ClassDeclaration) (found : FieldDeclaration) : Prop where
  reached : program.ancestor? steps field.className = some declaration
  declares : declaration.field? field.name = some found
  passed : ∀ earlier < steps, ∀ other,
    program.ancestor? earlier field.className = some other →
      other.field? field.name = none

theorem name_of_class? {className : String} {declaration : ClassDeclaration}
    (found : program.class? className = some declaration) :
    declaration.name = className := by
  simpa using List.find?_some found

/-- The declared classes whose names are not passed yet. -/
def unpassed (program : Program) (passed : List String) :
    List ClassDeclaration :=
  program.classes.filter (·.name ∉ passed)

theorem length_unpassed_lt {className : String}
    {declaration : ClassDeclaration} {passed : List String}
    (found : program.class? className = some declaration)
    (fresh : className ∉ passed) :
    (program.unpassed (className :: passed)).length <
      (program.unpassed passed).length := by
  have narrower : program.unpassed (className :: passed) =
      (program.unpassed passed).filter (·.name ≠ className) := by
    simp [unpassed, List.filter_filter, not_or]
  rw [narrower]
  apply List.length_filter_lt_length_iff_exists.mpr
  refine ⟨declaration, ?_, by simpa using name_of_class? found⟩
  refine List.mem_filter.mpr ⟨List.mem_of_find?_eq_some found, ?_⟩
  simpa [name_of_class? found] using fresh

/-- The classes that a search looks into when it remembers the names it has
passed.  From a class that does not declare the field it goes on to the
superclass, unless that was passed before. -/
def searchedFrom (program : Program) (fieldName : String)
    (passed : List String) (className : String) : List ClassDeclaration :=
  if _ : className ∉ passed then
    match _ : program.class? className with
    | none => []
    | some declaration =>
        match declaration.field? fieldName, declaration.superName with
        | none, some superName =>
            declaration ::
              program.searchedFrom fieldName (className :: passed) superName
        | _, _ => [declaration]
  else []
termination_by (program.unpassed passed).length
decreasing_by exact length_unpassed_lt ‹_› ‹_›

/-- The classes that the search for a field looks into. -/
def searched (program : Program) (field : FieldReference) :
    List ClassDeclaration :=
  program.searchedFrom field.name [] field.className

theorem ancestor?_succ {className superName : String}
    {declaration : ClassDeclaration} (steps : Nat)
    (found : program.class? className = some declaration)
    (inherits : declaration.superName = some superName) :
    program.ancestor? (steps + 1) className =
      program.ancestor? steps superName := by
  simp [ancestor?, found, inherits]

theorem exists_superclass_of_ancestor? {className : String} {steps : Nat}
    {declaration : ClassDeclaration}
    (reached : program.ancestor? (steps + 1) className = some declaration) :
    ∃ child superName, program.class? className = some child ∧
      child.superName = some superName ∧
      program.ancestor? steps superName = some declaration := by
  rw [ancestor?] at reached
  obtain ⟨superName, parent, above⟩ := Option.bind_eq_some_iff.mp reached
  obtain ⟨child, found, inherits⟩ := Option.bind_eq_some_iff.mp parent
  exact ⟨child, superName, found, inherits, above⟩

/-- The way on from a class depends on its name only. -/
theorem ancestor?_add {className : String} {steps : Nat}
    {declaration : ClassDeclaration}
    (reached : program.ancestor? steps className = some declaration)
    (further : Nat) :
    program.ancestor? (steps + further) className =
      program.ancestor? further declaration.name := by
  induction steps generalizing className with
  | zero => rw [Nat.zero_add, name_of_class? reached]
  | succ steps induction =>
      obtain ⟨child, superName, found, inherits, above⟩ :=
        exists_superclass_of_ancestor? reached
      rw [Nat.succ_add, ancestor?_succ _ found inherits]
      exact induction above

/-- No class comes again before the field is found: from there on the search
would have found it sooner. -/
theorem Nearest.name_ne {field : FieldReference} {steps : Nat}
    {declaration : ClassDeclaration} {found : FieldDeclaration}
    (nearest : program.Nearest field steps declaration found) {later : Nat}
    (before : later < steps) {other : ClassDeclaration}
    (reached : program.ancestor? (later + 1) field.className = some other) :
    other.name ≠ field.className := by
  intro again
  have sooner : program.ancestor? (steps - (later + 1)) field.className =
      some declaration := by
    rw [← again, ← ancestor?_add reached, Nat.add_sub_cancel' before]
    exact nearest.reached
  have missing := nearest.passed _ (by omega) _ sooner
  simp [nearest.declares] at missing

theorem nearest_succ_iff {className superName fieldName : String}
    {child declaration : ClassDeclaration} {found : FieldDeclaration}
    {steps : Nat} (childFound : program.class? className = some child)
    (missing : child.field? fieldName = none)
    (inherits : child.superName = some superName) :
    program.Nearest ⟨className, fieldName⟩ (steps + 1) declaration found ↔
      program.Nearest ⟨superName, fieldName⟩ steps declaration found := by
  constructor
  · intro nearest
    obtain ⟨reached, declares, passed⟩ := nearest
    rw [ancestor?_succ _ childFound inherits] at reached
    refine ⟨reached, declares, ?_⟩
    intro earlier before other otherReached
    apply passed (earlier + 1) (Nat.succ_lt_succ before)
    rw [ancestor?_succ _ childFound inherits]
    exact otherReached
  · intro nearest
    obtain ⟨reached, declares, passed⟩ := nearest
    rw [← ancestor?_succ _ childFound inherits] at reached
    refine ⟨reached, declares, ?_⟩
    intro earlier before other otherReached
    cases earlier with
    | zero =>
        cases childFound.symm.trans otherReached
        exact missing
    | succ earlier =>
        rw [ancestor?_succ _ childFound inherits] at otherReached
        exact passed earlier (Nat.lt_of_succ_lt_succ before) other otherReached

/-- A field is found in the class itself, or else from the superclass on. -/
theorem nearest_iff {className fieldName : String} {steps : Nat}
    {declaration : ClassDeclaration} {found : FieldDeclaration} :
    program.Nearest ⟨className, fieldName⟩ steps declaration found ↔
      ∃ child, program.class? className = some child ∧
        ((child.field? fieldName = some found ∧ steps = 0 ∧
            declaration = child) ∨
          child.field? fieldName = none ∧
            ∃ superName fewer, child.superName = some superName ∧
              steps = fewer + 1 ∧
              program.Nearest ⟨superName, fieldName⟩ fewer declaration
                found) := by
  constructor
  · intro nearest
    cases steps with
    | zero =>
        exact ⟨declaration, nearest.reached,
          .inl ⟨nearest.declares, rfl, rfl⟩⟩
    | succ steps =>
        obtain ⟨child, superName, childFound, inherits, _⟩ :=
          exists_superclass_of_ancestor? nearest.reached
        have missing : child.field? fieldName = none :=
          nearest.passed 0 (Nat.succ_pos steps) child childFound
        exact ⟨child, childFound, .inr ⟨missing, superName, steps, inherits, rfl,
          (nearest_succ_iff childFound missing inherits).mp nearest⟩⟩
  · intro search
    obtain ⟨child, childFound, here | above⟩ := search
    · obtain ⟨declares, atOnce, same⟩ := here
      subst atOnce same
      exact ⟨childFound, declares, by simp⟩
    · obtain ⟨missing, superName, fewer, inherits, more, nearest⟩ := above
      subst more
      exact (nearest_succ_iff childFound missing inherits).mpr nearest

theorem nearest_of_resolveFrom {fieldName className : String} {fuel : Nat}
    {resolved : ResolvedField}
    (success : program.resolveFrom fieldName fuel className = some resolved) :
    ∃ steps declaration found,
      program.Nearest ⟨className, fieldName⟩ steps declaration found ∧
        resolved = ⟨declaration.name, found⟩ := by
  fun_induction resolveFrom program fieldName fuel className with
  | case1 => cases success
  | case2 => cases success
  | case3 fuel className declaration classFound field declares =>
      cases success
      exact ⟨0, declaration, field, nearest_iff.mpr
        ⟨declaration, classFound, .inl ⟨declares, rfl, rfl⟩⟩, rfl⟩
  | case4 => cases success
  | case5 fuel className child classFound missing superName inherits induction =>
      obtain ⟨steps, declaration, found, nearest, same⟩ := induction success
      exact ⟨steps + 1, declaration, found,
        (nearest_succ_iff classFound missing inherits).mpr nearest, same⟩

theorem resolveFrom_of_nearest {fieldName className : String} {fuel steps : Nat}
    {declaration : ClassDeclaration} {found : FieldDeclaration}
    (nearest : program.Nearest ⟨className, fieldName⟩ steps declaration found)
    (enough : steps < fuel) :
    program.resolveFrom fieldName fuel className =
      some ⟨declaration.name, found⟩ := by
  induction fuel generalizing className steps with
  | zero => cases enough
  | succ fuel induction =>
      obtain ⟨child, classFound, here | above⟩ := nearest_iff.mp nearest
      · obtain ⟨declares, _, same⟩ := here
        simp [resolveFrom, classFound, declares, same]
      · obtain ⟨missing, superName, fewer, inherits, more, nearestAbove⟩ := above
        simp only [resolveFrom, classFound, missing, inherits]
        exact induction nearestAbove (by omega)

/-- The search reaches the nearest declaration unless a name on the way was
passed before it began. -/
theorem searchedFrom_of_nearest {fieldName className : String}
    {passed : List String} {steps : Nat} {declaration : ClassDeclaration}
    {found : FieldDeclaration}
    (nearest :
      program.Nearest ⟨className, fieldName⟩ steps declaration found)
    (fresh : ∀ earlier ≤ steps, ∀ other,
      program.ancestor? earlier className = some other →
        other.name ∉ passed) :
    ∃ before, before.length = steps ∧
      program.searchedFrom fieldName passed className =
        before ++ [declaration] := by
  fun_induction searchedFrom program fieldName passed className
    generalizing steps with
  | case1 passed className unseen undeclared =>
      obtain ⟨child, childFound, _⟩ := nearest_iff.mp nearest
      simp [undeclared] at childFound
  | case2 passed className unseen child childFound superName inherits missing
      induction =>
      obtain ⟨again, againFound, here | above⟩ := nearest_iff.mp nearest
      · cases childFound.symm.trans againFound
        simp [missing] at here
      · cases childFound.symm.trans againFound
        obtain ⟨_, parent, fewer, alsoInherits, more, nearestAbove⟩ := above
        cases inherits.symm.trans alsoInherits
        subst more
        have freshAbove : ∀ earlier ≤ fewer, ∀ other,
            program.ancestor? earlier superName = some other →
              other.name ∉ className :: passed := by
          intro earlier within other reached
          rw [← ancestor?_succ _ childFound inherits] at reached
          have different : other.name ≠ className :=
            nearest.name_ne (Nat.lt_succ_of_le within) reached
          have unpassed := fresh _ (Nat.succ_le_succ within) other reached
          simp [different, unpassed]
        obtain ⟨before, length, searched⟩ := induction nearestAbove freshAbove
        exact ⟨child :: before, by simp [length], by simp [searched]⟩
  | case3 passed className unseen child childFound ends =>
      obtain ⟨again, againFound, here | above⟩ := nearest_iff.mp nearest
      · cases childFound.symm.trans againFound
        obtain ⟨_, atOnce, same⟩ := here
        exact ⟨[], atOnce.symm, by simp [same]⟩
      · cases childFound.symm.trans againFound
        obtain ⟨missing, superName, _, inherits, _⟩ := above
        exact (ends superName missing inherits).elim
  | case4 passed className seen =>
      obtain ⟨child, childFound, _⟩ := nearest_iff.mp nearest
      have unpassed := fresh 0 (Nat.zero_le steps) child childFound
      rw [name_of_class? childFound] at unpassed
      exact (seen unpassed).elim

theorem nearest_of_searchedFrom {fieldName className : String}
    {passed : List String} {declaration : ClassDeclaration}
    {found : FieldDeclaration}
    (last : (program.searchedFrom fieldName passed className).getLast? =
      some declaration)
    (declares : declaration.field? fieldName = some found) :
    ∃ steps,
      program.Nearest ⟨className, fieldName⟩ steps declaration found := by
  fun_induction searchedFrom program fieldName passed className with
  | case1 => cases last
  | case2 passed className unseen child childFound superName inherits missing
      induction =>
      rw [List.getLast?_cons] at last
      cases later : (program.searchedFrom fieldName (className :: passed)
          superName).getLast? with
      | none =>
          rw [later] at last
          cases last
          simp [missing] at declares
      | some other =>
          rw [later] at last
          cases last
          obtain ⟨steps, nearest⟩ := induction later
          exact ⟨steps + 1,
            (nearest_succ_iff childFound missing inherits).mpr nearest⟩
  | case3 passed className unseen child childFound ends =>
      cases last
      exact ⟨0, nearest_iff.mpr
        ⟨child, childFound, .inl ⟨declares, rfl, rfl⟩⟩⟩
  | case4 => cases last

/-- The search looks into declared classes, none of which was passed before and
no two of which have the same name. -/
theorem searchedFrom_fresh (fieldName className : String)
    (passed : List String) :
    (∀ declaration ∈ program.searchedFrom fieldName passed className,
      declaration ∈ program.classes ∧ declaration.name ∉ passed) ∧
    ((program.searchedFrom fieldName passed className).map
      (·.name)).Nodup := by
  fun_induction searchedFrom program fieldName passed className with
  | case1 => simp
  | case2 passed className unseen child childFound superName inherits missing
      induction =>
      have named := name_of_class? childFound
      obtain ⟨listed, distinct⟩ := induction
      constructor
      · intro declaration member
        rcases List.mem_cons.mp member with first | later
        · subst first
          exact ⟨List.mem_of_find?_eq_some childFound, named ▸ unseen⟩
        · obtain ⟨declared, fresh⟩ := listed declaration later
          exact ⟨declared, fun again => fresh (List.mem_cons_of_mem _ again)⟩
      · refine List.nodup_cons.mpr ⟨?_, distinct⟩
        intro again
        obtain ⟨declaration, later, same⟩ := List.mem_map.mp again
        obtain ⟨_, fresh⟩ := listed declaration later
        apply fresh
        rw [same.trans named]
        exact List.mem_cons_self
  | case3 passed className unseen child childFound ends =>
      have named := name_of_class? childFound
      simpa [named] using ⟨List.mem_of_find?_eq_some childFound, unseen⟩
  | case4 => simp

/-- The search follows the superclass chain. -/
theorem ancestor?_of_searchedFrom {fieldName className : String}
    {passed : List String} {steps : Nat} {declaration : ClassDeclaration}
    (looked : (program.searchedFrom fieldName passed className)[steps]? =
      some declaration) :
    program.ancestor? steps className = some declaration := by
  fun_induction searchedFrom program fieldName passed className
    generalizing steps with
  | case1 => simp at looked
  | case2 passed className unseen child childFound superName inherits missing
      induction =>
      cases steps with
      | zero =>
          cases looked
          exact childFound
      | succ steps =>
          rw [ancestor?_succ _ childFound inherits]
          exact induction looked
  | case3 passed className unseen child childFound ends =>
      cases steps with
      | zero =>
          cases looked
          exact childFound
      | succ steps => simp at looked
  | case4 => simp at looked

theorem length_searched_le (program : Program) (field : FieldReference) :
    (program.searched field).length ≤ program.classes.length := by
  obtain ⟨declared, distinct⟩ :=
    program.searchedFrom_fresh field.name field.className []
  apply List.Subperm.length_le
  refine List.Nodup.subperm (List.Nodup.of_map _ distinct) ?_
  intro declaration looked
  exact (declared declaration looked).1

theorem searched_of_nearest {field : FieldReference} {steps : Nat}
    {declaration : ClassDeclaration} {found : FieldDeclaration}
    (nearest : program.Nearest field steps declaration found) :
    ∃ before, before.length = steps ∧
      program.searched field = before ++ [declaration] :=
  searchedFrom_of_nearest nearest (by simp)

/-- A search that ends in a cycle has found nothing: the bound on the number of
classes cuts off no declaration. -/
theorem Nearest.lt_length {field : FieldReference} {steps : Nat}
    {declaration : ClassDeclaration} {found : FieldDeclaration}
    (nearest : program.Nearest field steps declaration found) :
    steps < program.classes.length := by
  obtain ⟨before, length, searched⟩ := searched_of_nearest nearest
  have bounded := program.length_searched_le field
  rw [searched, List.length_append, length] at bounded
  exact bounded

theorem resolveField_eq_some_iff {field : FieldReference}
    {resolved : ResolvedField} :
    program.resolveField field = some resolved ↔
      ∃ steps declaration found,
        program.Nearest field steps declaration found ∧
          resolved = ⟨declaration.name, found⟩ := by
  constructor
  · exact nearest_of_resolveFrom
  · intro search
    obtain ⟨steps, declaration, found, nearest, same⟩ := search
    rw [same]
    exact resolveFrom_of_nearest nearest nearest.lt_length

theorem resolveField_eq_last (field : FieldReference) :
    program.resolveField field =
      (program.searched field).getLast?.bind fun declaration =>
        (declaration.field? field.name).map (⟨declaration.name, ·⟩) := by
  apply Option.ext
  intro resolved
  rw [Option.bind_eq_some_iff, resolveField_eq_some_iff]
  constructor
  · intro search
    obtain ⟨steps, declaration, found, nearest, same⟩ := search
    obtain ⟨before, _, searched⟩ := searched_of_nearest nearest
    refine ⟨declaration, by simp [searched], ?_⟩
    simp [nearest.declares, same]
  · intro search
    obtain ⟨declaration, last, mapped⟩ := search
    obtain ⟨found, declares, same⟩ := Option.map_eq_some_iff.mp mapped
    obtain ⟨steps, nearest⟩ := nearest_of_searchedFrom last declares
    exact ⟨steps, declaration, found, nearest, same.symm⟩

/-- Field resolution finds the nearest declaration on the superclass chain, and
nothing when there is none, also where classes are not declared or the chain
goes round in a cycle.  The search that remembers the classes it has passed
finds the same: it follows the chain, looks into no class twice and so into no
more classes than there are. -/
theorem resolveField_finds_nearest (program : Program)
    (field : FieldReference) :
    (∀ resolved, program.resolveField field = some resolved ↔
      ∃ steps declaration found,
        program.Nearest field steps declaration found ∧
          resolved = ⟨declaration.name, found⟩) ∧
    (program.resolveField field = none ↔
      ¬∃ steps declaration found,
        program.Nearest field steps declaration found) ∧
    (∀ steps declaration found,
      program.Nearest field steps declaration found →
        steps < program.classes.length) ∧
    (program.searched field).length ≤ program.classes.length ∧
    ((program.searched field).map (·.name)).Nodup ∧
    (∀ steps declaration, (program.searched field)[steps]? = some declaration →
      program.ancestor? steps field.className = some declaration) ∧
    program.resolveField field =
      (program.searched field).getLast?.bind fun declaration =>
        (declaration.field? field.name).map (⟨declaration.name, ·⟩) := by
  refine ⟨fun _ => resolveField_eq_some_iff, ?_, fun _ _ _ => Nearest.lt_length,
    program.length_searched_le field,
    (program.searchedFrom_fresh field.name field.className []).2,
    fun _ _ => ancestor?_of_searchedFrom, resolveField_eq_last field⟩
  rw [Option.eq_none_iff_forall_ne_some]
  constructor
  · intro nothing search
    obtain ⟨steps, declaration, found, nearest⟩ := search
    exact nothing _ (resolveField_eq_some_iff.mpr
      ⟨steps, declaration, found, nearest, rfl⟩)
  · intro nowhere resolved success
    obtain ⟨steps, declaration, found, nearest, _⟩ :=
      resolveField_eq_some_iff.mp success
    exact nowhere ⟨steps, declaration, found, nearest⟩

/-- Two classes that are each other's superclass, and a class below them. -/
def cyclicClasses : Program where
  classes :=
    [{ name := "Leaf", superName := some "Counter" },
     { name := "Counter", superName := some "Store" },
     { name := "Store", superName := some "Counter"
       fields := [{ name := "size", isStatic := true }, { name := "size" }] }]

theorem cyclicClasses_resolved :
    cyclicClasses.Nearest ⟨"Leaf", "size"⟩ 2
        { name := "Store", superName := some "Counter"
          fields := [{ name := "size", isStatic := true }, { name := "size" }] }
        { name := "size", isStatic := true } ∧
      cyclicClasses.resolveField ⟨"Leaf", "size"⟩ =
        some ⟨"Store", { name := "size", isStatic := true }⟩ ∧
      2 < cyclicClasses.classes.length ∧
      cyclicClasses.resolveField ⟨"Leaf", "age"⟩ = none ∧
      (cyclicClasses.searched ⟨"Leaf", "age"⟩).length ≤ 3 := by
  have nearest : cyclicClasses.Nearest ⟨"Leaf", "size"⟩ 2
      { name := "Store", superName := some "Counter"
        fields := [{ name := "size", isStatic := true }, { name := "size" }] }
      { name := "size", isStatic := true } := by
    refine ⟨by decide +kernel, by decide +kernel, ?_⟩
    decide +kernel
  obtain ⟨resolves, _, bounded, _⟩ :=
    resolveField_finds_nearest cyclicClasses ⟨"Leaf", "size"⟩
  obtain ⟨_, _, _, few, _⟩ :=
    resolveField_finds_nearest cyclicClasses ⟨"Leaf", "age"⟩
  exact ⟨nearest, (resolves _).mpr ⟨_, _, _, nearest, rfl⟩,
    bounded _ _ _ nearest, by decide +kernel, few⟩

end LockAudit.Program
