import LockAudit.Program.Decode
import LockAudit.Program.Schema
import LockAudit.Proofs.IntegerPlaces

/-!
# Decoding what the schema accepts

The schema of program models and the decoder describe one format twice.  They
agree: a value of the right shape is decoded unless a number in it is no integer
of the width that is read there, and the tag of an operation stands for the same
kind of operation in both.
-/

namespace LockAudit

open Json (Fails FailsAt IntegerPlaces Selector Value fails_bind_iff
  fails_bind_pure_iff select)
open Json.Decoder (list long nullable string unsigned word)
open Json.IntegerPlaces (here inItems inMember whenTagged)
open Json.Schema (all_cons_eq_nil_iff all_nil items_of_mem_select
  ofKind_array_iff ofKind_boolean_iff ofKind_eq_nil_iff ofKind_integer_iff
  ofKind_object_iff ofKind_string_iff property_of_mem_select
  required_eq_nil_iff)

def Operation.integers : IntegerPlaces :=
  whenTagged ["field_read", "field_write"] (inMember "receiver" (here .word)) ++
  whenTagged ["monitor_enter", "monitor_exit"] (inMember "lock" (here .word)) ++
  whenTagged ["invoke"] (inMember "call_site" (here .word))

def Instruction.integers : IntegerPlaces :=
  inMember "kind" Operation.integers ++ inMember "line" (here .word)

def CallTargets.integers : IntegerPlaces :=
  inMember "call_site" (here .word) ++
  inMember "targets" (inItems (here .index))

def Procedure.integers : IntegerPlaces :=
  inMember "calls" (inItems CallTargets.integers) ++
  inMember "instructions" (inItems Instruction.integers) ++
  inMember "line" (here .word)

def LocalPointsTo.integers : IntegerPlaces :=
  inMember "instances" (inItems (here .long)) ++
  inMember "procedure" (here .index) ++
  inMember "value" (here .word)

def StaticPointsTo.integers : IntegerPlaces :=
  inMember "instances" (inItems (here .long))

/-- The places of a program model at which integers are read. -/
def Program.integers : IntegerPlaces :=
  inMember "points_to"
    (inMember "locals" (inItems LocalPointsTo.integers) ++
      inMember "static_fields" (inItems StaticPointsTo.integers)) ++
  inMember "procedures" (inItems Procedure.integers)

example : Program.integers.map (fun place => (place.path, place.width.name)) =
    [([.member "points_to", .member "locals", .items, .member "instances",
        .items], "u64"),
      ([.member "points_to", .member "locals", .items, .member "procedure"],
        "usize"),
      ([.member "points_to", .member "locals", .items, .member "value"], "u32"),
      ([.member "points_to", .member "static_fields", .items,
        .member "instances", .items], "u64"),
      ([.member "procedures", .items, .member "calls", .items,
        .member "call_site"], "u32"),
      ([.member "procedures", .items, .member "calls", .items,
        .member "targets", .items], "usize"),
      ([.member "procedures", .items, .member "instructions", .items,
        .member "kind", .tagged ["field_read", "field_write"],
        .member "receiver"], "u32"),
      ([.member "procedures", .items, .member "instructions", .items,
        .member "kind", .tagged ["monitor_enter", "monitor_exit"],
        .member "lock"], "u32"),
      ([.member "procedures", .items, .member "instructions", .items,
        .member "kind", .tagged ["invoke"], .member "call_site"], "u32"),
      ([.member "procedures", .items, .member "instructions", .items,
        .member "line"], "u32"),
      ([.member "procedures", .items, .member "line"], "u32")] := by
  rfl

namespace Program.Format

theorem failsAt_text {constraints : List Json.Schema} :
    FailsAt (Json.Schema.all (Json.Schema.ofKind [.string] :: constraints))
      string [] := by
  intro value shaped
  obtain ⟨isString, _⟩ := all_cons_eq_nil_iff.mp shaped
  obtain ⟨text, rfl⟩ := ofKind_string_iff.mp isString
  simp [string]

theorem failsAt_flag : FailsAt flag Json.Decoder.bool [] := by
  intro value shaped
  obtain ⟨held, rfl⟩ := ofKind_boolean_iff.mp shaped
  simp [Json.Decoder.bool]

theorem failsAt_optionalText : FailsAt optionalText (nullable string) [] := by
  apply FailsAt.nullable
  · intro value notNull shaped
    cases value with
    | null => exact (notNull rfl).elim
    | string text => simp [string]
    | _ => simp [optionalText, ofKind_eq_nil_iff, Value.hasKind] at shaped
  · simp

theorem failsAt_natural (width : Json.Width) :
    FailsAt natural (unsigned width) (here width) := by
  intro value shaped
  simp only [natural, all_cons_eq_nil_iff, all_nil, and_true,
    ofKind_integer_iff] at shaped
  obtain ⟨⟨number, rfl, _⟩, notNegative⟩ := shaped
  simp only [Json.IntegerPlaces.misfit_here_iff, Value.number.injEq,
    exists_eq_left']
  cases number with
  | double value => simp [unsigned, Json.Decoder.fail, Json.Number.exceeds]
  | integer value =>
      have nonnegative : 0 ≤ value := by
        simpa [Json.Schema.nonNegative, Json.Number.isNegative] using
          notNegative
      simp only [unsigned, nonnegative, true_and, Json.Number.exceeds,
        decide_eq_true_eq]
      split
      · next fits => simpa using fits
      · next wide => simpa [Json.Decoder.fail] using wide

theorem failsAt_word : FailsAt natural word (here .word) := by
  intro value shaped
  exact fails_bind_pure_iff.trans (failsAt_natural .word value shaped)

theorem failsAt_long : FailsAt natural long (here .long) := by
  intro value shaped
  exact fails_bind_pure_iff.trans (failsAt_natural .long value shaped)

theorem failsAt_optionalWord :
    FailsAt optionalNatural (nullable word) (here .word) := by
  apply FailsAt.nullable
  · intro value notNull shaped
    apply failsAt_word
    obtain ⟨kinds, notNegative⟩ := all_cons_eq_nil_iff.mp shaped
    refine all_cons_eq_nil_iff.mpr ⟨?_, notNegative⟩
    cases value with
    | null => exact (notNull rfl).elim
    | number number =>
        simpa [ofKind_eq_nil_iff, Value.hasKind] using kinds
    | _ => simp [ofKind_eq_nil_iff, Value.hasKind] at kinds
  · simp [Json.IntegerPlaces.misfit_here_iff]

theorem failsAt_listOf {item : Json.Schema} {decode : Json.Decoder α}
    {places : IntegerPlaces} (failsAt : FailsAt item decode places) :
    FailsAt (listOf item) (list decode) (inItems places) := by
  intro value shaped
  simp only [listOf, all_cons_eq_nil_iff, all_nil, and_true,
    ofKind_array_iff] at shaped
  obtain ⟨⟨values, rfl⟩, eachShaped⟩ := shaped
  exact failsAt.list eachShaped

end Program.Format

open Program.Format

theorem Loader.failsAt :
    FailsAt (Json.Schema.listed ["application", "extension", "primordial"])
      Loader.decode [] := by
  intro value shaped
  obtain ⟨text, listed, rfl⟩ := Json.Schema.listed_eq_nil_iff.mp shaped
  simp only [List.mem_cons, List.not_mem_nil, or_false] at listed
  rcases listed with rfl | rfl | rfl
  · simp [Loader.decode, string, bind, Except.bind, pure, Except.pure]
  · simp [Loader.decode, string, bind, Except.bind, pure, Except.pure]
  · simp [Loader.decode, string, bind, Except.bind, pure, Except.pure]

theorem FieldDeclaration.failsAt :
    FailsAt fieldDeclaration FieldDeclaration.decode [] := by
  intro value shaped
  simp only [fieldDeclaration, all_cons_eq_nil_iff, all_nil, and_true,
    ofKind_object_iff] at shaped
  obtain ⟨⟨members, rfl⟩, required, descriptor, isFinal, isStatic, name⟩ :=
    shaped
  obtain ⟨_, named⟩ := required_eq_nil_iff.mp required "name" (by simp)
  refine (fails_bind_iff Json.fails_object_iff fun _ =>
    fails_bind_iff (failsAt_optionalText.fails_fieldOr_iff descriptor) fun _ =>
    fails_bind_iff (failsAt_flag.fails_fieldOr_iff isFinal) fun _ =>
    fails_bind_iff (failsAt_flag.fails_fieldOr_iff isStatic) fun _ =>
    fails_bind_pure_iff.trans
      (failsAt_text.fails_field_iff name named)).trans ?_
  simp

theorem ClassDeclaration.failsAt :
    FailsAt classDeclaration ClassDeclaration.decode [] := by
  intro value shaped
  simp only [classDeclaration, all_cons_eq_nil_iff, all_nil, and_true,
    ofKind_object_iff] at shaped
  obtain ⟨⟨members, rfl⟩, required, fields, loader, name, sourceFile,
    superName⟩ := shaped
  obtain ⟨_, named⟩ := required_eq_nil_iff.mp required "name" (by simp)
  have declared := failsAt_listOf FieldDeclaration.failsAt
  refine (fails_bind_iff Json.fails_object_iff fun _ =>
    fails_bind_iff (declared.fails_fieldOr_iff fields) fun _ =>
    fails_bind_iff (Loader.failsAt.fails_fieldOr_iff loader) fun _ =>
    fails_bind_iff (failsAt_text.fails_field_iff name named) fun _ =>
    fails_bind_iff (failsAt_optionalText.fails_fieldOr_iff sourceFile) fun _ =>
    fails_bind_pure_iff.trans
      (failsAt_optionalText.fails_fieldOr_iff superName)).trans ?_
  simp

theorem FieldReference.failsAt :
    FailsAt fieldReference FieldReference.decode [] := by
  intro value shaped
  simp only [fieldReference, all_cons_eq_nil_iff, all_nil, and_true,
    ofKind_object_iff] at shaped
  obtain ⟨⟨members, rfl⟩, required, className, name⟩ := shaped
  obtain ⟨_, classNamed⟩ := required_eq_nil_iff.mp required "class" (by simp)
  obtain ⟨_, named⟩ := required_eq_nil_iff.mp required "name" (by simp)
  refine (fails_bind_iff Json.fails_object_iff fun _ =>
    fails_bind_iff (failsAt_text.fails_field_iff className classNamed) fun _ =>
    fails_bind_pure_iff.trans
      (failsAt_text.fails_field_iff name named)).trans ?_
  simp

theorem CallTargets.failsAt :
    FailsAt callTargets CallTargets.decode CallTargets.integers := by
  intro value shaped
  simp only [callTargets, all_cons_eq_nil_iff, all_nil, and_true,
    ofKind_object_iff] at shaped
  obtain ⟨⟨members, rfl⟩, required, site, targets⟩ := shaped
  obtain ⟨_, present⟩ := required_eq_nil_iff.mp required "call_site" (by simp)
  have eachTarget := failsAt_listOf (failsAt_natural .index)
  refine (fails_bind_iff Json.fails_object_iff fun _ =>
    fails_bind_iff (failsAt_word.fails_field_iff site present) fun _ =>
    fails_bind_pure_iff.trans (eachTarget.fails_fieldOr_iff targets)).trans ?_
  simp [CallTargets.integers]

theorem LocalPointsTo.failsAt :
    FailsAt localPointsTo LocalPointsTo.decode LocalPointsTo.integers := by
  intro value shaped
  simp only [localPointsTo, all_cons_eq_nil_iff, all_nil, and_true,
    ofKind_object_iff] at shaped
  obtain ⟨⟨members, rfl⟩, required, instances, procedure, number⟩ := shaped
  obtain ⟨_, owned⟩ := required_eq_nil_iff.mp required "procedure" (by simp)
  obtain ⟨_, numbered⟩ := required_eq_nil_iff.mp required "value" (by simp)
  have eachInstance := failsAt_listOf failsAt_long
  refine (fails_bind_iff Json.fails_object_iff fun _ =>
    fails_bind_iff (eachInstance.fails_fieldOr_iff instances) fun _ =>
    fails_bind_iff ((failsAt_natural .index).fails_field_iff procedure owned)
      fun _ =>
    fails_bind_pure_iff.trans
      (failsAt_word.fails_field_iff number numbered)).trans ?_
  simp [LocalPointsTo.integers]

theorem StaticPointsTo.failsAt :
    FailsAt staticPointsTo StaticPointsTo.decode StaticPointsTo.integers := by
  intro value shaped
  simp only [staticPointsTo, all_cons_eq_nil_iff, all_nil, and_true,
    ofKind_object_iff] at shaped
  obtain ⟨⟨members, rfl⟩, required, className, instances, name⟩ := shaped
  obtain ⟨_, classNamed⟩ := required_eq_nil_iff.mp required "class" (by simp)
  obtain ⟨_, named⟩ := required_eq_nil_iff.mp required "name" (by simp)
  have eachInstance := failsAt_listOf failsAt_long
  refine (fails_bind_iff Json.fails_object_iff fun _ =>
    fails_bind_iff (failsAt_text.fails_field_iff className classNamed) fun _ =>
    fails_bind_iff (eachInstance.fails_fieldOr_iff instances) fun _ =>
    fails_bind_pure_iff.trans
      (failsAt_text.fails_field_iff name named)).trans ?_
  simp [StaticPointsTo.integers]

/-- The alternatives for operations, each with the tags that it is for. -/
def Program.Format.alternatives : List (List String × Json.Schema) :=
  [(["field_read", "field_write"], fieldAccess),
    (["monitor_enter", "monitor_exit"], monitorAccess),
    (["invoke"], invocation),
    (["other"], otherOperation)]

/-- No tag is for two alternatives. -/
theorem Program.Format.eq_of_common_tag :
    ∀ left ∈ alternatives, ∀ tag ∈ left.1,
      ∀ right ∈ alternatives, tag ∈ right.1 → left = right := by
  simp [alternatives]

/-- An alternative accepts only operations with one of its tags. -/
theorem Program.Format.listed_of_accepts {entry : List String × Json.Schema}
    (listed : entry ∈ alternatives) {value : Value}
    (accepts : entry.2 value = []) :
    Json.Schema.property "op" (Json.Schema.listed entry.1) value = [] := by
  simp only [alternatives, List.mem_cons, List.not_mem_nil, or_false] at listed
  rcases listed with rfl | rfl | rfl | rfl
  · simp only [fieldAccess, all_cons_eq_nil_iff] at accepts
    exact accepts.2.2.1
  · simp only [monitorAccess, all_cons_eq_nil_iff] at accepts
    exact accepts.2.2.1
  · simp only [invocation, all_cons_eq_nil_iff] at accepts
    exact accepts.2.2.1
  · exact accepts

/-- When the alternative for a tag accepts an operation with the tag, no other
one does. -/
theorem Program.Format.accepts_iff_of_accepted {value : Value} {tag : String}
    (tagged : value.tag? = some tag) {entry : List String × Json.Schema}
    (listed : entry ∈ alternatives) (inEntry : tag ∈ entry.1)
    (accepted : entry.2 value = []) :
    ∀ other ∈ alternatives,
      other.2.accepts value = true ↔ tag ∈ other.1 := by
  intro other otherListed
  constructor
  · intro accepts
    have op := listed_of_accepts otherListed (List.isEmpty_iff.mp accepts)
    simpa [Json.Schema.listed_eq_nil_iff] using
      Json.Schema.property_eq_nil_iff.mp op _
        (Value.tag?_eq_some_iff.mp tagged)
  · intro inOther
    rw [← eq_of_common_tag entry listed tag inEntry other otherListed inOther]
    exact List.isEmpty_iff.mpr accepted

/-- The tag decides which alternative accepts an operation. -/
theorem Program.Format.operation_tagged {value : Value}
    (shaped : operation value = []) :
    ∃ tag, value.tag? = some tag ∧
      (∃ entry ∈ alternatives, tag ∈ entry.1) ∧
      ∀ entry ∈ alternatives,
        entry.2.accepts value = true ↔ tag ∈ entry.1 := by
  simp only [operation, all_cons_eq_nil_iff, all_nil, and_true,
    ofKind_object_iff] at shaped
  obtain ⟨⟨members, rfl⟩, required, one⟩ := shaped
  obtain ⟨held, present⟩ := required_eq_nil_iff.mp required "op" (by simp)
  have count := Json.Schema.exactlyOne_eq_nil_iff.mp one
  obtain ⟨_, member, accepts⟩ := List.countP_pos_iff.mp
    (Nat.lt_of_lt_of_eq Nat.zero_lt_one count.symm)
  obtain ⟨entry, listed, rfl⟩ :=
    (List.mem_map (f := Prod.snd) (l := alternatives)).mp member
  have accepted := List.isEmpty_iff.mp accepts
  have op := listed_of_accepts listed accepted
  obtain ⟨tag, inEntry, rfl⟩ := Json.Schema.listed_eq_nil_iff.mp
    (Json.Schema.property_eq_nil_iff.mp op held present)
  have tagged := Value.tag?_eq_some_iff.mpr present
  exact ⟨tag, tagged, ⟨entry, listed, inEntry⟩,
    accepts_iff_of_accepted tagged listed inEntry accepted⟩

/-- An operation that the alternative for its tag accepts has the right
shape. -/
theorem Program.Format.operation_of_alternative {tags : List String}
    {schema : Json.Schema} (listed : (tags, schema) ∈ alternatives)
    {members : List (String × Value)} {tag : String}
    (tagged : (Value.object members).tag? = some tag) (inTags : tag ∈ tags)
    (accepted : schema (.object members) = []) :
    operation (.object members) = [] := by
  have selects := accepts_iff_of_accepted tagged listed inTags accepted
  have known : tag ∈ alternatives.flatMap Prod.fst :=
    List.mem_flatMap.mpr ⟨_, listed, inTags⟩
  simp only [operation, all_cons_eq_nil_iff, all_nil, and_true,
    ofKind_object_iff, Json.Schema.exactlyOne_eq_nil_iff]
  refine ⟨⟨members, rfl⟩, ?_, ?_⟩
  · simp [required_eq_nil_iff, Value.tag?_eq_some_iff.mp tagged]
  simp only [alternatives, List.forall_mem_cons] at selects
  obtain ⟨access, monitor, invoked, other, _⟩ := selects
  simp only [List.countP_cons, access, monitor, invoked, other]
  simp only [alternatives, List.flatMap_cons, List.flatMap_nil, List.append_nil,
    List.cons_append, List.nil_append, List.mem_cons, List.not_mem_nil,
    or_false] at known
  rcases known with rfl | rfl | rfl | rfl | rfl | rfl
  all_goals simp

theorem Operation.fails_decodeAccess_iff {members : List (String × Value)}
    (shaped : fieldAccess (.object members) = []) :
    Fails (Operation.decodeAccess (.object members)) ↔
      (inMember "receiver" (here .word)).Misfit (.object members) := by
  simp only [fieldAccess, all_cons_eq_nil_iff, all_nil, and_true] at shaped
  obtain ⟨required, field, _, receiver⟩ := shaped
  obtain ⟨_, present⟩ := required_eq_nil_iff.mp required "field" (by simp)
  refine (fails_bind_iff
      (FieldReference.failsAt.fails_field_iff field present) fun _ =>
    fails_bind_pure_iff.trans
      (failsAt_optionalWord.fails_fieldOr_iff receiver)).trans ?_
  simp

/-- A member of an operation that is no more than a number. -/
theorem Operation.fails_number_iff {name : String} {op : Json.Schema}
    {members : List (String × Value)}
    (shaped : Json.Schema.all [Json.Schema.required [name],
      Json.Schema.property name natural, op] (.object members) = []) :
    Fails (Json.Decoder.field name word (.object members)) ↔
      (inMember name (here .word)).Misfit (.object members) := by
  simp only [all_cons_eq_nil_iff] at shaped
  obtain ⟨required, number, _⟩ := shaped
  obtain ⟨_, present⟩ := required_eq_nil_iff.mp required name (by simp)
  exact failsAt_word.fails_field_iff number present

/-- Once the tag is known, one group of places and one branch are left. -/
theorem Operation.failsAt :
    FailsAt operation Operation.decode Operation.integers := by
  intro value shaped
  obtain ⟨tag, tagged, known, selects⟩ := operation_tagged shaped
  have accepted : ∀ entry ∈ alternatives, tag ∈ entry.1 → entry.2 value = [] :=
    fun entry listed member =>
      List.isEmpty_iff.mp ((selects entry listed).mpr member)
  simp only [operation, all_cons_eq_nil_iff, ofKind_object_iff] at shaped
  obtain ⟨⟨members, rfl⟩, _⟩ := shaped
  simp only [alternatives, List.forall_mem_cons] at accepted
  obtain ⟨access, monitor, invoked, _⟩ := accepted
  simp only [alternatives, List.mem_cons, List.not_mem_nil, or_false,
    exists_eq_or_imp, exists_eq_left] at known
  simp only [Operation.integers, Json.IntegerPlaces.misfit_append,
    Json.IntegerPlaces.misfit_whenTagged_iff tagged]
  simp only [Operation.decode, Json.Decoder.object, ok_bind,
    Json.field_op_eq_ok_iff.mpr tagged]
  rcases known with (rfl | rfl) | (rfl | rfl) | rfl | rfl
  · simpa using fails_bind_pure_iff.trans
      (fails_decodeAccess_iff (access (by simp)))
  · simpa using fails_bind_pure_iff.trans
      (fails_decodeAccess_iff (access (by simp)))
  · simpa using fails_bind_pure_iff.trans
      (fails_number_iff (monitor (by simp)))
  · simpa using fails_bind_pure_iff.trans
      (fails_number_iff (monitor (by simp)))
  · simpa using fails_bind_pure_iff.trans
      (fails_number_iff (invoked (by simp)))
  · simp [pure, Except.pure]

theorem Instruction.failsAt :
    FailsAt instruction Instruction.decode Instruction.integers := by
  intro value shaped
  simp only [instruction, all_cons_eq_nil_iff, all_nil, and_true,
    ofKind_object_iff] at shaped
  obtain ⟨⟨members, rfl⟩, required, kind, line⟩ := shaped
  obtain ⟨_, present⟩ := required_eq_nil_iff.mp required "kind" (by simp)
  refine (fails_bind_iff Json.fails_object_iff fun _ =>
    fails_bind_iff (Operation.failsAt.whole.fails_field_iff kind present)
      fun _ =>
    fails_bind_pure_iff.trans
      (failsAt_optionalWord.fails_fieldOr_iff line)).trans ?_
  simp [Instruction.integers]

/-- Null stands for code that is not there. -/
theorem Procedure.failsAt_code :
    FailsAt (Json.Schema.all [Json.Schema.ofKind [.array, .null],
        Json.Schema.items instruction])
      (nullable (list Instruction.decode))
      (inItems Instruction.integers) := by
  apply FailsAt.nullable
  · intro value notNull shaped
    simp only [all_cons_eq_nil_iff, all_nil, and_true] at shaped
    obtain ⟨kinds, eachShaped⟩ := shaped
    cases value with
    | null => exact (notNull rfl).elim
    | array values => exact Instruction.failsAt.list eachShaped
    | _ => simp [ofKind_eq_nil_iff, Value.hasKind] at kinds
  · exact Json.IntegerPlaces.not_misfit_inItems_null

theorem Procedure.failsAt :
    FailsAt procedure Procedure.decode Procedure.integers := by
  intro value shaped
  simp only [procedure, all_cons_eq_nil_iff, all_nil, and_true,
    ofKind_object_iff] at shaped
  obtain ⟨⟨members, rfl⟩, required, calls, className, context, descriptor,
    code, isStatic, isSynchronized, line, name⟩ := shaped
  obtain ⟨_, classNamed⟩ := required_eq_nil_iff.mp required "class" (by simp)
  obtain ⟨_, described⟩ :=
    required_eq_nil_iff.mp required "descriptor" (by simp)
  obtain ⟨_, named⟩ := required_eq_nil_iff.mp required "name" (by simp)
  have eachCall := failsAt_listOf CallTargets.failsAt
  refine (fails_bind_iff Json.fails_object_iff fun _ =>
    fails_bind_iff (eachCall.fails_fieldOr_iff calls) fun _ =>
    fails_bind_iff (failsAt_text.fails_field_iff className classNamed) fun _ =>
    fails_bind_iff (failsAt_optionalText.fails_fieldOr_iff context) fun _ =>
    fails_bind_iff (failsAt_text.fails_field_iff descriptor described) fun _ =>
    fails_bind_iff (failsAt_code.fails_fieldOr_iff code) fun _ =>
    fails_bind_iff (failsAt_flag.fails_fieldOr_iff isStatic) fun _ =>
    fails_bind_iff (failsAt_flag.fails_fieldOr_iff isSynchronized) fun _ =>
    fails_bind_iff (failsAt_optionalWord.fails_fieldOr_iff line) fun _ =>
    fails_bind_pure_iff.trans
      (failsAt_text.fails_field_iff name named)).trans ?_
  simp [Procedure.integers]

theorem Program.failsAt_pointsTo :
    FailsAt pointsTo Program.decodePointsTo
      (inMember "locals" (inItems LocalPointsTo.integers) ++
        inMember "static_fields" (inItems StaticPointsTo.integers)) := by
  intro value shaped
  simp only [pointsTo, all_cons_eq_nil_iff, all_nil, and_true,
    ofKind_object_iff] at shaped
  obtain ⟨⟨members, rfl⟩, locals, statics⟩ := shaped
  have eachLocal := failsAt_listOf LocalPointsTo.failsAt
  have eachStatic := failsAt_listOf StaticPointsTo.failsAt
  refine (fails_bind_iff Json.fails_object_iff fun _ =>
    fails_bind_iff (eachLocal.fails_fieldOr_iff locals) fun _ =>
    fails_bind_pure_iff.trans (eachStatic.fails_fieldOr_iff statics)).trans ?_
  simp

theorem Program.failsAt :
    FailsAt program Program.decode Program.integers := by
  intro value shaped
  simp only [program, all_cons_eq_nil_iff, all_nil, and_true,
    ofKind_object_iff] at shaped
  obtain ⟨⟨members, rfl⟩, classes, pointsTo, procedures⟩ := shaped
  have eachClass := failsAt_listOf ClassDeclaration.failsAt
  have eachProcedure := failsAt_listOf Procedure.failsAt
  refine (fails_bind_iff Json.fails_object_iff fun _ =>
    fails_bind_iff (eachClass.fails_fieldOr_iff classes) fun _ =>
    fails_bind_iff (failsAt_pointsTo.fails_fieldOr_iff pointsTo) fun _ =>
    fails_bind_pure_iff.trans (eachProcedure.fails_fieldOr_iff procedures)
      ).trans ?_
  simp [Program.integers]

/-- The name of the kind of an operation. -/
def Operation.tag : Operation → String
  | fieldRead _ _ => "field_read"
  | fieldWrite _ _ => "field_write"
  | monitorEnter _ => "monitor_enter"
  | monitorExit _ => "monitor_exit"
  | invoke _ => "invoke"
  | other => "other"

theorem Operation.tag_of_decode {value : Value} {operation : Operation}
    (decoded : Operation.decode value = .ok operation) :
    value.tag? = some operation.tag := by
  simp only [Operation.decode, bind_eq_ok_iff, Json.field_op_eq_ok_iff]
    at decoded
  obtain ⟨_, _, tag, tagged, decoded⟩ := decoded
  split at decoded
  · obtain ⟨⟨reference, receiver⟩, _, built⟩ := bind_eq_ok_iff.mp decoded
    obtain rfl := pure_eq_ok_iff.mp built
    exact tagged
  · obtain ⟨⟨reference, receiver⟩, _, built⟩ := bind_eq_ok_iff.mp decoded
    obtain rfl := pure_eq_ok_iff.mp built
    exact tagged
  · obtain ⟨lock, _, built⟩ := bind_eq_ok_iff.mp decoded
    obtain rfl := pure_eq_ok_iff.mp built
    exact tagged
  · obtain ⟨lock, _, built⟩ := bind_eq_ok_iff.mp decoded
    obtain rfl := pure_eq_ok_iff.mp built
    exact tagged
  · obtain ⟨site, _, built⟩ := bind_eq_ok_iff.mp decoded
    obtain rfl := pure_eq_ok_iff.mp built
    exact tagged
  · obtain rfl := pure_eq_ok_iff.mp decoded
    exact tagged
  · simp [Json.Decoder.fail] at decoded

theorem Operation.select_op {value : Value} {operation : Operation}
    (decoded : Operation.decode value = .ok operation) :
    select [.member "op"] value = [.string operation.tag] := by
  have tagged := Value.tag?_eq_some_iff.mp (Operation.tag_of_decode decoded)
  simp [select, Selector.parts, tagged]

theorem Instruction.select_op {value : Value} {instruction : Instruction}
    (decoded : Instruction.decode value = .ok instruction) :
    select [.member "kind", .member "op"] value =
      [.string instruction.operation.tag] := by
  simp only [Instruction.decode, bind_eq_ok_iff, pure_eq_ok_iff] at decoded
  obtain ⟨_, _, operation, kind, line, _, rfl⟩ := decoded
  apply Json.select_of_field _ kind
  intro held decoded
  exact Operation.select_op (mapError_eq_ok_iff.mp decoded)

theorem Procedure.select_op {value : Value} {procedure : Procedure}
    (decoded : Procedure.decode value = .ok procedure) :
    select [.member "instructions", .items, .member "kind", .member "op"]
        value =
      procedure.code.flatMap fun instruction =>
        [.string instruction.operation.tag] := by
  simp only [Procedure.decode, bind_eq_ok_iff, pure_eq_ok_iff] at decoded
  obtain ⟨_, _, calls, _, className, _, context, _, descriptor, _, body, code,
    isStatic, _, isSynchronized, _, line, _, name, _, rfl⟩ := decoded
  apply Json.select_of_fieldOr _ _ code
  · intro held decoded
    exact Json.select_of_nullable_list
      (fun _ _ decoded => Instruction.select_op decoded) decoded
  · rintro rfl
    rfl

/-- The tags of a program's operations, in order, are those that stand in the
value. -/
theorem Program.select_op {value : Value} {program : Program}
    (decoded : Program.decode value = .ok program) :
    select [.member "procedures", .items, .member "instructions", .items,
        .member "kind", .member "op"] value =
      program.procedures.flatMap fun procedure =>
        procedure.code.map fun instruction =>
          .string instruction.operation.tag := by
  simp only [Program.decode, bind_eq_ok_iff, pure_eq_ok_iff] at decoded
  obtain ⟨_, _, classes, _, ⟨locals, statics⟩, _, procedures, listed, rfl⟩ :=
    decoded
  apply Json.select_of_fieldOr _ _ listed
  · intro held decoded
    apply Json.select_of_list _ decoded
    intro value procedure decoded
    rw [Procedure.select_op decoded, ← List.map_eq_flatMap]
  · rintro rfl
    rfl

theorem Program.Format.operation_of_select {value kind : Value}
    (shaped : program value = [])
    (selected : kind ∈ select [.member "procedures", .items,
      .member "instructions", .items, .member "kind"] value) :
    operation kind = [] := by
  simp only [program, all_cons_eq_nil_iff] at shaped
  obtain ⟨_, _, _, procedures, _⟩ := shaped
  obtain ⟨_, shaped, selected⟩ := property_of_mem_select procedures selected
  simp only [listOf, all_cons_eq_nil_iff] at shaped
  obtain ⟨_, eachProcedure, _⟩ := shaped
  obtain ⟨_, shaped, selected⟩ := items_of_mem_select eachProcedure selected
  simp only [procedure, all_cons_eq_nil_iff] at shaped
  obtain ⟨_, _, _, _, _, _, code, _⟩ := shaped
  obtain ⟨_, shaped, selected⟩ := property_of_mem_select code selected
  simp only [all_cons_eq_nil_iff] at shaped
  obtain ⟨_, eachInstruction, _⟩ := shaped
  obtain ⟨_, shaped, selected⟩ := items_of_mem_select eachInstruction selected
  simp only [instruction, all_cons_eq_nil_iff] at shaped
  obtain ⟨_, _, operation, _⟩ := shaped
  obtain ⟨_, shaped, selected⟩ := property_of_mem_select operation selected
  obtain rfl : kind = _ := by simpa [select] using selected
  exact shaped

/-- The schema and the decoder agree on the values that the schema accepts.
Such a value fails to be decoded exactly when a number at one of the places
where an integer is read is a double or too large for the width.  So it does
not matter which other members there are, nor whether optional ones are absent
or null.  The tag of an operation picks the same kind of operation in both, and
the operations of the program carry the tags of the value, in order. -/
theorem Program.decode_agrees_with_format (value : Value)
    (shaped : Format.program value = []) :
    ((∃ error, Program.decode value = .error error) ↔
      ∃ entry ∈ Program.integers.numbers value,
        entry.2.exceeds entry.1 = true) ∧
    (∀ other, Format.program other = [] →
      Program.integers.numbers other = Program.integers.numbers value →
        ((∃ error, Program.decode other = .error error) ↔
          ∃ error, Program.decode value = .error error)) ∧
    (∀ kind ∈ select [.member "procedures", .items, .member "instructions",
        .items, .member "kind"] value,
      ∃ tag, kind.tag? = some tag ∧
        (∀ entry ∈ Format.alternatives,
          entry.2.accepts kind = true ↔ tag ∈ entry.1) ∧
        ∀ operation, Operation.decode kind = .ok operation →
          operation.tag = tag) ∧
    ∀ program, Program.decode value = .ok program →
      select [.member "procedures", .items, .member "instructions", .items,
          .member "kind", .member "op"] value =
        program.procedures.flatMap fun procedure =>
          procedure.code.map fun instruction =>
            .string instruction.operation.tag := by
  refine ⟨Program.failsAt value shaped, ?_, ?_, fun _ => Program.select_op⟩
  · intro other otherShaped sameNumbers
    have otherFails := Program.failsAt other otherShaped
    rw [IntegerPlaces.Misfit, sameNumbers] at otherFails
    exact otherFails.trans (Program.failsAt value shaped).symm
  · intro kind selected
    obtain ⟨tag, tagged, _, selects⟩ :=
      operation_tagged (operation_of_select shaped selected)
    refine ⟨tag, tagged, selects, ?_⟩
    intro operation decoded
    have decodedTag := Operation.tag_of_decode decoded
    exact Option.some.inj (decodedTag.symm.trans tagged)

/-- A model with members that nobody reads, with nulls, and with a number as the
line of its instruction. -/
def annotatedModel (line : Json.Number) : Value :=
  .object [
    ("author", .string "front end"),
    ("procedures", .array [.object [
      ("class", .string "Cache"),
      ("context", .null),
      ("descriptor", .string "()V"),
      ("instructions", .array [.object [
        ("kind", .object [("lock", .nat 1), ("op", .string "monitor_enter"),
          ("receiver", .string "none")]),
        ("line", .number line)]]),
      ("line", .null),
      ("name", .string "flush")]])]

theorem annotatedModel_decoded :
    (Program.Format.program
        (annotatedModel (.double ⟨false, 6755399441055744, -51⟩)) = [] ∧
      ∃ error, Program.decode
        (annotatedModel (.double ⟨false, 6755399441055744, -51⟩)) =
          .error error) ∧
    Program.Format.program (annotatedModel (.integer 4294967295)) = [] ∧
      ¬∃ error, Program.decode (annotatedModel (.integer 4294967295)) =
        .error error := by
  refine ⟨⟨rfl, ?_⟩, rfl, ?_⟩
  · apply (Program.decode_agrees_with_format _ rfl).1.mpr
    exact ⟨(.word, .double ⟨false, 6755399441055744, -51⟩), by decide, rfl⟩
  · rw [(Program.decode_agrees_with_format _ rfl).1]
    decide

end LockAudit
