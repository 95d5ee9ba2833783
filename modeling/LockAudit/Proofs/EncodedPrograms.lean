import LockAudit.Program.Encode
import LockAudit.Program.Load
import LockAudit.Proofs.JsonText
import LockAudit.Proofs.ShapedPrograms

/-!
# Loading what is encoded

The JSON form of a program has the shape that the schema asks for, is decoded to
the program again, and is read back from its text.  So a program that is written
and loaded meets the same checks as the program itself.  Only programs with
names, whose numbers of procedures have 64 bits, can be written.
-/

namespace LockAudit

open Json (Readable Value)
open Json.Decoder (list long nullable string under unsigned word)
open Json.Schema (all_cons_eq_nil_iff all_nil items_eq_nil_iff ofKind_array_iff
  ofKind_eq_nil_iff)

/-- The field that an operation names. -/
def Operation.reference? : Operation → Option FieldReference
  | fieldRead field _ => some field
  | fieldWrite field _ => some field
  | _ => none

structure ClassDeclaration.Writable (declaration : ClassDeclaration) :
    Prop where
  name : declaration.name ≠ ""
  fields : ∀ field ∈ declaration.fields, field.name ≠ ""

structure Procedure.Writable (procedure : Procedure) : Prop where
  className : procedure.className ≠ ""
  name : procedure.name ≠ ""
  descriptor : 2 ≤ procedure.descriptor.length
  references : ∀ instruction ∈ procedure.code,
    ∀ field ∈ instruction.operation.reference?,
      field.className ≠ "" ∧ field.name ≠ ""
  targets : ∀ call ∈ procedure.calls, ∀ target ∈ call.targets,
    target < Nat.pow 2 64

structure Program.Writable (program : Program) : Prop where
  classes : ∀ declaration ∈ program.classes, declaration.Writable
  procedures : ∀ procedure ∈ program.procedures, procedure.Writable
  locals : ∀ entry ∈ program.localPointsTo, entry.procedure < Nat.pow 2 64
  statics : ∀ entry ∈ program.staticPointsTo,
    entry.className ≠ "" ∧ entry.name ≠ ""

/-- The value stands for the item: the schema accepts it, it is decoded to the
item, and it is read back from its text. -/
structure Carries (schema : Json.Schema) (decode : Json.Decoder α)
    (levels : Nat) (value : Value) (item : α) : Prop where
  accepted : schema value = []
  decoded : decode value = .ok item
  readable : Readable levels value

namespace Carries

variable {schema : Json.Schema} {decode : Json.Decoder α} {levels : Nat}
  {value held : Value} {item : α} {name : String}

theorem property (carried : Carries schema decode levels held item)
    (present : value.get? name = some held) :
    Json.Schema.property name schema value = [] := by
  simp [Json.Schema.property, present, carried.accepted]

theorem field (carried : Carries schema decode levels held item)
    (present : value.get? name = some held) :
    Json.Decoder.field name decode value = .ok item := by
  simp [Json.Decoder.field, present, carried.decoded, under]

theorem fieldOr (carried : Carries schema decode levels held item)
    (present : value.get? name = some held) (absent : α) :
    Json.Decoder.fieldOr name absent decode value = .ok item := by
  simp [Json.Decoder.fieldOr, present, carried.decoded, under]

theorem whole (carried : Carries schema decode levels value item) :
    Carries schema (Json.Decoder.whole decode) levels value item where
  accepted := carried.accepted
  decoded := mapError_eq_ok_iff.mpr carried.decoded
  readable := carried.readable

end Carries

theorem Json.nullable_of_ne_null {decode : Decoder α} {value : Value} {item : α}
    (notNull : value ≠ .null) (decoded : decode value = .ok item) :
    nullable decode value = .ok (some item) := by
  cases value with
  | null => exact (notNull rfl).elim
  | _ => simp only [nullable, decoded, ok_bind]; rfl

theorem Json.itemsFrom_map {decode : Decoder α} {encode : α → Value}
    {items : List α}
    (each : ∀ item ∈ items, decode (encode item) = .ok item)
    (position : Nat) :
    Decoder.itemsFrom decode position (items.map encode) = .ok items := by
  induction items generalizing position with
  | nil => rfl
  | cons item items induction =>
      obtain ⟨decodedHere, decodedLater⟩ := List.forall_mem_cons.mp each
      have later := induction decodedLater (position + 1)
      rw [List.map_cons, Decoder.itemsFrom, decodedHere, later]
      rfl

namespace Program.Format

theorem carries_text {text : String} {length : Nat}
    (long : length ≤ text.length) (levels : Nat) :
    Carries (Json.Schema.all [Json.Schema.ofKind [.string],
      Json.Schema.minLength length]) string levels (.string text) text where
  accepted := by
    simp [ofKind_eq_nil_iff, Value.hasKind, Json.Schema.minLength, long]
  decoded := rfl
  readable := .string text

theorem carries_name {text : String} (nonempty : text ≠ "") (levels : Nat) :
    Carries name string levels (.string text) text := by
  apply carries_text
  simpa [Nat.one_le_iff_ne_zero] using nonempty

theorem carries_flag (value : Bool) (levels : Nat) :
    Carries flag Json.Decoder.bool levels (.bool value) value where
  accepted := by simp [flag, ofKind_eq_nil_iff, Value.hasKind]
  decoded := rfl
  readable := .bool value

theorem carries_optionalText (text : Option String) (levels : Nat) :
    Carries optionalText (nullable string) levels
      (encodeOption .string text) text := by
  cases text with
  | none =>
      refine ⟨?_, rfl, .null⟩
      simp [encodeOption, optionalText, ofKind_eq_nil_iff, Value.hasKind]
  | some text =>
      refine ⟨?_, rfl, .string text⟩
      simp [encodeOption, optionalText, ofKind_eq_nil_iff, Value.hasKind]

theorem carries_natural {width : Json.Width} (narrow : width.bits ≤ 64)
    {number : Nat} (fits : number < Nat.pow 2 width.bits) (levels : Nat) :
    Carries natural (unsigned width) levels (.nat number) number where
  accepted := by
    simp [natural, Value.nat, ofKind_eq_nil_iff, Value.hasKind,
      Json.Number.isIntegral, Json.Schema.nonNegative, Json.Number.isNegative]
  decoded := by
    have below : (number : Int) < Nat.pow 2 width.bits := Int.ofNat_lt.mpr fits
    simp only [Value.nat, unsigned, Int.natCast_nonneg, below, and_self,
      if_true, Int.toNat_natCast]
  readable := by
    have wide : Nat.pow 2 width.bits ≤ 2 ^ 64 :=
      Nat.pow_le_pow_right (by decide) narrow
    apply Readable.integer
    · omega
    · exact_mod_cast Nat.lt_of_lt_of_le fits wide

theorem carries_word (number : UInt32) (levels : Nat) :
    Carries natural word levels (encodeWord number) number := by
  have carried := @carries_natural .word (by decide) number.toNat
    number.toNat_lt levels
  refine ⟨carried.accepted, ?_, carried.readable⟩
  simp [word, encodeWord, carried.decoded, ok_bind, pure, Except.pure]

theorem carries_long (number : UInt64) (levels : Nat) :
    Carries natural long levels (encodeLong number) number := by
  have carried := @carries_natural .long (by decide) number.toNat
    number.toNat_lt levels
  refine ⟨carried.accepted, ?_, carried.readable⟩
  simp [long, encodeLong, carried.decoded, ok_bind, pure, Except.pure]

theorem carries_optionalWord (number : Option UInt32) (levels : Nat) :
    Carries optionalNatural (nullable word) levels
      (encodeOption encodeWord number) number := by
  cases number with
  | none =>
      refine ⟨?_, rfl, .null⟩
      simp [encodeOption, optionalNatural, ofKind_eq_nil_iff, Value.hasKind,
        Json.Schema.nonNegative]
  | some number =>
      have carried := carries_word number levels
      refine ⟨?_, ?_, carried.readable⟩
      · simp [encodeOption, encodeWord, Value.nat, optionalNatural,
          ofKind_eq_nil_iff, Value.hasKind, Json.Number.isIntegral,
          Json.Schema.nonNegative, Json.Number.isNegative]
      · have notNull : encodeWord number ≠ .null := by
          simp [encodeWord, Value.nat]
        exact Json.nullable_of_ne_null notNull carried.decoded

theorem carries_listOf {schema : Json.Schema} {decode : Json.Decoder α}
    {encode : α → Value} {items : List α} {levels : Nat}
    (each : ∀ item ∈ items, Carries schema decode levels (encode item) item) :
    Carries (listOf schema) (list decode) (levels + 1)
      (.array (items.map encode)) items where
  accepted := by
    have accepted : ∀ item ∈ items, schema (encode item) = [] :=
      fun item listed => (each item listed).accepted
    simpa [listOf, ofKind_array_iff, items_eq_nil_iff] using accepted
  decoded :=
    Json.itemsFrom_map (fun item listed => (each item listed).decoded) 0
  readable := by
    apply Readable.array
    intro value listed
    obtain ⟨item, isItem, rfl⟩ := List.mem_map.mp listed
    exact (each item isItem).readable

theorem carries_instances (keys : List InstanceKey) (levels : Nat) :
    Carries instances (list long) (levels + 1) (.array (keys.map encodeLong))
      keys :=
  carries_listOf fun key _ => carries_long key levels

end Program.Format

open Program.Format

theorem Loader.carries (loader : Loader) (levels : Nat) :
    Carries (Json.Schema.listed ["application", "extension", "primordial"])
      Loader.decode levels loader.encode loader := by
  cases loader with
  | application => exact ⟨rfl, rfl, .string _⟩
  | extension => exact ⟨rfl, rfl, .string _⟩
  | primordial => exact ⟨rfl, rfl, .string _⟩

theorem FieldDeclaration.carries {declared : FieldDeclaration}
    (named : declared.name ≠ "") (levels : Nat) :
    Carries fieldDeclaration FieldDeclaration.decode (levels + 1)
      declared.encode declared := by
  have descriptor := carries_optionalText declared.descriptor levels
  have isFinal := carries_flag declared.isFinal levels
  have isStatic := carries_flag declared.isStatic levels
  have name := carries_name named levels
  refine ⟨?_, ?_, .object ?_ ?_⟩
  · simp only [fieldDeclaration, all_cons_eq_nil_iff, all_nil, and_true]
    exact ⟨rfl, rfl, descriptor.property rfl, isFinal.property rfl,
      isStatic.property rfl, name.property rfl⟩
  · simp only [FieldDeclaration.decode, bind_eq_ok_iff, pure_eq_ok_iff]
    exact ⟨(), rfl, _, descriptor.fieldOr rfl _, _, isFinal.fieldOr rfl _,
      _, isStatic.fieldOr rfl _, _, name.field rfl, rfl⟩
  · simp only [List.map_cons, List.map_nil]
    decide
  · simp [descriptor.readable, isFinal.readable, isStatic.readable,
      name.readable]

theorem ClassDeclaration.carries {declaration : ClassDeclaration}
    (writable : declaration.Writable) (levels : Nat) :
    Carries classDeclaration ClassDeclaration.decode (levels + 3)
      declaration.encode declaration := by
  have fields := carries_listOf fun field listed =>
    FieldDeclaration.carries (writable.fields field listed) levels
  have loader := declaration.loader.carries (levels + 2)
  have name := carries_name writable.name (levels + 2)
  have sourceFile := carries_optionalText declaration.sourceFile (levels + 2)
  have superName := carries_optionalText declaration.superName (levels + 2)
  refine ⟨?_, ?_, .object ?_ ?_⟩
  · simp only [classDeclaration, all_cons_eq_nil_iff, all_nil, and_true]
    exact ⟨rfl, rfl, fields.property rfl, loader.property rfl,
      name.property rfl, sourceFile.property rfl, superName.property rfl⟩
  · simp only [ClassDeclaration.decode, bind_eq_ok_iff, pure_eq_ok_iff]
    exact ⟨(), rfl, _, fields.fieldOr rfl _, _, loader.fieldOr rfl _,
      _, name.field rfl, _, sourceFile.fieldOr rfl _,
      _, superName.fieldOr rfl _, rfl⟩
  · simp only [List.map_cons, List.map_nil]
    decide
  · simp [fields.readable, loader.readable, name.readable, sourceFile.readable,
      superName.readable]

theorem FieldReference.carries {reference : FieldReference}
    (classNamed : reference.className ≠ "") (named : reference.name ≠ "")
    (levels : Nat) :
    Carries fieldReference FieldReference.decode (levels + 1) reference.encode
      reference := by
  have className := carries_name classNamed levels
  have name := carries_name named levels
  refine ⟨?_, ?_, .object ?_ ?_⟩
  · simp only [fieldReference, all_cons_eq_nil_iff, all_nil, and_true]
    exact ⟨rfl, rfl, className.property rfl, name.property rfl⟩
  · simp only [FieldReference.decode, bind_eq_ok_iff, pure_eq_ok_iff]
    exact ⟨(), rfl, _, className.field rfl, _, name.field rfl, rfl⟩
  · simp only [List.map_cons, List.map_nil]
    decide
  · simp [className.readable, name.readable]

/-- The part that reads and writes of fields have in common. -/
theorem Operation.carries_access {reference : FieldReference}
    (classNamed : reference.className ≠ "") (named : reference.name ≠ "")
    (receiver : Option ValueNumber) {tag : String}
    (listed : tag ∈ ["field_read", "field_write"]) (levels : Nat) :
    Carries Program.Format.operation Operation.decodeAccess (levels + 2)
      (.object [("field", reference.encode), ("op", .string tag),
        ("receiver", encodeOption encodeWord receiver)])
      (reference, receiver) := by
  have field := FieldReference.carries classNamed named levels
  have receiver := carries_optionalWord receiver (levels + 1)
  have op := Json.Schema.listed_eq_nil_iff.mpr ⟨tag, listed, rfl⟩
  refine ⟨?_, ?_, .object ?_ ?_⟩
  · have isAlternative : (["field_read", "field_write"], fieldAccess) ∈
        alternatives := by simp [alternatives]
    apply operation_of_alternative isAlternative rfl listed
    simp only [fieldAccess, all_cons_eq_nil_iff, all_nil, and_true]
    exact ⟨rfl, field.property rfl, op, receiver.property rfl⟩
  · simp only [Operation.decodeAccess, bind_eq_ok_iff, pure_eq_ok_iff]
    exact ⟨_, field.field rfl, _, receiver.fieldOr rfl _, rfl⟩
  · simp only [List.map_cons, List.map_nil]
    decide
  · simp [field.readable, receiver.readable, Readable.string]

/-- The part that entries and exits of monitors have in common. -/
theorem Operation.carries_monitor (lock : ValueNumber) {tag : String}
    (listed : tag ∈ ["monitor_enter", "monitor_exit"]) (levels : Nat) :
    Carries Program.Format.operation (Json.Decoder.field "lock" word)
      (levels + 1) (.object [("lock", encodeWord lock), ("op", .string tag)])
      lock := by
  have number := carries_word lock levels
  have op := Json.Schema.listed_eq_nil_iff.mpr ⟨tag, listed, rfl⟩
  refine ⟨?_, number.field rfl, .object ?_ ?_⟩
  · have isAlternative : (["monitor_enter", "monitor_exit"], monitorAccess) ∈
        alternatives := by simp [alternatives]
    apply operation_of_alternative isAlternative rfl listed
    simp only [monitorAccess, all_cons_eq_nil_iff, all_nil, and_true]
    exact ⟨rfl, number.property rfl, op⟩
  · simp only [List.map_cons, List.map_nil]
    decide
  · simp [number.readable, Readable.string]

theorem Operation.carries_invoke (site : SiteNumber) (levels : Nat) :
    Carries Program.Format.operation (Json.Decoder.field "call_site" word)
      (levels + 1) (Operation.invoke site).encode site := by
  have number := carries_word site levels
  refine ⟨?_, number.field rfl, .object ?_ ?_⟩
  · have isAlternative : (["invoke"], invocation) ∈ alternatives := by
      simp [alternatives]
    have listed := List.mem_singleton.mpr (rfl : "invoke" = "invoke")
    apply operation_of_alternative isAlternative rfl listed
    simp only [invocation, all_cons_eq_nil_iff, all_nil, and_true]
    exact ⟨rfl, number.property rfl, rfl⟩
  · simp only [List.map_cons, List.map_nil]
    decide
  · simp [number.readable, Readable.string]

theorem Operation.carries {operation : Operation}
    (named : ∀ field ∈ operation.reference?,
      field.className ≠ "" ∧ field.name ≠ "")
    (levels : Nat) :
    Carries Program.Format.operation Operation.decode (levels + 2)
      operation.encode operation := by
  cases operation with
  | fieldRead reference receiver =>
      obtain ⟨classNamed, fieldNamed⟩ := named reference rfl
      have listed : "field_read" ∈ ["field_read", "field_write"] := by simp
      have access :=
        carries_access classNamed fieldNamed receiver listed levels
      refine ⟨access.accepted, ?_, access.readable⟩
      simp only [Operation.decode, bind_eq_ok_iff]
      exact ⟨(), rfl, "field_read", rfl,
        bind_eq_ok_iff.mpr ⟨_, access.decoded, rfl⟩⟩
  | fieldWrite reference receiver =>
      obtain ⟨classNamed, fieldNamed⟩ := named reference rfl
      have listed : "field_write" ∈ ["field_read", "field_write"] := by simp
      have access :=
        carries_access classNamed fieldNamed receiver listed levels
      refine ⟨access.accepted, ?_, access.readable⟩
      simp only [Operation.decode, bind_eq_ok_iff]
      exact ⟨(), rfl, "field_write", rfl,
        bind_eq_ok_iff.mpr ⟨_, access.decoded, rfl⟩⟩
  | monitorEnter lock =>
      have listed : "monitor_enter" ∈ ["monitor_enter", "monitor_exit"] := by
        simp
      have monitor := carries_monitor lock listed (levels + 1)
      refine ⟨monitor.accepted, ?_, monitor.readable⟩
      simp only [Operation.decode, bind_eq_ok_iff]
      exact ⟨(), rfl, "monitor_enter", rfl,
        bind_eq_ok_iff.mpr ⟨lock, monitor.decoded, rfl⟩⟩
  | monitorExit lock =>
      have listed : "monitor_exit" ∈ ["monitor_enter", "monitor_exit"] := by
        simp
      have monitor := carries_monitor lock listed (levels + 1)
      refine ⟨monitor.accepted, ?_, monitor.readable⟩
      simp only [Operation.decode, bind_eq_ok_iff]
      exact ⟨(), rfl, "monitor_exit", rfl,
        bind_eq_ok_iff.mpr ⟨lock, monitor.decoded, rfl⟩⟩
  | invoke site =>
      have invoked := carries_invoke site (levels + 1)
      refine ⟨invoked.accepted, ?_, invoked.readable⟩
      simp only [Operation.decode, bind_eq_ok_iff]
      exact ⟨(), rfl, "invoke", rfl,
        bind_eq_ok_iff.mpr ⟨site, invoked.decoded, rfl⟩⟩
  | other =>
      refine ⟨rfl, rfl, .object ?_ ?_⟩
      · simp [Increasing]
      · simp [Readable.string]

theorem Instruction.carries {instruction : Instruction}
    (named : ∀ field ∈ instruction.operation.reference?,
      field.className ≠ "" ∧ field.name ≠ "")
    (levels : Nat) :
    Carries Program.Format.instruction Instruction.decode (levels + 3)
      instruction.encode instruction := by
  have kind := Operation.carries named levels
  have line := carries_optionalWord instruction.line (levels + 2)
  refine ⟨?_, ?_, .object ?_ ?_⟩
  · simp only [Program.Format.instruction, all_cons_eq_nil_iff, all_nil,
      and_true]
    exact ⟨rfl, rfl, kind.property rfl, line.property rfl⟩
  · simp only [Instruction.decode, bind_eq_ok_iff, pure_eq_ok_iff]
    exact ⟨(), rfl, _, kind.whole.field rfl, _, line.fieldOr rfl _, rfl⟩
  · simp only [List.map_cons, List.map_nil]
    decide
  · simp [kind.readable, line.readable]

theorem CallTargets.carries {call : CallTargets}
    (fit : ∀ target ∈ call.targets, target < Nat.pow 2 64) (levels : Nat) :
    Carries callTargets CallTargets.decode (levels + 2) call.encode call := by
  have site := carries_word call.site (levels + 1)
  have targets := carries_listOf fun target listed =>
    @carries_natural .index (by decide) target (fit target listed) levels
  refine ⟨?_, ?_, .object ?_ ?_⟩
  · simp only [callTargets, all_cons_eq_nil_iff, all_nil, and_true]
    exact ⟨rfl, rfl, site.property rfl, targets.property rfl⟩
  · simp only [CallTargets.decode, bind_eq_ok_iff, pure_eq_ok_iff]
    exact ⟨(), rfl, _, site.field rfl, _, targets.fieldOr rfl _, rfl⟩
  · simp only [List.map_cons, List.map_nil]
    decide
  · simp [site.readable, targets.readable]

theorem LocalPointsTo.carries {entry : LocalPointsTo}
    (fits : entry.procedure < Nat.pow 2 64) (levels : Nat) :
    Carries localPointsTo LocalPointsTo.decode (levels + 2) entry.encode
      entry := by
  have instances := carries_instances entry.instances levels
  have procedure :=
    @carries_natural .index (by decide) entry.procedure fits (levels + 1)
  have number := carries_word entry.value (levels + 1)
  refine ⟨?_, ?_, .object ?_ ?_⟩
  · simp only [localPointsTo, all_cons_eq_nil_iff, all_nil, and_true]
    exact ⟨rfl, rfl, instances.property rfl, procedure.property rfl,
      number.property rfl⟩
  · simp only [LocalPointsTo.decode, bind_eq_ok_iff, pure_eq_ok_iff]
    exact ⟨(), rfl, _, instances.fieldOr rfl _, _, procedure.field rfl,
      _, number.field rfl, rfl⟩
  · simp only [List.map_cons, List.map_nil]
    decide
  · simp [instances.readable, procedure.readable, number.readable]

theorem StaticPointsTo.carries {entry : StaticPointsTo}
    (classNamed : entry.className ≠ "") (named : entry.name ≠ "")
    (levels : Nat) :
    Carries staticPointsTo StaticPointsTo.decode (levels + 2) entry.encode
      entry := by
  have className := carries_name classNamed (levels + 1)
  have instances := carries_instances entry.instances levels
  have name := carries_name named (levels + 1)
  refine ⟨?_, ?_, .object ?_ ?_⟩
  · simp only [staticPointsTo, all_cons_eq_nil_iff, all_nil, and_true]
    exact ⟨rfl, rfl, className.property rfl, instances.property rfl,
      name.property rfl⟩
  · simp only [StaticPointsTo.decode, bind_eq_ok_iff, pure_eq_ok_iff]
    exact ⟨(), rfl, _, className.field rfl, _, instances.fieldOr rfl _,
      _, name.field rfl, rfl⟩
  · simp only [List.map_cons, List.map_nil]
    decide
  · simp [className.readable, instances.readable, name.readable]

theorem Procedure.carries_code {body : Option (List Instruction)}
    (named : ∀ instruction ∈ body.getD [],
      ∀ field ∈ instruction.operation.reference?,
        field.className ≠ "" ∧ field.name ≠ "")
    (levels : Nat) :
    Carries (Json.Schema.all [Json.Schema.ofKind [.array, .null],
        Json.Schema.items instruction])
      (nullable (list Instruction.decode)) (levels + 4)
      (encodeOption (fun code => .array (code.map Instruction.encode)) body)
      body := by
  cases body with
  | none => exact ⟨rfl, rfl, .null⟩
  | some code =>
      have listed := carries_listOf fun instruction inCode =>
        Instruction.carries (named instruction inCode) levels
      refine ⟨?_, ?_, listed.readable⟩
      · have accepted := listed.accepted
        simp only [listOf, all_cons_eq_nil_iff, all_nil, and_true] at accepted ⊢
        exact ⟨rfl, accepted.2⟩
      · have notNull : Value.array (code.map Instruction.encode) ≠ .null := by
          simp
        exact Json.nullable_of_ne_null notNull listed.decoded

theorem Procedure.carries {procedure : Procedure}
    (writable : procedure.Writable) (levels : Nat) :
    Carries Program.Format.procedure Procedure.decode (levels + 5)
      procedure.encode procedure := by
  have calls := carries_listOf fun call listed =>
    CallTargets.carries (writable.targets call listed) (levels + 1)
  have className := carries_name writable.className (levels + 4)
  have context := carries_optionalText procedure.context (levels + 4)
  have descriptor := carries_text writable.descriptor (levels + 4)
  have code := carries_code writable.references levels
  have isStatic := carries_flag procedure.isStatic (levels + 4)
  have isSynchronized := carries_flag procedure.isSynchronized (levels + 4)
  have line := carries_optionalWord procedure.line (levels + 4)
  have name := carries_name writable.name (levels + 4)
  refine ⟨?_, ?_, .object ?_ ?_⟩
  · simp only [Program.Format.procedure, all_cons_eq_nil_iff, all_nil, and_true]
    refine ⟨rfl, rfl, calls.property rfl, className.property rfl,
      context.property rfl, descriptor.property rfl, ?_,
      isStatic.property rfl, isSynchronized.property rfl, line.property rfl,
      name.property rfl⟩
    exact code.property rfl
  · simp only [Procedure.decode, bind_eq_ok_iff, pure_eq_ok_iff]
    exact ⟨(), rfl, _, calls.fieldOr rfl _, _, className.field rfl,
      _, context.fieldOr rfl _, _, descriptor.field rfl,
      _, code.fieldOr rfl _, _, isStatic.fieldOr rfl _,
      _, isSynchronized.fieldOr rfl _, _, line.fieldOr rfl _,
      _, name.field rfl, rfl⟩
  · simp only [List.map_cons, List.map_nil]
    decide
  · simp [calls.readable, className.readable, context.readable,
      descriptor.readable, code.readable, isStatic.readable,
      isSynchronized.readable, line.readable, name.readable]

theorem Program.carries_pointsTo {program : Program}
    (writable : program.Writable) (levels : Nat) :
    Carries pointsTo Program.decodePointsTo (levels + 4)
      (.object [
        ("locals", .array (program.localPointsTo.map LocalPointsTo.encode)),
        ("static_fields",
          .array (program.staticPointsTo.map StaticPointsTo.encode))])
      (program.localPointsTo, program.staticPointsTo) := by
  have locals := carries_listOf fun entry listed =>
    LocalPointsTo.carries (writable.locals entry listed) levels
  have statics := carries_listOf fun entry listed =>
    StaticPointsTo.carries (writable.statics entry listed).1
      (writable.statics entry listed).2 levels
  refine ⟨?_, ?_, .object ?_ ?_⟩
  · simp only [pointsTo, all_cons_eq_nil_iff, all_nil, and_true]
    exact ⟨rfl, locals.property rfl, statics.property rfl⟩
  · simp only [Program.decodePointsTo, bind_eq_ok_iff, pure_eq_ok_iff]
    exact ⟨(), rfl, _, locals.fieldOr rfl _, _, statics.fieldOr rfl _, rfl⟩
  · simp only [List.map_cons, List.map_nil]
    decide
  · simp [locals.readable, statics.readable]

theorem Program.carries {program : Program} (writable : program.Writable)
    (levels : Nat) :
    Carries Format.program Program.decode (levels + 7) program.encode
      program := by
  have classes := carries_listOf fun declaration listed =>
    ClassDeclaration.carries (writable.classes declaration listed) (levels + 2)
  have pointsTo := carries_pointsTo writable (levels + 2)
  have procedures := carries_listOf fun procedure listed =>
    Procedure.carries (writable.procedures procedure listed) levels
  refine ⟨?_, ?_, .object ?_ ?_⟩
  · simp only [Format.program, all_cons_eq_nil_iff, all_nil, and_true]
    exact ⟨rfl, classes.property rfl, pointsTo.property rfl,
      procedures.property rfl⟩
  · simp only [Program.decode, bind_eq_ok_iff, pure_eq_ok_iff]
    exact ⟨(), rfl, _, classes.fieldOr rfl _, _, pointsTo.fieldOr rfl _,
      _, procedures.fieldOr rfl _, rfl⟩
  · simp only [List.map_cons, List.map_nil]
    decide
  · simp [classes.readable, pointsTo.readable, procedures.readable]

/-- Whatever text a value is read from, loading it goes on with the value. -/
theorem Program.load_of_parse {text : String} {value : Value}
    {program : Program} (parsed : Json.parse text = .ok value)
    (accepted : Format.program value = [])
    (decoded : Program.decode value = .ok program) :
    Program.load text = program.check := by
  simp only [Program.load, Program.read, parsed, Program.ofValue, accepted,
    decoded, mapError_ok, ok_bind]

/-- The JSON form of a program that can be written is accepted by the schema and
decoded to the program again, and it is read back from the text that is written
for it.  From any text of this form, and from that text in particular, loading
has the outcome of checking the program. -/
theorem Program.load_encoded (program : Program)
    (writable : program.Writable) :
    Format.program program.encode = [] ∧
    Program.decode program.encode = .ok program ∧
    Json.parse program.encode.compact = .ok program.encode ∧
    (∀ text, Json.parse text = .ok program.encode →
      Program.load text = program.check) ∧
    Program.load program.encode.compact = program.check := by
  have carried := Program.carries writable 120
  have parsed : Json.parse program.encode.compact = .ok program.encode :=
    Json.parseNested_compact carried.readable
  exact ⟨carried.accepted, carried.decoded, parsed,
    fun text parsed => load_of_parse parsed carried.accepted carried.decoded,
    load_of_parse parsed carried.accepted carried.decoded⟩

/-- A program with operations of all kinds, absent options, and the largest
numbers that the format carries. -/
def Program.extremes : Program :=
  { classes := [
      { name := "Cache", loader := .primordial,
        fields := [{ name := "size", descriptor := some "I" }] }]
    procedures := [
      { className := "Cache", name := "flush", descriptor := "()V",
        context := some "a \"quoted\" line\n", line := some 4294967295,
        body := some [
          { operation := .fieldRead ⟨"Cache", "size"⟩ none },
          { operation := .fieldWrite ⟨"Cache", "size"⟩ (some 4294967295) },
          { operation := .monitorEnter 1 },
          { operation := .monitorExit 1 },
          { operation := .invoke 0 },
          { operation := .other }],
        calls := [{ site := 0, targets := [18446744073709551615] }] }]
    localPointsTo := [
      { procedure := 0, value := 1, instances := [18446744073709551615] }]
    staticPointsTo := [{ className := "Cache", name := "size" }] }

theorem Program.extremes_loaded :
    Program.extremes.Writable ∧
      Program.load Program.extremes.encode.compact =
        Program.extremes.check := by
  have writable : Program.extremes.Writable := by
    constructor
    · intro declaration listed
      obtain rfl := List.mem_singleton.mp listed
      exact ⟨by decide, by decide⟩
    · intro procedure listed
      obtain rfl := List.mem_singleton.mp listed
      exact ⟨by decide, by decide, by decide, by decide, by decide⟩
    · decide
    · decide
  exact ⟨writable, (Program.load_encoded _ writable).2.2.2.2⟩

end LockAudit
