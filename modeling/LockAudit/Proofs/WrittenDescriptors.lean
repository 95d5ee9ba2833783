import LockAudit.Descriptor
import LockAudit.Proofs.Outcomes

/-!
# Descriptors as they are written

Reading a descriptor undoes writing it: a text is read as a descriptor exactly
when the descriptor can be written and its written form stands at the front of
the text.  No written form is the front of another one, so what is read is
determined by the text.
-/

namespace LockAudit

/-- A semicolon ends the name of a class and cannot be part of it. -/
def ElementType.WellFormed : ElementType → Prop
  | object className => ';' ∉ className.toList
  | _ => True

/-- An array has at least one dimension and at most 255.  That its elements are
no arrays themselves needs no condition: the type of an element says so. -/
def TypeDescriptor.WellFormed : TypeDescriptor → Prop
  | plain element => element.WellFormed
  | array element dimensions =>
      element.WellFormed ∧ 1 ≤ dimensions ∧ dimensions ≤ 255

structure MethodDescriptor.WellFormed (method : MethodDescriptor) : Prop where
  parameters : ∀ type ∈ method.parameters, type.WellFormed
  result : method.result.WellFormed

/-- Where the run of items that pass a test ends. -/
theorem takeWhile_and_dropWhile_eq_iff {test : α → Bool}
    {items front rest : List α} :
    items.takeWhile test = front ∧ items.dropWhile test = rest ↔
      items = front ++ rest ∧ (∀ item ∈ front, test item = true) ∧
        ∀ item ∈ rest.head?, test item = false := by
  constructor
  · intro split
    obtain ⟨passing, failing⟩ := split
    subst passing failing
    refine ⟨List.takeWhile_append_dropWhile.symm,
      List.all_eq_true.mp List.all_takeWhile, ?_⟩
    intro item first
    have failed := List.head?_dropWhile_not test items
    rw [Option.mem_def.mp first] at failed
    exact failed
  · intro split
    obtain ⟨whole, passing, failing⟩ := split
    rw [whole, List.takeWhile_append_of_pos passing,
      List.dropWhile_append_of_pos passing]
    cases rest with
    | nil => simp
    | cons head tail => simp [failing head rfl]

/-- An element type as it is written, or the end of a parameter list. -/
def ElementType.writeOrEnd : Option ElementType → List Char
  | some element => element.write
  | none => [')']

theorem readElement?_writeOrEnd {element? : Option ElementType}
    (wellFormed : ∀ element ∈ element?, element.WellFormed)
    (rest : List Char) :
    readElement? (ElementType.writeOrEnd element? ++ rest) =
      .ok (element?, rest) := by
  cases element? with
  | none => rfl
  | some element =>
      cases element with
      | object className =>
          have free : ';' ∉ className.toList := wellFormed _ rfl
          have split :
              (className.toList ++ ';' :: rest).takeWhile (· ≠ ';') =
                className.toList ∧
              (className.toList ++ ';' :: rest).dropWhile (· ≠ ';') =
                ';' :: rest :=
            takeWhile_and_dropWhile_eq_iff.mpr ⟨rfl, by grind, by simp⟩
          obtain ⟨named, ended⟩ := split
          simp only [ElementType.writeOrEnd, ElementType.write,
            List.cons_append, List.append_assoc, List.nil_append, readElement?,
            named, ended, String.ofList_toList]
      | _ => rfl

theorem writeOrEnd_of_readElement? {text rest : List Char}
    {element? : Option ElementType}
    (success : readElement? text = .ok (element?, rest)) :
    (∀ element ∈ element?, element.WellFormed) ∧
      text = ElementType.writeOrEnd element? ++ rest := by
  revert success
  fun_cases readElement? text with
  | case1 => simp
  | case12 => simp
  | case14 => simp
  | case13 letters mark after ended =>
      intro success
      cases success
      obtain ⟨whole, inside, first⟩ :=
        takeWhile_and_dropWhile_eq_iff.mp ⟨rfl, ended⟩
      have semicolon : mark = ';' := by simpa using first mark rfl
      subst semicolon
      constructor
      · intro element member
        cases member
        intro held
        rw [String.toList_ofList] at held
        simpa using inside _ held
      · simp only [ElementType.writeOrEnd, ElementType.write,
          String.toList_ofList, List.cons_append, List.append_assoc,
          List.nil_append]
        exact congrArg _ whole
  | _ =>
      intro success
      cases success
      exact ⟨by simp [ElementType.WellFormed], rfl⟩

/-- A type as it is written, or the end of a parameter list. -/
def TypeDescriptor.writeOrEnd : Option TypeDescriptor → List Char
  | some type => type.write
  | none => [')']

/-- The brackets of an array end where its element type begins. -/
theorem brackets_and_element (dimensions : Nat)
    (element? : Option ElementType) (rest : List Char) :
    let element := ElementType.writeOrEnd element? ++ rest
    let text := List.replicate dimensions '[' ++ element
    text.takeWhile (· = '[') = List.replicate dimensions '[' ∧
      text.dropWhile (· = '[') = element := by
  refine takeWhile_and_dropWhile_eq_iff.mpr ⟨rfl, by simp, ?_⟩
  cases element? with
  | none => simp [ElementType.writeOrEnd]
  | some element =>
      cases element <;> simp [ElementType.writeOrEnd, ElementType.write]

theorem readType?_brackets {element : ElementType} {dimensions : Nat}
    (wellFormed : element.WellFormed) (bounded : dimensions ≤ 255)
    (rest : List Char) :
    readType? (List.replicate dimensions '[' ++ (element.write ++ rest)) =
      .ok (some (if dimensions = 0 then .plain element
        else .array element dimensions), rest) := by
  obtain ⟨brackets, behind⟩ :=
    brackets_and_element dimensions (some element) rest
  have read : readElement? (ElementType.writeOrEnd (some element) ++ rest) =
      .ok (some element, rest) :=
    readElement?_writeOrEnd (by simpa using wellFormed) rest
  change readType? (List.replicate dimensions '[' ++
    (ElementType.writeOrEnd (some element) ++ rest)) = _
  unfold readType?
  rw [brackets, behind, read, List.length_replicate,
    if_neg (Nat.not_lt.mpr bounded)]
  rfl

theorem readType?_writeOrEnd {type? : Option TypeDescriptor}
    (wellFormed : ∀ type ∈ type?, type.WellFormed) (rest : List Char) :
    readType? (TypeDescriptor.writeOrEnd type? ++ rest) =
      .ok (type?, rest) := by
  cases type? with
  | none => rfl
  | some type =>
      cases type with
      | plain element =>
          have elementFormed : element.WellFormed := wellFormed _ rfl
          exact readType?_brackets elementFormed (Nat.zero_le 255) rest
      | array element dimensions =>
          have arrayFormed : element.WellFormed ∧
              1 ≤ dimensions ∧ dimensions ≤ 255 := wellFormed _ rfl
          obtain ⟨elementFormed, positive, bounded⟩ := arrayFormed
          have read := readType?_brackets elementFormed bounded rest
          rw [if_neg (by omega)] at read
          simpa only [TypeDescriptor.writeOrEnd, TypeDescriptor.write,
            List.append_assoc] using read

theorem writeOrEnd_of_readType? {text rest : List Char}
    {type? : Option TypeDescriptor}
    (success : readType? text = .ok (type?, rest)) :
    (∀ type ∈ type?, type.WellFormed) ∧
      text = TypeDescriptor.writeOrEnd type? ++ rest := by
  have brackets : List.replicate (text.takeWhile (· = '[')).length '[' ++
      text.dropWhile (· = '[') = text := by
    obtain ⟨whole, inside, _⟩ :
        text = text.takeWhile (· = '[') ++ text.dropWhile (· = '[') ∧ _ ∧ _ :=
      takeWhile_and_dropWhile_eq_iff.mp ⟨rfl, rfl⟩
    rw [← List.eq_replicate_iff.mpr ⟨rfl, by simpa using inside⟩]
    exact whole.symm
  unfold readType? at success
  dsimp only at success
  generalize (text.takeWhile (· = '[')).length = dimensions at success brackets
  split at success
  · cases success
  · next bounded =>
    obtain ⟨pair, read, finish⟩ := bind_eq_ok_iff.mp success
    obtain ⟨element?, after⟩ := pair
    obtain ⟨wellFormed, written⟩ := writeOrEnd_of_readElement? read
    rw [written] at brackets
    cases element? with
    | none =>
        by_cases flat : dimensions = 0
        · simp only [flat, if_true, pure_eq_ok_iff] at finish
          cases finish
          subst flat
          exact ⟨by simp, brackets.symm⟩
        · simp only [flat, if_false] at finish
          cases finish
    | some element =>
        simp only [pure_eq_ok_iff] at finish
        cases finish
        have elementFormed := wellFormed element rfl
        by_cases flat : dimensions = 0
        · subst flat
          exact ⟨by simpa [TypeDescriptor.WellFormed] using elementFormed,
            brackets.symm⟩
        · rw [if_neg flat]
          refine ⟨?_, ?_⟩
          · intro type member
            cases member
            exact ⟨elementFormed, by omega, by omega⟩
          · rw [← brackets]
            simp only [TypeDescriptor.writeOrEnd, TypeDescriptor.write,
              ElementType.writeOrEnd, List.append_assoc]

theorem readType?_eq_ok_iff {text rest : List Char}
    {type? : Option TypeDescriptor} :
    readType? text = .ok (type?, rest) ↔
      (∀ type ∈ type?, type.WellFormed) ∧
        text = TypeDescriptor.writeOrEnd type? ++ rest := by
  constructor
  · exact writeOrEnd_of_readType?
  · intro written
    obtain ⟨wellFormed, front⟩ := written
    rw [front]
    exact readType?_writeOrEnd wellFormed rest

theorem TypeDescriptor.length_write_pos (type : TypeDescriptor) :
    0 < type.write.length := by
  rw [List.length_pos_iff]
  cases type with
  | plain element => cases element <;> simp [write, ElementType.write]
  | array element dimensions =>
      cases element <;> simp [write, ElementType.write]

theorem length_lt_of_readType? {text rest : List Char} {type : TypeDescriptor}
    (read : readType? text = .ok (some type, rest)) :
    rest.length < text.length := by
  obtain ⟨_, written⟩ := readType?_eq_ok_iff.mp read
  rw [written, List.length_append]
  exact Nat.lt_add_of_pos_left type.length_write_pos

/-- Parameters are read when the bound exceeds their number. -/
theorem readParameters_eq_ok_iff {fuel : Nat} {text rest : List Char}
    {types : List TypeDescriptor} :
    readParameters fuel text = .ok (types, rest) ↔
      types.length < fuel ∧ (∀ type ∈ types, type.WellFormed) ∧
        text = types.flatMap TypeDescriptor.write ++ ')' :: rest := by
  induction fuel generalizing text types with
  | zero => simp [readParameters]
  | succ fuel induction =>
      simp only [readParameters, bind_eq_ok_iff, Prod.exists,
        readType?_eq_ok_iff]
      constructor
      · intro success
        obtain ⟨type?, after, ⟨wellFormed, written⟩, finish⟩ := success
        cases type? with
        | none =>
            cases pure_eq_ok_iff.mp finish
            exact ⟨Nat.succ_pos fuel, by simp, written⟩
        | some type =>
            obtain ⟨⟨types, last⟩, read, finish⟩ := bind_eq_ok_iff.mp finish
            cases pure_eq_ok_iff.mp finish
            obtain ⟨short, typesFormed, front⟩ := induction.mp read
            refine ⟨Nat.succ_lt_succ short, ?_, ?_⟩
            · exact List.forall_mem_cons.mpr ⟨wellFormed type rfl, typesFormed⟩
            · rw [written, front, List.flatMap_cons, List.append_assoc]
              rfl
      · intro written
        obtain ⟨short, wellFormed, front⟩ := written
        cases types with
        | nil => exact ⟨none, rest, ⟨by simp, front⟩, rfl⟩
        | cons type types =>
            obtain ⟨typeFormed, typesFormed⟩ :=
              List.forall_mem_cons.mp wellFormed
            have read := induction.mpr
              ⟨Nat.lt_of_succ_lt_succ short, typesFormed, rfl⟩
            refine ⟨some type, _, ⟨by simpa using typeFormed, ?_⟩,
              bind_eq_ok_iff.mpr ⟨_, read, rfl⟩⟩
            rw [front, List.flatMap_cons, List.append_assoc]
            rfl

/-- Every parameter takes a character, so a bound that exceeds the length of
the text is never what ends the reading. -/
theorem readParameters_of_length_lt {fuel other : Nat} {text : List Char}
    (enough : text.length < fuel) (otherEnough : text.length < other) :
    readParameters fuel text = readParameters other text := by
  induction fuel generalizing other text with
  | zero => cases enough
  | succ fuel induction =>
      cases other with
      | zero => cases otherEnough
      | succ other =>
          rw [readParameters, readParameters]
          cases read : readType? text with
          | error fault => rfl
          | ok pair =>
              obtain ⟨type?, rest⟩ := pair
              cases type? with
              | none => rfl
              | some type =>
                  have shorter := length_lt_of_readType? read
                  simp only [ok_bind]
                  have same : readParameters fuel rest =
                      readParameters other rest :=
                    induction (by omega) (by omega)
                  rw [same]

theorem length_le_of_flatMap_write {types : List TypeDescriptor} :
    types.length ≤ (types.flatMap TypeDescriptor.write).length := by
  induction types with
  | nil => simp
  | cons type types induction =>
      have taken := type.length_write_pos
      rw [List.flatMap_cons, List.length_append, List.length_cons]
      omega

theorem exists_eq_ofList_append_iff {text : String} {front : List Char} :
    (∃ rest, text = String.ofList front ++ rest) ↔
      ∃ rest, text.toList = front ++ rest := by
  constructor
  · intro split
    obtain ⟨rest, whole⟩ := split
    exact ⟨rest.toList, by simp [whole]⟩
  · intro split
    obtain ⟨rest, whole⟩ := split
    refine ⟨String.ofList rest, String.toList_inj.mp ?_⟩
    simpa using whole

theorem TypeDescriptor.parse_eq_ok_iff {text : String}
    {type : TypeDescriptor} :
    parse text = .ok type ↔
      type.WellFormed ∧ ∃ rest, text = toString type ++ rest := by
  have read : parse text = .ok type ↔
      ∃ rest, readType? text.toList = .ok (some type, rest) := by
    simp only [parse, bind_eq_ok_iff, Prod.exists]
    constructor
    · intro success
      obtain ⟨type?, rest, read, finish⟩ := success
      cases type? with
      | none => cases finish
      | some type =>
          cases pure_eq_ok_iff.mp finish
          exact ⟨rest, read⟩
    · intro success
      obtain ⟨rest, read⟩ := success
      exact ⟨some type, rest, read, rfl⟩
  rw [read]
  simp only [readType?_eq_ok_iff, Option.mem_some, forall_eq',
    exists_and_left]
  exact and_congr_right fun _ => exists_eq_ofList_append_iff.symm

theorem MethodDescriptor.parse_eq_ok_iff {text : String}
    {method : MethodDescriptor} :
    parse text = .ok method ↔
      method.WellFormed ∧ ∃ rest, text = toString method ++ rest := by
  have written : (∃ rest, text = toString method ++ rest) ↔
      ∃ rest, text.toList = method.write ++ rest :=
    exists_eq_ofList_append_iff
  rw [written]
  unfold parse
  split
  · next letters opened =>
    rw [opened]
    simp only [bind_eq_ok_iff, Prod.exists]
    constructor
    · intro success
      obtain ⟨parameters, after, readable, result?, rest, read, finish⟩ := success
      obtain ⟨_, parametersFormed, front⟩ := readParameters_eq_ok_iff.mp readable
      obtain ⟨resultFormed, behind⟩ := readType?_eq_ok_iff.mp read
      cases result? with
      | none => cases finish
      | some result =>
          cases pure_eq_ok_iff.mp finish
          refine ⟨⟨parametersFormed, resultFormed result rfl⟩, rest, ?_⟩
          simp [front, behind, write, TypeDescriptor.writeOrEnd]
    · intro accepted
      obtain ⟨wellFormed, rest, whole⟩ := accepted
      have front : letters =
          method.parameters.flatMap TypeDescriptor.write ++
            ')' :: (method.result.write ++ rest) := by
        simpa [write] using whole
      have few : method.parameters.length ≤
          (method.parameters.flatMap TypeDescriptor.write).length :=
        length_le_of_flatMap_write
      have short : method.parameters.length < letters.length + 1 := by
        rw [front, List.length_append]
        omega
      exact ⟨_, _, readParameters_eq_ok_iff.mpr
          ⟨short, wellFormed.parameters, front⟩,
        some method.result, rest, readType?_eq_ok_iff.mpr
          ⟨by simpa using wellFormed.result, rfl⟩, rfl⟩
  · next unopened =>
    constructor
    · intro success
      cases success
    · intro accepted
      obtain ⟨_, rest, whole⟩ := accepted
      exact (unopened _ whole).elim

theorem methodType_eq_ok_iff {text : String} {method : MethodDescriptor} :
    methodType text = .ok method ↔
      method.WellFormed ∧ ∃ rest, text = toString method ++ rest := by
  rw [methodType, mapError_eq_ok_iff, MethodDescriptor.parse_eq_ok_iff]

theorem fieldType_eq_ok_iff {text : String} {type : TypeDescriptor} :
    fieldType text = .ok type ↔
      TypeDescriptor.parse text = .ok type ∧ type ≠ .plain .void := by
  unfold fieldType
  cases parsed : TypeDescriptor.parse text with
  | error fault => simp [bind, Except.bind]
  | ok found =>
      rw [mapError_ok, ok_bind, Except.ok.injEq]
      by_cases void : found = .plain .void
      · rw [if_pos void]
        constructor
        · intro success
          cases success
        · intro same
          obtain ⟨sameType, notVoid⟩ := same
          exact (notVoid (sameType ▸ void)).elim
      · rw [if_neg void, pure_eq_ok_iff]
        constructor
        · intro same
          exact ⟨same, same ▸ void⟩
        · exact And.left

/-- Reading undoes writing.  A text is read as the descriptor of a method, or
of a field, exactly when the descriptor is well formed, for a field not void,
and its written form is the front of the text.  So a written descriptor is read
back, the front that is read is the only one that could be, and the bound on
the number of parameters never ends the reading. -/
theorem reading_undoes_writing :
    (∀ (text : String) (method : MethodDescriptor),
      methodType text = .ok method ↔
        method.WellFormed ∧ ∃ rest, text = toString method ++ rest) ∧
    (∀ (text : String) (type : TypeDescriptor),
      fieldType text = .ok type ↔
        type.WellFormed ∧ type ≠ .plain .void ∧
          ∃ rest, text = toString type ++ rest) ∧
    (∀ method : MethodDescriptor, method.WellFormed →
      methodType (toString method) = .ok method) ∧
    (∀ type : TypeDescriptor, type.WellFormed → type ≠ .plain .void →
      fieldType (toString type) = .ok type) ∧
    (∀ (left right : MethodDescriptor) (leftRest rightRest : String),
      left.WellFormed → right.WellFormed →
      toString left ++ leftRest = toString right ++ rightRest →
      left = right ∧ leftRest = rightRest) ∧
    (∀ (left right : TypeDescriptor) (leftRest rightRest : String),
      left.WellFormed → right.WellFormed →
      toString left ++ leftRest = toString right ++ rightRest →
      left = right ∧ leftRest = rightRest) ∧
    ∀ (letters : List Char) (fuel : Nat), letters.length < fuel →
      readParameters fuel letters =
        readParameters (letters.length + 1) letters := by
  have rest_eq : ∀ {front leftRest rightRest : String},
      front ++ leftRest = front ++ rightRest → leftRest = rightRest := by
    intro front leftRest rightRest same
    have letters := congrArg String.toList same
    rw [String.toList_append, String.toList_append] at letters
    exact String.toList_inj.mp (List.append_cancel_left letters)
  refine ⟨fun _ _ => methodType_eq_ok_iff, ?_, ?_, ?_, ?_, ?_,
    fun letters _ enough =>
      readParameters_of_length_lt enough letters.length.lt_succ_self⟩
  · intro text type
    rw [fieldType_eq_ok_iff, TypeDescriptor.parse_eq_ok_iff, and_right_comm,
      and_assoc]
  · intro method wellFormed
    exact methodType_eq_ok_iff.mpr ⟨wellFormed, "", by simp⟩
  · intro type wellFormed notVoid
    refine fieldType_eq_ok_iff.mpr ⟨?_, notVoid⟩
    exact TypeDescriptor.parse_eq_ok_iff.mpr ⟨wellFormed, "", by simp⟩
  · intro left right leftRest rightRest leftFormed rightFormed same
    have readLeft := methodType_eq_ok_iff.mpr ⟨leftFormed, leftRest, rfl⟩
    have readRight := methodType_eq_ok_iff.mpr ⟨rightFormed, rightRest, same⟩
    cases readLeft.symm.trans readRight
    exact ⟨rfl, rest_eq same⟩
  · intro left right leftRest rightRest leftFormed rightFormed same
    have readLeft := TypeDescriptor.parse_eq_ok_iff.mpr
      ⟨leftFormed, leftRest, rfl⟩
    have readRight := TypeDescriptor.parse_eq_ok_iff.mpr
      ⟨rightFormed, rightRest, same⟩
    cases readLeft.symm.trans readRight
    exact ⟨rfl, rest_eq same⟩

/-- A parameter list with a class whose name has a parenthesis in it and with
a void parameter. -/
def strangeMethod : MethodDescriptor where
  parameters :=
    [.plain .int, .array (.object "p/A(") 2, .plain (.object ""), .plain .void]
  result := .array .void 1

theorem strangeMethod_read_back :
    strangeMethod.WellFormed ∧ toString strangeMethod = "(I[[Lp/A(;L;V)[V" ∧
      methodType "(I[[Lp/A(;L;V)[V)Q" = .ok strangeMethod ∧
      (∀ (method : MethodDescriptor) (rest : String), method.WellFormed →
        "(I[[Lp/A(;L;V)[V)Q" = toString method ++ rest →
        method = strangeMethod ∧ rest = ")Q") ∧
      fieldType "[VI" = .ok (.array .void 1) ∧
      readParameters 9 "[J)V".toList = readParameters 5 "[J)V".toList := by
  obtain ⟨methods, fields, _, _, methodFront, _, bound⟩ :=
    reading_undoes_writing
  have wellFormed : strangeMethod.WellFormed := by
    constructor
    · simp [strangeMethod, TypeDescriptor.WellFormed, ElementType.WellFormed]
    · simp [strangeMethod, TypeDescriptor.WellFormed, ElementType.WellFormed]
  have written : toString strangeMethod = "(I[[Lp/A(;L;V)[V" := by
    decide +kernel
  have whole : "(I[[Lp/A(;L;V)[V)Q" = toString strangeMethod ++ ")Q" := by
    rw [written]
    decide +kernel
  refine ⟨wellFormed, written, (methods _ _).mpr ⟨wellFormed, _, whole⟩, ?_,
    ?_, bound _ 9 (by decide)⟩
  · intro method rest methodFormed front
    exact methodFront method strangeMethod rest ")Q" methodFormed wellFormed
      (front.symm.trans whole)
  · refine (fields _ _).mpr ⟨?_, by decide, "I", by decide +kernel⟩
    simp [TypeDescriptor.WellFormed, ElementType.WellFormed]

end LockAudit
