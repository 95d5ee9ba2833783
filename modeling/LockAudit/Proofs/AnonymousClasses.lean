import LockAudit.ClassName
import LockAudit.Proofs.WrittenDescriptors

/-!
# Names of anonymous classes

The name of an anonymous class is the name of the class around it, a `$` and a
number.  A class name is taken apart into the name of a class that is not
anonymous and the parts of the anonymous classes inside it in one way only, and
the enclosing class is found by taking the last part off as long as there is
one.
-/

namespace LockAudit

/-- What an anonymous class adds to the name of the class around it. -/
def AnonymousPart (part : String) : Prop :=
  ∃ number : String, number ≠ "" ∧
    (∀ digit ∈ number.toList, digit.isDigit = true) ∧ part = "$" ++ number

/-- The second class is an anonymous class right inside the first. -/
def Encloses (outer className : String) : Prop :=
  ∃ part, AnonymousPart part ∧ className = outer ++ part

/-- The class is not anonymous, and the other one lies in it with any number of
anonymous classes between them. -/
structure NamedStem (stem className : String) : Prop where
  parts : ∃ parts, (∀ part ∈ parts, AnonymousPart part) ∧
    className = stem ++ String.join parts
  named : ¬∃ outer, Encloses outer stem

theorem isNumeral_eq_isDigit (character : Char) :
    isNumeral character = character.isDigit :=
  rfl

/-- A `$` is no numeral, so the last one stands right before the number. -/
theorem dropAnonymous?_eq_some_iff {reversed outer : List Char} :
    dropAnonymous? reversed = some outer ↔
      ∃ number, number ≠ [] ∧ (∀ digit ∈ number, isNumeral digit = true) ∧
        reversed = number ++ '$' :: outer := by
  constructor
  · fun_cases dropAnonymous? reversed with
    | case1 first number outer dropped taken =>
        intro found
        cases found
        obtain ⟨whole, numerals, _⟩ :=
          takeWhile_and_dropWhile_eq_iff.mp ⟨taken, dropped⟩
        exact ⟨first :: number, List.cons_ne_nil _ _, numerals, whole⟩
    | case2 => simp
  · intro ended
    obtain ⟨number, nonempty, numerals, rfl⟩ := ended
    obtain ⟨taken, dropped⟩ : (number ++ '$' :: outer).takeWhile isNumeral =
          number ∧
        (number ++ '$' :: outer).dropWhile isNumeral = '$' :: outer :=
      takeWhile_and_dropWhile_eq_iff.mpr ⟨rfl, numerals, by simp [isNumeral]⟩
    obtain ⟨first, others, rfl⟩ := List.exists_cons_of_ne_nil nonempty
    simp only [dropAnonymous?, taken, dropped]

theorem encloses_iff {outer className : String} :
    Encloses outer className ↔
      dropAnonymous? className.toList.reverse =
        some outer.toList.reverse := by
  rw [dropAnonymous?_eq_some_iff]
  simp only [isNumeral_eq_isDigit]
  constructor
  · intro encloses
    obtain ⟨_, ⟨number, nonempty, digits, rfl⟩, rfl⟩ := encloses
    refine ⟨number.toList.reverse, ?_, ?_, ?_⟩
    · simpa using nonempty
    · simpa using digits
    · simp
  · intro ended
    obtain ⟨number, nonempty, digits, whole⟩ := ended
    refine ⟨_, ⟨String.ofList number.reverse, ?_, ?_, rfl⟩, ?_⟩
    · simpa using nonempty
    · simpa using digits
    · rw [List.reverse_eq_iff] at whole
      rw [← String.toList_inj, whole]
      simp

theorem length_lt_of_dropAnonymous? {reversed outer : List Char}
    (found : dropAnonymous? reversed = some outer) :
    outer.length < reversed.length := by
  obtain ⟨digits, _, _, rfl⟩ := dropAnonymous?_eq_some_iff.mp found
  rw [List.length_append, List.length_cons]
  omega

theorem dropAnonymousAll_of_none {reversed : List Char}
    (ended : dropAnonymous? reversed = none) (fuel : Nat) :
    dropAnonymousAll fuel reversed = reversed := by
  cases fuel with
  | zero => rfl
  | succ fuel => rw [dropAnonymousAll, ended]

/-- As many rounds as there are characters are enough. -/
theorem dropAnonymousAll_eq_of_length_le {reversed : List Char}
    {fuel other : Nat} (enough : reversed.length ≤ fuel)
    (otherEnough : reversed.length ≤ other) :
    dropAnonymousAll fuel reversed = dropAnonymousAll other reversed := by
  induction fuel generalizing reversed other with
  | zero =>
      rw [List.length_eq_zero_iff.mp (Nat.le_zero.mp enough),
        dropAnonymousAll_of_none rfl, dropAnonymousAll_of_none rfl]
  | succ fuel induction =>
      cases found : dropAnonymous? reversed with
      | none =>
          rw [dropAnonymousAll_of_none found, dropAnonymousAll_of_none found]
      | some outer =>
          have shorter := length_lt_of_dropAnonymous? found
          obtain ⟨other, rfl⟩ := Nat.exists_eq_succ_of_ne_zero
            (Nat.ne_zero_of_lt (Nat.lt_of_lt_of_le shorter otherEnough))
          rw [dropAnonymousAll, dropAnonymousAll, found]
          exact induction (by omega) (by omega)

theorem enclosingClass_of_encloses {outer className : String}
    (encloses : Encloses outer className) :
    enclosingClass className = enclosingClass outer := by
  have found := encloses_iff.mp encloses
  have shorter := length_lt_of_dropAnonymous? found
  unfold enclosingClass
  obtain ⟨fuel, enough⟩ := Nat.exists_eq_add_of_lt shorter
  simp only [enough, dropAnonymousAll, found]
  rw [dropAnonymousAll_eq_of_length_le (by omega) (Nat.le_refl _)]

theorem enclosingClass_of_named {className : String}
    (named : ¬∃ outer, Encloses outer className) :
    enclosingClass className = className := by
  have ended : dropAnonymous? className.toList.reverse = none := by
    apply Option.eq_none_iff_forall_ne_some.mpr
    intro outer found
    apply named
    refine ⟨String.ofList outer.reverse, encloses_iff.mpr ?_⟩
    simpa using found
  unfold enclosingClass
  simp [dropAnonymousAll_of_none ended]

theorem Encloses.length_lt {outer className : String}
    (encloses : Encloses outer className) :
    outer.length < className.length := by
  simpa [String.length_toList] using
    length_lt_of_dropAnonymous? (encloses_iff.mp encloses)

/-- Of several anonymous classes inside each other, all have the same
enclosing class. -/
theorem enclosingClass_append_parts (stem : String) {parts : List String}
    (anonymous : ∀ part ∈ parts, AnonymousPart part) :
    enclosingClass (stem ++ String.join parts) = enclosingClass stem := by
  induction parts generalizing stem with
  | nil => simp
  | cons part parts induction =>
      obtain ⟨first, others⟩ := List.forall_mem_cons.mp anonymous
      rw [String.join_cons, ← String.append_assoc, induction _ others]
      exact enclosingClass_of_encloses ⟨part, first, rfl⟩

theorem namedStem_enclosingClass (className : String) :
    NamedStem (enclosingClass className) className := by
  by_cases anonymous : ∃ outer, Encloses outer className
  · obtain ⟨outer, encloses⟩ := anonymous
    have shorter := encloses.length_lt
    obtain ⟨⟨parts, anonymous, whole⟩, named⟩ := namedStem_enclosingClass outer
    rw [enclosingClass_of_encloses encloses]
    refine ⟨?_, named⟩
    obtain ⟨part, last, rfl⟩ := encloses
    refine ⟨parts ++ [part], ?_, ?_⟩
    · rw [List.forall_mem_append]
      exact ⟨anonymous, by simpa using last⟩
    · rw [String.join_append, ← String.append_assoc, ← whole]
      simp
  · rw [enclosingClass_of_named anonymous]
    exact ⟨⟨[], by simp, by simp⟩, anonymous⟩
termination_by className.length

/-- The enclosing class is the one name that the anonymous parts at the end of a
class name can follow and that does not end in such a part itself.  It is found
however many more rounds are allowed, it encloses itself, and further anonymous
classes have the same one. -/
theorem enclosingClass_is_only_stem (className : String) :
    (∀ stem, NamedStem stem className ↔ stem = enclosingClass className) ∧
      (∀ fuel, className.length ≤ fuel →
        (dropAnonymousAll fuel className.toList.reverse).reverse =
          (enclosingClass className).toList) ∧
      enclosingClass (enclosingClass className) = enclosingClass className ∧
      ∀ part, AnonymousPart part →
        enclosingClass (className ++ part) = enclosingClass className := by
  refine ⟨?_, ?_, ?_, ?_⟩
  · intro stem
    constructor
    · intro isStem
      obtain ⟨parts, anonymous, rfl⟩ := isStem.parts
      rw [enclosingClass_append_parts stem anonymous,
        enclosingClass_of_named isStem.named]
    · intro same
      rw [same]
      exact namedStem_enclosingClass className
  · intro fuel enough
    rw [← String.length_toList, ← List.length_reverse] at enough
    rw [enclosingClass, String.toList_ofList,
      dropAnonymousAll_eq_of_length_le enough (Nat.le_refl _)]
  · exact enclosingClass_of_named (namedStem_enclosingClass className).named
  · intro part anonymous
    exact enclosingClass_of_encloses ⟨part, anonymous, rfl⟩

/-- A name with an empty part keeps that part's `$`. -/
theorem emptyPart_stem :
    AnonymousPart "$2" ∧ NamedStem "p/A$" "p/A$$1" ∧
      ¬NamedStem "p/A" "p/A$$1" ∧
      enclosingClass ("p/A$$1" ++ "$2") = "p/A$" := by
  obtain ⟨stems, _, _, appended⟩ := enclosingClass_is_only_stem "p/A$$1"
  have found : enclosingClass "p/A$$1" = "p/A$" := by decide +kernel
  have part : AnonymousPart "$2" :=
    ⟨"2", by decide, by simp [Char.isDigit], by decide⟩
  refine ⟨part, (stems _).mpr found.symm, ?_, (appended _ part).trans found⟩
  rw [stems, found]
  decide

example :
    enclosingClass "p/A$1$20" = "p/A" ∧ enclosingClass "$1" = "" ∧
      enclosingClass "p/A$1Local" = "p/A$1Local" ∧
      enclosingClass "p/A$" = "p/A$" := by
  decide +kernel

end LockAudit
