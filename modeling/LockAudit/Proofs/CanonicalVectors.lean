import LockAudit.Proofs.BitVectorSets

/-!
# Canonical bit vectors

A vector is canonical when its last word is not zero.  The vectors made from
members and unions are canonical, and among canonical vectors a set has only one
form, so that equal sets are equal vectors.
-/

namespace LockAudit

namespace BitVector

/-- The last word, if there is one, holds a bit. -/
def Canonical (vector : BitVector) : Prop :=
  vector.words.getLast? ≠ some 0

instance (vector : BitVector) : Decidable vector.Canonical :=
  inferInstanceAs (Decidable (vector.words.getLast? ≠ some 0))

theorem canonical_empty : (∅ : BitVector).Canonical := by
  intro last
  cases last

theorem getLast?_tail_ne {word : UInt64} {words : List UInt64}
    (last : (word :: words).getLast? ≠ some 0) :
    words.getLast? ≠ some 0 := by
  intro zero
  apply last
  rw [List.getLast?_cons, zero]
  rfl

theorem joinWord_ne_nil (mask : UInt64) (index : Nat) (words : List UInt64) :
    joinWord mask index words ≠ [] := by
  cases index <;> cases words <;> simp [joinWord]

theorem getLast?_cons_ne {word : UInt64} {words : List UInt64}
    (nonempty : words ≠ []) (last : words.getLast? ≠ some 0) :
    (word :: words).getLast? ≠ some 0 := by
  rwa [List.getLast?_cons_of_ne_nil nonempty]

theorem getLast?_joinWord_ne {mask : UInt64} (set : mask ≠ 0) (index : Nat)
    {words : List UInt64} (last : words.getLast? ≠ some 0) :
    (joinWord mask index words).getLast? ≠ some 0 := by
  fun_induction joinWord mask index words with
  | case1 => simpa using set
  | case2 word words =>
      cases words with
      | nil =>
          intro zero
          have joined : word ||| mask = 0 := Option.some.inj zero
          exact set (UInt64.or_eq_zero_iff.mp joined).2
      | cons next words => exact last
  | case3 index induction =>
      exact getLast?_cons_ne (joinWord_ne_nil mask index []) (induction last)
  | case4 index word words induction =>
      apply getLast?_cons_ne (joinWord_ne_nil mask index words)
      exact induction (getLast?_tail_ne last)

theorem Canonical.set {vector : BitVector} (canonical : vector.Canonical)
    (bit : Nat) : (vector.set bit).Canonical := by
  have inWord : bit % wordBits < wordBits := Nat.mod_lt bit (by decide)
  have marked :
      ((1 : UInt64) <<< (bit % wordBits).toUInt64).toNat.testBit
        (bit % wordBits) = true := by
    rw [testBit_mask inWord, decide_eq_true rfl]
  apply getLast?_joinWord_ne _ (bit / wordBits) canonical
  intro zero
  simp [zero] at marked

theorem canonical_foldl_set {vector : BitVector} (canonical : vector.Canonical)
    (bits : List Nat) : (bits.foldl BitVector.set vector).Canonical := by
  induction bits generalizing vector with
  | nil => exact canonical
  | cons bit bits induction => exact induction (canonical.set bit)

theorem canonical_ofList (bits : List Nat) : (ofList bits).Canonical :=
  canonical_foldl_set canonical_empty bits

theorem getLast?_unionWords_ne {left right : List UInt64}
    (leftLast : left.getLast? ≠ some 0) (rightLast : right.getLast? ≠ some 0) :
    (unionWords left right).getLast? ≠ some 0 := by
  fun_induction unionWords left right with
  | case1 right => exact rightLast
  | case2 left => exact leftLast
  | case3 leftWord left rightWord right induction =>
      have later := induction (getLast?_tail_ne leftLast)
        (getLast?_tail_ne rightLast)
      rw [List.getLast?_cons]
      cases last : (unionWords left right).getLast? with
      | some word =>
          rw [last] at later
          exact later
      | none =>
          have union := List.getLast?_eq_none_iff.mp last
          have leftEmpty : left = [] := by
            cases left with
            | nil => rfl
            | cons => cases right <;> cases union
          subst leftEmpty
          have leftWordSet : leftWord ≠ 0 := by
            intro zero
            exact leftLast (by rw [zero]; rfl)
          intro zero
          have joined : leftWord ||| rightWord = 0 := Option.some.inj zero
          exact leftWordSet (UInt64.or_eq_zero_iff.mp joined).1

theorem Canonical.union {left right : BitVector} (leftCanonical : left.Canonical)
    (rightCanonical : right.Canonical) : (left ∪ right).Canonical :=
  getLast?_unionWords_ne leftCanonical rightCanonical

theorem wordAt_eq_of_get_eq {left right : BitVector}
    (same : ∀ bit, left.get bit = right.get bit) (index : Nat) :
    wordAt left.words index = wordAt right.words index := by
  apply UInt64.toNat_inj.mp
  apply Nat.eq_of_testBit_eq
  intro bit
  by_cases inWord : bit < wordBits
  · rw [← get_place inWord, ← get_place inWord, same]
  · have beyond : wordBits ≤ bit := Nat.le_of_not_lt inWord
    rw [testBit_beyond _ beyond, testBit_beyond _ beyond]

/-- A list of words that agrees with a longer one ends in a zero word there. -/
theorem length_le_of_wordAt_eq {left right : List UInt64}
    (last : right.getLast? ≠ some 0)
    (same : ∀ index, wordAt left index = wordAt right index) :
    right.length ≤ left.length := by
  apply Nat.le_of_not_lt
  intro longer
  apply last
  have inRange : right.length - 1 < right.length := by omega
  have missing : left[right.length - 1]? = none :=
    List.getElem?_eq_none (by omega)
  have zero := same (right.length - 1)
  rw [wordAt, wordAt, missing, List.getElem?_eq_getElem inRange] at zero
  rw [List.getLast?_eq_getElem?, List.getElem?_eq_getElem inRange]
  exact congrArg some zero.symm

/-- Canonical vectors with the same bits are equal. -/
theorem Canonical.eq_of_get_eq {left right : BitVector}
    (leftCanonical : left.Canonical) (rightCanonical : right.Canonical)
    (same : ∀ bit, left.get bit = right.get bit) : left = right := by
  have words := wordAt_eq_of_get_eq same
  have sameLength : left.words.length = right.words.length :=
    Nat.le_antisymm
      (length_le_of_wordAt_eq leftCanonical fun index => (words index).symm)
      (length_le_of_wordAt_eq rightCanonical words)
  have equal : left.words = right.words := by
    apply List.ext_getElem sameLength
    intro index leftBound rightBound
    have word := words index
    rwa [wordAt, wordAt, List.getElem?_eq_getElem leftBound,
      List.getElem?_eq_getElem rightBound] at word
  calc
    left = ⟨left.words⟩ := rfl
    _ = right := by rw [equal]

end BitVector

end LockAudit
