import LockAudit.Dataflow.BitVector
import Mathlib.Data.Finset.Card
import Mathlib.Data.Finset.Range
import Mathlib.Data.Nat.Find

/-!
# Bit vectors as sets

`BitVector.get` is the view through which vectors are reasoned about: what the
operations do to the set of bits for which it holds.  Words beyond the last one
count as zero, so nothing here depends on how many words a vector has.
-/

namespace LockAudit

namespace BitVector

/-- The word at an index, zero beyond the last one. -/
def wordAt (words : List UInt64) (index : Nat) : UInt64 :=
  words[index]?.getD 0

@[simp] theorem wordAt_nil (index : Nat) : wordAt [] index = 0 :=
  rfl

@[simp] theorem wordAt_cons_zero (word : UInt64) (words : List UInt64) :
    wordAt (word :: words) 0 = word :=
  rfl

@[simp] theorem wordAt_cons_succ (word : UInt64) (words : List UInt64)
    (index : Nat) : wordAt (word :: words) (index + 1) = wordAt words index :=
  rfl

theorem get_eq_testBit (vector : BitVector) (bit : Nat) :
    vector.get bit =
      (wordAt vector.words (bit / wordBits)).toNat.testBit
        (bit % wordBits) := by
  unfold get wordAt
  cases vector.words[bit / wordBits]? with
  | none => simp
  | some word => rfl

theorem get_place {vector : BitVector} {index offset : Nat}
    (inWord : offset < wordBits) :
    vector.get (wordBits * index + offset) =
      (wordAt vector.words index).toNat.testBit offset := by
  have quotient : (wordBits * index + offset) / wordBits = index := by
    rw [Nat.mul_add_div (by decide), Nat.div_eq_of_lt inWord, Nat.add_zero]
  have remainder : (wordBits * index + offset) % wordBits = offset := by
    rw [Nat.mul_add_mod, Nat.mod_eq_of_lt inWord]
  rw [get_eq_testBit, quotient, remainder]

@[simp] theorem get_empty (bit : Nat) : (∅ : BitVector).get bit = false := by
  rw [get_eq_testBit]
  exact Nat.zero_testBit _

theorem wordAt_unionWords (left right : List UInt64) (index : Nat) :
    wordAt (unionWords left right) index =
      wordAt left index ||| wordAt right index := by
  fun_induction unionWords left right generalizing index with
  | case1 right => simp
  | case2 left => simp
  | case3 leftWord left rightWord right induction =>
      cases index with
      | zero => rfl
      | succ index => exact induction index

@[simp] theorem get_union (left right : BitVector) (bit : Nat) :
    (left ∪ right).get bit = (left.get bit || right.get bit) := by
  have words : wordAt (left ∪ right).words (bit / wordBits) =
      wordAt left.words (bit / wordBits) |||
        wordAt right.words (bit / wordBits) :=
    wordAt_unionWords left.words right.words (bit / wordBits)
  simp only [get_eq_testBit, words, UInt64.toNat_or, Nat.testBit_or]

theorem lacksWords_iff {left right : List UInt64} :
    lacksWords left right = true ↔
      ∃ index, wordAt left index ||| wordAt right index ≠ wordAt left index := by
  fun_induction lacksWords left right with
  | case1 left => simp
  | case2 rightWord right induction =>
      rw [← Nat.or_exists_add_one, Bool.or_eq_true, induction]
      simp
  | case3 leftWord left rightWord right induction =>
      rw [← Nat.or_exists_add_one, Bool.or_eq_true, induction]
      simp

theorem testBit_beyond (word : UInt64) {bit : Nat} (beyond : wordBits ≤ bit) :
    word.toNat.testBit bit = false := by
  apply Nat.testBit_lt_two_pow
  calc
    word.toNat < 2 ^ wordBits := word.toNat_lt
    _ ≤ 2 ^ bit := Nat.pow_le_pow_right (by decide) beyond

/-- Joining a word changes the other one when it brings a bit. -/
theorem or_ne_iff {word other : UInt64} :
    word ||| other ≠ word ↔
      ∃ bit, bit < wordBits ∧ other.toNat.testBit bit = true ∧
        word.toNat.testBit bit = false := by
  constructor
  · intro different
    apply Classical.byContradiction
    intro none
    apply different
    apply UInt64.toNat_inj.mp
    apply Nat.eq_of_testBit_eq
    intro bit
    rw [UInt64.toNat_or, Nat.testBit_or]
    by_cases inWord : bit < wordBits
    · cases brought : other.toNat.testBit bit with
      | false => simp
      | true =>
          cases held : word.toNat.testBit bit with
          | false => exact (none ⟨bit, inWord, brought, held⟩).elim
          | true => rfl
    · simp [testBit_beyond other (Nat.le_of_not_lt inWord)]
  · intro gained same
    obtain ⟨bit, _, brought, lacking⟩ := gained
    have joined := congrArg (fun word => word.toNat.testBit bit) same
    simp [brought, lacking] at joined

theorem lacks_iff {vector other : BitVector} :
    vector.lacks other = true ↔
      ∃ bit, other.get bit = true ∧ vector.get bit = false := by
  simp only [lacks, lacksWords_iff, or_ne_iff]
  constructor
  · intro gained
    obtain ⟨index, offset, inWord, brought, lacking⟩ := gained
    refine ⟨wordBits * index + offset, ?_⟩
    rw [get_place inWord, get_place inWord]
    exact ⟨brought, lacking⟩
  · intro gained
    obtain ⟨bit, brought, lacking⟩ := gained
    rw [get_eq_testBit] at brought lacking
    exact ⟨bit / wordBits, bit % wordBits, Nat.mod_lt _ (by decide), brought,
      lacking⟩

theorem wordAt_joinWord (mask : UInt64) (index : Nat) (words : List UInt64)
    (other : Nat) :
    wordAt (joinWord mask index words) other =
      if other = index then wordAt words other ||| mask
      else wordAt words other := by
  fun_induction joinWord mask index words generalizing other with
  | case1 =>
      cases other with
      | zero => simp
      | succ other => simp
  | case2 word words =>
      cases other with
      | zero => simp
      | succ other => simp
  | case3 index induction =>
      cases other with
      | zero => simp
      | succ other => simpa using induction other
  | case4 index word words induction =>
      cases other with
      | zero => simp
      | succ other => simpa using induction other

theorem testBit_mask {bit other : Nat} (inWord : bit < wordBits) :
    ((1 : UInt64) <<< bit.toUInt64).toNat.testBit other =
      decide (bit = other) := by
  have small : bit < 64 := inWord
  have shift : bit.toUInt64.toNat = bit := by
    rw [Nat.toUInt64_eq, UInt64.toNat_ofNat']
    exact Nat.mod_eq_of_lt (by omega)
  have power : ((1 : UInt64) <<< bit.toUInt64).toNat = 2 ^ bit := by
    rw [UInt64.toNat_shiftLeft, shift, Nat.mod_eq_of_lt small]
    simp only [UInt64.toNat_one, Nat.shiftLeft_eq, Nat.one_mul]
    exact Nat.mod_eq_of_lt (Nat.pow_lt_pow_right (by decide) small)
  rw [power, Nat.testBit_two_pow]

@[simp] theorem get_set (vector : BitVector) (bit other : Nat) :
    (vector.set bit).get other = (vector.get other || decide (other = bit)) := by
  have inWord : bit % wordBits < wordBits := Nat.mod_lt _ (by decide)
  have sameBit : other = bit ↔
      other / wordBits = bit / wordBits ∧
        other % wordBits = bit % wordBits := by
    simp only [wordBits]
    omega
  simp only [get_eq_testBit, set, wordAt_joinWord]
  split
  · next sameWord =>
      rw [UInt64.toNat_or, Nat.testBit_or, testBit_mask inWord]
      simp [sameBit, sameWord, eq_comm]
  · next otherWord => simp [sameBit, otherWord]

/-- Subtracting one takes the lowest bit of a number away, sets all places
below it and changes nothing above it. -/
theorem testBit_sub_one {number lowest : Nat}
    (set : number.testBit lowest = true)
    (least : ∀ bit < lowest, number.testBit bit = false) (bit : Nat) :
    (number - 1).testBit bit =
      if bit < lowest then true
      else number.testBit bit && decide (bit ≠ lowest) := by
  have low : number % 2 ^ (lowest + 1) = 2 ^ lowest := by
    apply Nat.eq_of_testBit_eq
    intro other
    rw [Nat.testBit_mod_two_pow, Nat.testBit_two_pow]
    rcases Nat.lt_trichotomy other lowest with below | same | above
    · simp [least other below, Nat.ne_of_gt below]
    · simp [same, set]
    · simp [Nat.not_lt.mpr (Nat.succ_le_of_lt above), Nat.ne_of_lt above]
  have split : number =
      2 ^ (lowest + 1) * (number / 2 ^ (lowest + 1)) + 2 ^ lowest := by
    have parts := Nat.div_add_mod number (2 ^ (lowest + 1))
    rw [low] at parts
    exact parts.symm
  have positive : 0 < 2 ^ lowest := Nat.two_pow_pos lowest
  have smaller : 2 ^ lowest < 2 ^ (lowest + 1) :=
    Nat.pow_lt_pow_right (by decide) (Nat.lt_succ_self lowest)
  have previous : number - 1 =
      2 ^ (lowest + 1) * (number / 2 ^ (lowest + 1)) + (2 ^ lowest - 1) := by
    omega
  rw [previous, Nat.testBit_two_pow_mul_add _ (by omega)]
  rcases Nat.lt_trichotomy bit lowest with below | same | above
  · simp [below, Nat.lt_succ_of_lt below]
  · simp [same]
  · have beyond : ¬bit < lowest + 1 := Nat.not_lt.mpr (Nat.succ_le_of_lt above)
    have kept : number.testBit bit =
        (number / 2 ^ (lowest + 1)).testBit (bit - (lowest + 1)) := by
      rw [Nat.testBit_div_two_pow, Nat.sub_add_cancel (Nat.le_of_not_lt beyond)]
    simp [beyond, kept, Nat.not_lt_of_gt above, Nat.ne_of_gt above]

theorem log2_xor_sub_one {number lowest : Nat}
    (set : number.testBit lowest = true)
    (least : ∀ bit < lowest, number.testBit bit = false) :
    (number ^^^ (number - 1)).log2 = lowest := by
  have mask : number ^^^ (number - 1) = 2 ^ (lowest + 1) - 1 := by
    apply Nat.eq_of_testBit_eq
    intro bit
    rw [Nat.testBit_xor, testBit_sub_one set least, Nat.testBit_two_pow_sub_one]
    rcases Nat.lt_trichotomy bit lowest with below | same | above
    · simp [below, least bit below, Nat.lt_succ_of_lt below]
    · simp [same, set]
    · simp [Nat.not_lt_of_gt above, Nat.ne_of_gt above,
        Nat.not_lt.mpr (Nat.succ_le_of_lt above)]
  have positive : 0 < 2 ^ lowest := Nat.two_pow_pos lowest
  rw [mask, Nat.log2_eq_iff (by omega)]
  omega

theorem toNat_sub_one {word : UInt64} (nonzero : word ≠ 0) :
    (word - 1).toNat = word.toNat - 1 := by
  apply UInt64.toNat_sub_of_le word 1
  rw [UInt64.le_iff_toNat_le]
  exact Nat.pos_of_ne_zero fun zero => nonzero (UInt64.toNat_inj.mp zero)

/-- What the lowest bit of a word is. -/
theorem lowestBit_lowest {word : UInt64} (nonzero : word ≠ 0) :
    word.toNat.testBit (lowestBit word) = true ∧
      ∀ bit < lowestBit word, word.toNat.testBit bit = false := by
  have some : ∃ bit, word.toNat.testBit bit = true := by
    apply Nat.exists_testBit_of_ne_zero
    intro zero
    exact nonzero (UInt64.toNat_inj.mp zero)
  have set := Nat.find_spec some
  have least : ∀ bit < Nat.find some, word.toNat.testBit bit = false :=
    fun bit below => Bool.eq_false_iff.mpr (Nat.find_min some below)
  have found : lowestBit word = Nat.find some := by
    rw [lowestBit, UInt64.toNat_xor, toNat_sub_one nonzero,
      log2_xor_sub_one set least]
  rw [found]
  exact ⟨set, least⟩

theorem lowestBit_le {word : UInt64} {bit : Nat}
    (member : word.toNat.testBit bit = true) : lowestBit word ≤ bit := by
  apply Nat.le_of_not_lt
  intro below
  have nonzero : word ≠ 0 := by
    intro zero
    simp [zero] at member
  simp [(lowestBit_lowest nonzero).2 bit below] at member

theorem testBit_withoutLowestBit {word : UInt64} (nonzero : word ≠ 0)
    (bit : Nat) :
    (withoutLowestBit word).toNat.testBit bit =
      (word.toNat.testBit bit && decide (bit ≠ lowestBit word)) := by
  obtain ⟨set, least⟩ := lowestBit_lowest nonzero
  rw [withoutLowestBit, UInt64.toNat_and, Nat.testBit_and,
    toNat_sub_one nonzero, testBit_sub_one set least]
  split
  · next below => simp [least bit below]
  · cases word.toNat.testBit bit <;> rfl

theorem withoutLowestBit_starts_later {word : UInt64} (nonzero : word ≠ 0)
    {rounds : Nat}
    (enough : ∀ bit, word.toNat.testBit bit = true →
      wordBits ≤ bit + (rounds + 1))
    {bit : Nat} (member : (withoutLowestBit word).toNat.testBit bit = true) :
    wordBits ≤ bit + rounds := by
  rw [testBit_withoutLowestBit nonzero, Bool.and_eq_true,
    decide_eq_true_eq] at member
  obtain ⟨held, notLowest⟩ := member
  have lowest := enough _ (lowestBit_lowest nonzero).1
  have lower := lowestBit_le held
  omega

/-- As many rounds are enough as there are places from the lowest bit on. -/
theorem mem_lowestBits {rounds : Nat} {word : UInt64}
    (enough : ∀ bit, word.toNat.testBit bit = true → wordBits ≤ bit + rounds)
    {bit : Nat} :
    bit ∈ lowestBits rounds word ↔ word.toNat.testBit bit = true := by
  induction rounds generalizing word with
  | zero =>
      simp only [lowestBits, List.not_mem_nil, false_iff]
      intro member
      have beyond : wordBits ≤ bit := enough bit member
      simp [testBit_beyond word beyond] at member
  | succ rounds induction =>
      rw [lowestBits]
      split
      · next zero => simp [zero]
      · next nonzero =>
          rw [List.mem_cons,
            induction fun _ => withoutLowestBit_starts_later nonzero enough,
            testBit_withoutLowestBit nonzero]
          by_cases lowest : bit = lowestBit word
          · simp [lowest, (lowestBit_lowest nonzero).1]
          · simp [lowest]

theorem lowestBits_increasing {rounds : Nat} {word : UInt64}
    (enough : ∀ bit, word.toNat.testBit bit = true →
      wordBits ≤ bit + rounds) :
    (lowestBits rounds word).Pairwise (· < ·) := by
  induction rounds generalizing word with
  | zero => exact .nil
  | succ rounds induction =>
      rw [lowestBits]
      split
      · exact .nil
      · next nonzero =>
          have later := fun bit =>
            @withoutLowestBit_starts_later word nonzero rounds enough bit
          refine List.pairwise_cons.mpr ⟨?_, induction later⟩
          intro bit listed
          have member := (mem_lowestBits later).mp listed
          rw [testBit_withoutLowestBit nonzero, Bool.and_eq_true,
            decide_eq_true_eq] at member
          exact Nat.lt_of_le_of_ne (lowestBit_le member.1)
            (Ne.symm member.2)

theorem mem_wordList {word : UInt64} {bit : Nat} :
    bit ∈ wordList word ↔ bit < wordBits ∧ word.toNat.testBit bit = true := by
  rw [wordList, mem_lowestBits fun _ _ => Nat.le_add_left _ _]
  constructor
  · intro member
    refine ⟨Nat.lt_of_not_le fun beyond => ?_, member⟩
    simp [testBit_beyond word beyond] at member
  · intro member
    exact member.2

theorem wordList_increasing (word : UInt64) :
    (wordList word).Pairwise (· < ·) :=
  lowestBits_increasing fun _ _ => Nat.le_add_left _ _

theorem mem_listFrom {base bit : Nat} {words : List UInt64} :
    bit ∈ listFrom base words ↔
      ∃ index, ∃ offset < wordBits,
        (wordAt words index).toNat.testBit offset = true ∧
          base + (wordBits * index + offset) = bit := by
  induction words generalizing base with
  | nil => simp [listFrom]
  | cons word words induction =>
      have shift : ∀ index offset,
          base + (wordBits * (index + 1) + offset) =
            base + wordBits + (wordBits * index + offset) := by
        intro index offset
        rw [Nat.mul_succ]
        omega
      rw [← Nat.or_exists_add_one, listFrom, List.mem_append, induction]
      simp only [List.mem_map, mem_wordList, wordAt_cons_zero,
        wordAt_cons_succ, shift, Nat.mul_zero, Nat.zero_add, and_assoc]

theorem mem_toList {vector : BitVector} {bit : Nat} :
    bit ∈ vector.toList ↔ vector.get bit = true := by
  rw [toList, mem_listFrom]
  constructor
  · intro located
    obtain ⟨index, offset, inWord, member, place⟩ := located
    rw [← place, Nat.zero_add, get_place inWord]
    exact member
  · intro member
    rw [get_eq_testBit] at member
    refine ⟨bit / wordBits, bit % wordBits, Nat.mod_lt _ (by decide), member,
      ?_⟩
    rw [Nat.zero_add, Nat.div_add_mod]

theorem listFrom_increasing (base : Nat) (words : List UInt64) :
    (listFrom base words).Pairwise (· < ·) := by
  induction words generalizing base with
  | nil => exact .nil
  | cons word words induction =>
      refine List.pairwise_append.mpr ⟨?_, induction _, ?_⟩
      · apply List.Pairwise.map (R := (· < ·))
        · intro left right before
          exact Nat.add_lt_add_left before base
        · exact wordList_increasing word
      · intro left leftMember right rightMember
        obtain ⟨offset, member, rfl⟩ := List.mem_map.mp leftMember
        have inWord := (mem_wordList.mp member).1
        obtain ⟨_, _, _, _, place⟩ := mem_listFrom.mp rightMember
        omega

theorem toList_increasing (vector : BitVector) :
    vector.toList.Pairwise (· < ·) :=
  listFrom_increasing 0 vector.words

theorem length_wordList (word : UInt64) :
    (wordList word).length = wordSize word := by
  have listed : (wordList word).Perm
      ((List.range wordBits).filter word.toNat.testBit) := by
    apply (List.perm_ext_iff_of_nodup ?_ ?_).mpr
    · intro bit
      rw [mem_wordList, List.mem_filter, List.mem_range]
    · exact (wordList_increasing word).imp Nat.ne_of_lt
    · exact List.nodup_range.filter _
  rw [wordSize, List.countP_eq_length_filter, listed.length_eq]

/-- Counting the bits word by word counts what is listed. -/
theorem foldl_wordSize (total base : Nat) (words : List UInt64) :
    words.foldl (fun total word => total + wordSize word) total =
      total + (listFrom base words).length := by
  induction words generalizing total base with
  | nil => rfl
  | cons word words induction =>
      rw [List.foldl_cons, induction _ (base + wordBits), listFrom,
        List.length_append, List.length_map, length_wordList, Nat.add_assoc]

theorem length_toList (vector : BitVector) :
    vector.toList.length = vector.size := by
  rw [size, foldl_wordSize 0 0, Nat.zero_add, toList]

/-- The set that a vector stands for. -/
def members (vector : BitVector) : Finset Nat :=
  vector.toList.toFinset

@[simp] theorem mem_members {vector : BitVector} {bit : Nat} :
    bit ∈ vector.members ↔ vector.get bit = true := by
  rw [members, List.mem_toFinset, mem_toList]

theorem card_members (vector : BitVector) :
    vector.members.card = vector.size := by
  have distinct : vector.toList.Nodup :=
    vector.toList_increasing.imp Nat.ne_of_lt
  rw [members, List.toFinset_card_of_nodup distinct, length_toList]

theorem size_lt_of_lacks {vector other : BitVector}
    (lacking : vector.lacks other = true) :
    vector.size < (vector ∪ other).size := by
  obtain ⟨bit, brought, missing⟩ := lacks_iff.mp lacking
  rw [← card_members, ← card_members]
  apply Finset.card_lt_card
  refine Finset.ssubset_iff_subset_ne.mpr ⟨?_, ?_⟩
  · intro held member
    simp_all
  · intro same
    have gained : bit ∈ (vector ∪ other).members := by simp [brought]
    rw [← same] at gained
    simp [missing] at gained

theorem size_le_of_forall_lt {vector : BitVector} {limit : Nat}
    (below : ∀ bit, vector.get bit = true → bit < limit) :
    vector.size ≤ limit := by
  rw [← card_members, ← Finset.card_range limit]
  apply Finset.card_le_card
  intro bit member
  exact Finset.mem_range.mpr (below bit (mem_members.mp member))

theorem lt_boundWords {words : List UInt64} {index bit : Nat}
    (inWord : bit < wordBits)
    (member : (wordAt words index).toNat.testBit bit = true) :
    wordBits * index + bit < boundWords words := by
  induction words generalizing index with
  | nil => simp at member
  | cons word words induction =>
      cases index with
      | zero =>
          simp only [wordAt_cons_zero] at member
          simp only [boundWords]
          split
          · split
            · next empty => simp [empty] at member
            · next occupied =>
                have large := Nat.ge_two_pow_of_testBit member
                have nonzero : word.toNat ≠ 0 := by
                  intro zero
                  simp [zero] at member
                have logarithm := (Nat.le_log2 nonzero).mpr large
                omega
          · omega
      | succ index =>
          have later : wordBits * index + bit < boundWords words :=
            induction member
          simp only [boundWords]
          split
          · omega
          · next bound bounded =>
              rw [bounded] at later
              rw [Nat.mul_succ]
              omega

theorem lt_bound_of_get {vector : BitVector} {bit : Nat}
    (member : vector.get bit = true) : bit < vector.bound := by
  rw [get_eq_testBit] at member
  have inWord : bit % wordBits < wordBits := Nat.mod_lt _ (by decide)
  have below := lt_boundWords inWord member
  rwa [Nat.div_add_mod] at below

/-- The greatest member is the one just below the bound. -/
theorem testBit_boundWords {words : List UInt64} {bit : Nat}
    (bounded : boundWords words = bit + 1) :
    (wordAt words (bit / wordBits)).toNat.testBit (bit % wordBits) = true := by
  induction words generalizing bit with
  | nil => cases bounded
  | cons word words induction =>
      rw [boundWords] at bounded
      split at bounded
      · split at bounded
        · cases bounded
        · next occupied =>
            have nonzero : word.toNat ≠ 0 := fun zero =>
              occupied (UInt64.toNat_inj.mp zero)
            have highest : word.toNat.log2 = bit := by omega
            have inWord : bit < wordBits := by
              rw [← highest]
              exact (Nat.log2_lt nonzero).mpr word.toNat_lt
            rw [Nat.div_eq_of_lt inWord, Nat.mod_eq_of_lt inWord,
              wordAt_cons_zero, ← highest]
            exact Nat.testBit_log2 nonzero
      · next bound later =>
          have place : bit = bound + wordBits := by omega
          have held := induction later
          rw [place, Nat.add_div_right _ (by decide), Nat.add_mod_right]
          exact held

theorem get_of_bound_eq {vector : BitVector} {bit : Nat}
    (bounded : vector.bound = bit + 1) : vector.get bit = true := by
  rw [get_eq_testBit]
  exact testBit_boundWords bounded

theorem bound_le_of_forall_lt {vector : BitVector} {limit : Nat}
    (below : ∀ bit, vector.get bit = true → bit < limit) :
    vector.bound ≤ limit := by
  cases bounded : vector.bound with
  | zero => exact Nat.zero_le limit
  | succ bit => exact below bit (get_of_bound_eq bounded)

end BitVector

end LockAudit
