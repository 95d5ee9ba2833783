/-!
# Bit vectors

A finite set of natural numbers, 64 of them to a word.  Words are added only to
hold a member, so the last word of a vector is never zero and equal sets have
equal words.
-/

namespace LockAudit

structure BitVector where
  words : List UInt64
  deriving DecidableEq, Repr

namespace BitVector

def wordBits : Nat := 64

def empty : BitVector :=
  ⟨[]⟩

instance : EmptyCollection BitVector :=
  ⟨empty⟩

instance : Inhabited BitVector :=
  ⟨empty⟩

/-- Joins a mask into the word at an index, after as many zero words as are
missing. -/
def joinWord (mask : UInt64) : (index : Nat) → List UInt64 → List UInt64
  | 0, [] => [mask]
  | 0, word :: words => (word ||| mask) :: words
  | index + 1, [] => 0 :: joinWord mask index []
  | index + 1, word :: words => word :: joinWord mask index words

def set (vector : BitVector) (bit : Nat) : BitVector :=
  ⟨joinWord (1 <<< (bit % wordBits).toUInt64) (bit / wordBits) vector.words⟩

def get (vector : BitVector) (bit : Nat) : Bool :=
  match vector.words[bit / wordBits]? with
  | some word => word.toNat.testBit (bit % wordBits)
  | none => false

def ofList (bits : List Nat) : BitVector :=
  bits.foldl set ∅

def unionWords : List UInt64 → List UInt64 → List UInt64
  | [], right => right
  | left, [] => left
  | leftWord :: left, rightWord :: right =>
      (leftWord ||| rightWord) :: unionWords left right

def union (left right : BitVector) : BitVector :=
  ⟨unionWords left.words right.words⟩

instance : Union BitVector :=
  ⟨union⟩

/-- Some word on the right has a bit that the word on the left lacks. -/
def lacksWords : List UInt64 → List UInt64 → Bool
  | _, [] => false
  | [], rightWord :: right => rightWord != 0 || lacksWords [] right
  | leftWord :: left, rightWord :: right =>
      (leftWord ||| rightWord) != leftWord || lacksWords left right

/-- A union with the other vector would add a bit. -/
def lacks (vector other : BitVector) : Bool :=
  lacksWords vector.words other.words

def isEmpty (vector : BitVector) : Bool :=
  vector.words.all (· == 0)

/-- The lowest bit of a word other than zero: a word and the one before it
differ from there downwards. -/
def lowestBit (word : UInt64) : Nat :=
  (word ^^^ (word - 1)).toNat.log2

def withoutLowestBit (word : UInt64) : UInt64 :=
  word &&& (word - 1)

/-- The bits of a word from the lowest one on, at most `rounds` of them. -/
def lowestBits : (rounds : Nat) → UInt64 → List Nat
  | 0, _ => []
  | rounds + 1, word =>
      if word = 0 then []
      else lowestBit word :: lowestBits rounds (withoutLowestBit word)

/-- The bits of a word, in ascending order. -/
def wordList (word : UInt64) : List Nat :=
  lowestBits wordBits word

def listFrom (base : Nat) : List UInt64 → List Nat
  | [] => []
  | word :: words =>
      (wordList word).map (base + ·) ++ listFrom (base + wordBits) words

/-- The members in ascending order. -/
def toList (vector : BitVector) : List Nat :=
  listFrom 0 vector.words

/-- The number of bits of a word that are set. -/
def wordSize (word : UInt64) : Nat :=
  (List.range wordBits).countP word.toNat.testBit

/-- The number of members. -/
def size (vector : BitVector) : Nat :=
  vector.words.foldl (fun total word => total + wordSize word) 0

def boundWords : List UInt64 → Nat
  | [] => 0
  | word :: words =>
      match boundWords words with
      | 0 => if word = 0 then 0 else word.toNat.log2 + 1
      | bound + 1 => wordBits + bound + 1

/-- One more than the greatest member, or zero when there is none. -/
def bound (vector : BitVector) : Nat :=
  boundWords vector.words

end BitVector

end LockAudit
