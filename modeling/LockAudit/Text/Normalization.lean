import LockAudit.Text.CombiningClass
import LockAudit.Text.Composite

/-!
# The composed form of a text

Texts that differ only in how their characters are composed have one composed
form.  To reach it the characters are taken apart, marks are put into the order
of their classes, and what can be composed is composed.  A Korean syllable is
composed of a leading consonant, a vowel and perhaps a trailing consonant; its
number can be computed from theirs.
-/

namespace LockAudit.Text

namespace Syllable

def firstLeading : Nat := 0x1100

def firstVowel : Nat := 0x1161

/-- One before the first trailing consonant; it stands for none. -/
def noTrailing : Nat := 0x11a7

def firstBlock : Nat := 0xac00

def leadingCount : Nat := 19

def vowelCount : Nat := 21

/-- The trailing consonants and the absence of one. -/
def trailingCount : Nat := 28

def blockCount : Nat := leadingCount * vowelCount * trailingCount

/-- The place of a number among those that begin at another. -/
def place? (code first count : Nat) : Option Nat :=
  if first ≤ code && code < first + count then some (code - first) else none

/-- The two or three parts of a syllable block. -/
def parts? (character : Char) : Option (List Char) :=
  (place? character.toNat firstBlock blockCount).map fun index =>
    let trailing := index % trailingCount
    let stem :=
      [firstLeading + index / trailingCount / vowelCount,
        firstVowel + index / trailingCount % vowelCount]
    let codes := if trailing = 0 then stem else stem ++ [noTrailing + trailing]
    codes.map Char.ofNat

/-- A leading consonant with a vowel. -/
def joinVowel? (leading vowel : Char) : Option Char := do
  let leading ← place? leading.toNat firstLeading leadingCount
  let vowel ← place? vowel.toNat firstVowel vowelCount
  return Char.ofNat
    (firstBlock + (leading * vowelCount + vowel) * trailingCount)

/-- A block without a trailing consonant, with one. -/
def joinTrailing? (block trailing : Char) : Option Char := do
  let index ← place? block.toNat firstBlock blockCount
  let trailing ← place? trailing.toNat noTrailing trailingCount
  if index % trailingCount = 0 && trailing ≠ 0 then
    return Char.ofNat (block.toNat + trailing)
  else none

def join? (first second : Char) : Option Char :=
  joinVowel? first second <|> joinTrailing? first second

end Syllable

/-- The characters for which a character stands; `depth` is how often a
composite may hold another. -/
def decomposed : (depth : Nat) → Char → List Char
  | 0, character => [character]
  | depth + 1, character =>
      match composites.image? character with
      | some parts => parts.flatMap (decomposed depth)
      | none =>
          (Syllable.parts? character <|> decompositions.image? character).getD
            [character]

/-- No composite nests deeper. -/
def compositeDepth : Nat := 4

/-- Puts a character at the end of a text, which is given from its end.  A mark
goes before the marks of greater classes. -/
def place (character : Char) : List Char → List Char
  | [] => [character]
  | last :: before =>
      if combiningClass character ≠ 0 &&
          combiningClass character < combiningClass last then
        last :: place character before
      else character :: last :: before

def ordered (text : List Char) : List Char :=
  (text.foldl (fun before character => place character before) []).reverse

/-- The composite of two characters. -/
def composite? (first second : Char) : Option Char :=
  let values := [first.toNat, second.toNat]
  Syllable.join? first second <|>
    (composites.rows.find? (·.values = values)).map (Char.ofNat ·.first)

/-- Composes a starter with what follows.  `marks` are the marks behind the
starter, the last first; they keep a character of their class or a lesser one
from reaching the starter. -/
def composeFrom (starter : Char) (marks : List Char) :
    List Char → List Char
  | [] => starter :: marks.reverse
  | next :: rest =>
      let isBlocked := marks.head?.any fun mark =>
        combiningClass next ≤ combiningClass mark
      match if isBlocked then none else composite? starter next with
      | some whole => composeFrom whole marks rest
      | none =>
          if combiningClass next = 0 then
            starter :: marks.reverse ++ composeFrom next [] rest
          else composeFrom starter (next :: marks) rest

/-- Marks at the front of a text have no starter. -/
def composed : List Char → List Char
  | [] => []
  | first :: rest =>
      if combiningClass first = 0 then composeFrom first [] rest
      else first :: composed rest

/-- The composed form of a text. -/
def normalize (text : List Char) : List Char :=
  composed (ordered (text.flatMap (decomposed compositeDepth)))

end LockAudit.Text
