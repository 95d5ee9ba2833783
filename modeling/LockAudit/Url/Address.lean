import LockAudit.Url.Percent

/-!
# Numeric addresses

The addresses of the fourth and of the sixth version of the internet protocol,
read from text and written back in one canonical form.
-/

namespace LockAudit.Url

/-- The parts between separators, at least one. -/
def splitAll (isSeparator : Char → Bool) : List Char → List (List Char)
  | [] => [[]]
  | character :: rest =>
      match splitAll isSeparator rest with
      | [] => [[character]]
      | part :: parts =>
          if isSeparator character then [] :: part :: parts
          else (character :: part) :: parts

/-- A number in base sixteen after `0x`, in base eight after `0`, in base ten
otherwise. -/
def addressNumber? : List Char → Option Nat
  | [] => none
  | '0' :: 'x' :: digits => Text.readDigits? 16 digits
  | '0' :: 'X' :: digits => Text.readDigits? 16 digits
  | '0' :: digit :: digits => Text.readDigits? 8 (digit :: digits)
  | digits => Text.readDigits? 10 digits

/-- The parts between dots, without an empty last one. -/
def dottedParts (text : List Char) : List (List Char) :=
  let parts := splitAll (· = '.') text
  if parts.getLast? = some [] then parts.dropLast else parts

/-- A name whose last part is a number must be an address of four bytes. -/
def endsInNumber (text : List Char) : Bool :=
  match (dottedParts text).getLast? with
  | none => false
  | some [] => false
  | some part => part.all Char.isDigit || (addressNumber? part).isSome

/-- All numbers but the last are bytes; the last fills the bytes that are left,
of which there must be one. -/
def assembleBytes? : (room : Nat) → List Nat → Option Nat
  | 0, _ => none
  | _, [] => none
  | room + 1, [last] => if last < Nat.pow 256 (room + 1) then some last else none
  | room + 1, byte :: next :: rest =>
      if byte < 256 then
        (assembleBytes? room (next :: rest)).map (byte * Nat.pow 256 room + ·)
      else none

/-- The address that one to four numbers write. -/
def readFourBytes? (text : List Char) : Option Nat := do
  let numbers ← (dottedParts text).mapM addressNumber?
  assembleBytes? 4 numbers

def writeFourBytes (address : Nat) : String :=
  let byte (place : Nat) := toString (address / Nat.pow 256 place % 256)
  ".".intercalate [byte 3, byte 2, byte 1, byte 0]

/-- A group of one to four hexadecimal digits. -/
def readGroup? (digits : List Char) : Option Nat :=
  if digits.isEmpty || 4 < digits.length then none else Text.readDigits? 16 digits

/-- A decimal byte without needless zeros. -/
def readByte? : List Char → Option Nat
  | [] => none
  | '0' :: _ :: _ => none
  | digits => (Text.readDigits? 10 digits).filter (· < 256)

/-- The two groups that four dotted bytes write. -/
def readDottedGroups? (text : List Char) : Option (List Nat) :=
  match (splitAll (· = '.') text).mapM readByte? with
  | some [first, second, third, fourth] =>
      some [first * 256 + second, third * 256 + fourth]
  | _ => none

/-- The groups between colons; the last part may be four dotted bytes. -/
def readGroups? : List (List Char) → Option (List Nat)
  | [] => some []
  | [last] =>
      if last.contains '.' then readDottedGroups? last
      else (readGroup? last).map fun group => [group]
  | part :: next :: rest => do
      let group ← readGroup? part
      let groups ← readGroups? (next :: rest)
      return group :: groups

/-- The text around the first pair of colons. -/
def splitAtGap? : List Char → Option (List Char × List Char)
  | ':' :: ':' :: rest => some ([], rest)
  | character :: rest =>
      (splitAtGap? rest).map fun (before, behind) =>
        (character :: before, behind)
  | [] => none

def colonParts (text : List Char) : List (List Char) :=
  if text.isEmpty then [] else splitAll (· = ':') text

/-- Eight groups, or fewer around a pair of colons that stands for zeros. -/
def readEightGroups? (text : List Char) : Option (List Nat) :=
  match splitAtGap? text with
  | none => (readGroups? (colonParts text)).filter (·.length = 8)
  | some (before, behind) => do
      let front ← (colonParts before).mapM readGroup?
      let back ← readGroups? (colonParts behind)
      let count := front.length + back.length
      if count < 8 then
        some (front ++ List.replicate (8 - count) 0 ++ back)
      else none

/-- The number of zeros from a place on. -/
def zerosFrom (groups : List Nat) (place : Nat) : Nat :=
  ((groups.drop place).takeWhile (· = 0)).length

/-- The first of the longest runs of zeros: its place and its length. -/
def longestZeros (groups : List Nat) : Nat × Nat :=
  (List.range groups.length).foldl
    (fun (place, length) next =>
      let zeros := zerosFrom groups next
      if length < zeros then (next, zeros) else (place, length))
    (0, 0)

def writeGroups (groups : List Nat) : String :=
  ":".intercalate (groups.map fun group => String.ofList (Nat.toDigits 16 group))

/-- A pair of colons stands for the longest run of two zeros or more. -/
def writeEightGroups (groups : List Nat) : String :=
  let (place, length) := longestZeros groups
  if length < 2 then writeGroups groups
  else
    let front := writeGroups (groups.take place)
    let back := writeGroups (groups.drop (place + length))
    s!"{front}::{back}"

end LockAudit.Url
