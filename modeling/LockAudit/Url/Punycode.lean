/-!
# Names outside ASCII

A label with characters outside ASCII is written in ASCII: first its ASCII
characters, then the places and numbers of the others, as digits of a base of
thirty-six whose thresholds adapt to the label.
-/

namespace LockAudit.Url.Punycode

def threshold (place bias : Nat) : Nat :=
  if place ≤ bias then 1
  else if bias + 26 ≤ place then 26
  else place - bias

/-- Divides a distance until it is small, and counts the divisions. -/
def shrink : (fuel : Nat) → (distance : Nat) → Nat × Nat
  | 0, distance => (distance, 0)
  | fuel + 1, distance =>
      if distance ≤ 455 then (distance, 0)
      else
        let (rest, count) := shrink fuel (distance / 35)
        (rest, count + 1)

/-- The thresholds after a character at a distance has been written as one of
`count`. -/
def adapt (distance count : Nat) (first : Bool) : Nat :=
  let damped := if first then distance / 700 else distance / 2
  let (rest, rounds) := shrink damped (damped + damped / count)
  36 * rounds + 36 * rest / (rest + 38)

def digit (value : Nat) : Char :=
  if value < 26 then Char.ofNat ('a'.toNat + value)
  else Char.ofNat ('0'.toNat + value - 26)

def digitValue? (character : Char) : Option Nat :=
  if character.isLower then some (character.toNat - 'a'.toNat)
  else if character.isUpper then some (character.toNat - 'A'.toNat)
  else if character.isDigit then some (character.toNat - '0'.toNat + 26)
  else none

/-- The digits of a number, the least first. -/
def writeNumber (bias : Nat) : (fuel : Nat) → (place value : Nat) → List Char
  | 0, _, _ => []
  | fuel + 1, place, value =>
      let limit := threshold place bias
      if value < limit then [digit value]
      else
        let rest := value - limit
        digit (limit + rest % (36 - limit)) ::
          writeNumber bias fuel (place + 36) (rest / (36 - limit))

/-- What has been written, the distance since then, the thresholds, and the
number of characters that are done. -/
structure Writer where
  written : List Char := []
  distance : Nat := 0
  bias : Nat := 72
  done : Nat

/-- Passes a character of the label, when the character `next` is due. -/
def Writer.pass (basic : Nat) (next : Char) (writer : Writer)
    (character : Char) : Writer :=
  if character < next then { writer with distance := writer.distance + 1 }
  else if character = next then
    let number := writeNumber writer.bias (writer.distance + 1) 36 writer.distance
    { written := writer.written ++ number
      distance := 0
      bias := adapt writer.distance (writer.done + 1) (writer.done = basic)
      done := writer.done + 1 }
  else writer

/-- Writes the characters of the label that are listed, in ascending order;
`due` is the least number that has not been looked at. -/
def writeListed (label : List Char) (basic : Nat) :
    List Char → (due : Nat) → Writer → List Char
  | [], _, writer => writer.written
  | next :: rest, due, writer =>
      let jump := (next.toNat - due) * (writer.done + 1)
      let start := { writer with distance := writer.distance + jump }
      let passed := label.foldl (Writer.pass basic next) start
      writeListed label basic rest (next.toNat + 1)
        { passed with distance := passed.distance + 1 }

def isBasic (character : Char) : Bool :=
  character.toNat < 128

def insertCharacter (character : Char) : List Char → List Char
  | [] => [character]
  | head :: tail =>
      if character < head then character :: head :: tail
      else if character = head then head :: tail
      else head :: insertCharacter character tail

def encode (label : List Char) : List Char :=
  let basic := label.filter isBasic
  let listed := (label.filter (!isBasic ·)).foldr insertCharacter []
  let front := if basic.isEmpty then [] else basic ++ ['-']
  front ++ writeListed label basic.length listed 128 { done := basic.length }

/-- Reads one number, and gives the text behind it. -/
def readNumber? (bias : Nat) :
    (place weight : Nat) → List Char → Option (Nat × List Char)
  | _, _, [] => none
  | place, weight, character :: rest => do
      let value ← digitValue? character
      let limit := threshold place bias
      if value < limit then some (value * weight, rest)
      else
        let (later, rest) ←
          readNumber? bias (place + 36) (weight * (36 - limit)) rest
        some (value * weight + later, rest)

/-- Puts characters into a label until the text ends. -/
def readListed? : (fuel : Nat) → (text label : List Char) →
    (due place bias : Nat) → Option (List Char)
  | 0, _, _, _, _, _ => none
  | fuel + 1, text, label, due, place, bias =>
      if text.isEmpty then some label
      else do
        let (distance, rest) ← readNumber? bias 36 1 text
        let count := label.length + 1
        let code := due + (place + distance) / count
        let index := (place + distance) % count
        if code < 0x110000 ∧ Char.ofNat code ≠ Char.ofNat 0 then
          let grown := label.take index ++ [Char.ofNat code] ++ label.drop index
          readListed? fuel rest grown code (index + 1)
            (adapt distance count (place = 0))
        else none

/-- The label behind an ASCII form. -/
def decode? (text : List Char) : Option (List Char) :=
  let tail := (text.reverse.takeWhile (· ≠ '-')).reverse
  let basic := text.take (text.length - tail.length - 1)
  if basic.all isBasic then
    readListed? (tail.length + 1) tail basic 128 0 72
  else none

end LockAudit.Url.Punycode
