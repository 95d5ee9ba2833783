/-!
# Digits and tables of characters

A table says something of ranges of characters.  It is written as a text of
rows, in ascending order and divided by blanks or line breaks: `41-5A` lists the
characters from one number to another, `C0-D6:E0` gives a value to the first of
them, and `DF:73,73` gives two values to one character.  All numbers are
hexadecimal.
-/

namespace LockAudit.Text

/-- The value of a digit in any base up to sixteen. -/
def digitValue? (base : Nat) (character : Char) : Option Nat :=
  let code := character.toNat
  let value? :=
    if '0'.toNat ≤ code && code ≤ '9'.toNat then some (code - '0'.toNat)
    else if 'a'.toNat ≤ code && code ≤ 'f'.toNat then
      some (code - 'a'.toNat + 10)
    else if 'A'.toNat ≤ code && code ≤ 'F'.toNat then
      some (code - 'A'.toNat + 10)
    else none
  value?.filter (· < base)

/-- The number that digits of a base write; no digits write zero. -/
def readDigits? (base : Nat) (digits : List Char) : Option Nat :=
  digits.foldlM
    (fun value digit =>
      (digitValue? base digit).map fun digit => base * value + digit)
    0

/-- A decimal numeral with an optional plus sign; zeros may lead. -/
def numeral? (text : String) : Option Nat :=
  let digits :=
    match text.toList with
    | '+' :: rest => rest
    | digits => digits
  if digits.isEmpty then none else readDigits? 10 digits

/-- A range of characters and what a table says of it. -/
structure CharacterRow where
  first : Nat
  last : Nat
  values : List Nat
  deriving DecidableEq, Repr

structure CharacterTable where
  rows : Array CharacterRow

namespace CharacterTable

def readNumber? (text : String) : Option Nat :=
  readDigits? 16 text.toList

def readRow? (text : String) : Option CharacterRow := do
  let (range, values) ←
    match text.splitOn ":" with
    | [range] => some (range, [])
    | [range, values] => some (range, values.splitOn ",")
    | _ => none
  let (first, last) ←
    match range.splitOn "-" with
    | [code] => some (code, code)
    | [first, last] => some (first, last)
    | _ => none
  return ⟨← readNumber? first, ← readNumber? last, ← values.mapM readNumber?⟩

/-- The table of all rows in a text; what is no row says nothing. -/
def ofText (text : String) : CharacterTable :=
  let words := (text.splitOn "\n").flatMap (·.splitOn " ")
  ⟨((words.filter (!·.isEmpty)).filterMap readRow?).toArray⟩

/-- The row of a code among the rows from `low` on that lie below `high`. -/
def search? (table : CharacterTable) (code low high : Nat) :
    Option CharacterRow :=
  if low < high then
    let middle := (low + high) / 2
    match table.rows[middle]? with
    | none => none
    | some row =>
        if code < row.first then table.search? code low middle
        else if row.last < code then table.search? code (middle + 1) high
        else some row
  else none
termination_by high - low

def row? (table : CharacterTable) (character : Char) : Option CharacterRow :=
  table.search? character.toNat 0 table.rows.size

def contains (table : CharacterTable) (character : Char) : Bool :=
  (table.row? character).isSome

/-- The value of a character; the table gives it to its whole range. -/
def value? (table : CharacterTable) (character : Char) : Option Nat :=
  (table.row? character).bind (·.values.head?)

/-- The characters that a table puts in the place of a character.  Those of a
range follow each other like the characters of the range. -/
def image? (table : CharacterTable) (character : Char) :
    Option (List Char) :=
  (table.row? character).map fun row =>
    row.values.map fun value =>
      Char.ofNat (value + (character.toNat - row.first))

end CharacterTable

/-- Characters that show as empty space, of whatever width. -/
def blanks : CharacterTable :=
  .ofText "9-D 20 85 A0 1680 2000-200A 2028-2029 202F 205F 3000"

def isBlank (character : Char) : Bool :=
  blanks.contains character

/-- The text without the blanks at its ends. -/
def trimBlanks (text : String) : String :=
  let front := text.toList.dropWhile isBlank
  String.ofList (front.reverse.dropWhile isBlank).reverse

end LockAudit.Text
