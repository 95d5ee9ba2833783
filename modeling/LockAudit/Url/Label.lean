import LockAudit.Text.Direction
import LockAudit.Text.Joining
import LockAudit.Text.Normalization
import LockAudit.Url.NameForm
import LockAudit.Url.Punycode

/-!
# Labels

A name is a sequence of labels.  Every label has an ASCII form; a label outside
ASCII must be readable, and one whose letters run from right to left must not
be torn apart when it is shown.  Two characters without a form of their own join
letters or keep them apart.  They may follow a mark that takes a vowel away, and
the one that keeps letters apart may stand where letters would join.
-/

namespace LockAudit.Url

/-- ASCII characters that no name of a host holds. -/
def isForbidden (character : Char) : Bool :=
  character.toNat ≤ 0x20 || character = '\x7f' ||
    "%#/:<>?@[\\]^|".toList.contains character

structure Label where
  characters : List Char
  asciiForm : List Char
  deriving DecidableEq, Repr

namespace Label

/-- What an ASCII form begins with. -/
def mark : List Char := ['x', 'n', '-', '-']

/-- No longer label is brought to its ASCII form. -/
def greatestLength : Nat := 1000

/-- No longer ASCII form is read, its mark not counted. -/
def greatestFormLength : Nat := 2000

/-- A character may stand behind an ASCII form. -/
def isPlain (character : Char) : Bool :=
  if Punycode.isBasic character then
    !isForbidden character && !character.isUpper && character ≠ '.'
  else isNameCharacter character

/-- The label behind an ASCII form, which must be in its composed form. -/
def ofForm? (text : List Char) : Option Label := do
  let form := text.drop mark.length
  if !text.all Punycode.isBasic || text.getLast? = some '-' ||
      greatestFormLength < form.length then none
  else
    let characters ← Punycode.decode? form
    if characters.all isPlain && Text.normalize characters = characters then
      some ⟨characters, text⟩
    else none

/-- The label that a text writes, which is in its composed form. -/
def read? (text : List Char) : Option Label :=
  if mark.isPrefixOf text then ofForm? text
  else if text.all Punycode.isBasic then some ⟨text, text⟩
  else if text.length ≤ greatestLength then
    some ⟨text, mark ++ Punycode.encode text⟩
  else none

def joiner : Char := '\u200d'

def nonJoiner : Char := '\u200c'

/-- The next character that does not let a join pass passes a test. -/
def meets (test : Char → Bool) (text : List Char) : Bool :=
  (text.find? (!Text.letsJoinPass ·)).any test

/-- A character fits behind `before`, which is given from its end. -/
def fits (before : List Char) (character : Char) (behind : List Char) : Bool :=
  if character = joiner then before.head?.any Text.isVowelKiller
  else if character = nonJoiner then
    before.head?.any Text.isVowelKiller ||
      (meets Text.joinsBehind before && meets Text.joinsBefore behind)
  else true

/-- All characters fit behind those before them. -/
def fitFrom (before : List Char) : List Char → Bool
  | [] => true
  | character :: behind =>
      fits before character behind && fitFrom (character :: before) behind

/-- A label outside ASCII does not begin with a mark, and its joiners fit. -/
def isReadable (label : Label) : Bool :=
  label.characters.all Punycode.isBasic ||
    (!label.characters.head?.any Text.isMark && fitFrom [] label.characters)

def directions (label : Label) : List Text.Direction :=
  label.characters.map Text.Direction.ofCharacter

/-- The label has letters or numerals that run from right to left. -/
def runsLeft (label : Label) : Bool :=
  label.directions.any fun direction =>
    direction = .rightToLeft || direction = .arabicNumber

/-- The label keeps one direction from its first character to the last one that
is no mark. -/
def keepsDirection (label : Label) : Bool :=
  let directions := label.directions
  let last? := directions.reverse.find? (· ≠ .mark)
  match directions with
  | [] => true
  | .leftToRight :: _ =>
      !label.runsLeft &&
        last?.any fun last => last = .leftToRight || last = .europeanNumber
  | .rightToLeft :: _ =>
      !directions.contains .leftToRight &&
        !(directions.contains .europeanNumber &&
          directions.contains .arabicNumber) &&
        last?.any fun last =>
          last = .rightToLeft || last = .europeanNumber || last = .arabicNumber
  | _ => false

end Label

/-- The labels of a name fit together: when one runs from right to left, all
keep their directions. -/
def areReadable (labels : List Label) : Bool :=
  labels.all Label.isReadable &&
    (!labels.any Label.runsLeft || labels.all Label.keepsDirection)

end LockAudit.Url
