import LockAudit.Text.Invisible

/-!
# Lines and quoted text

A text is divided into lines by line feeds; a carriage return before a line
feed belongs to the line break.  In text between quotes every character can be
seen: quotes, backslashes and line breaks are escaped, and characters without a
visible form are written by their number.
-/

namespace LockAudit.Text

def dropReturn (line : String) : String :=
  let characters := line.toList
  if characters.getLast? = some '\r' then String.ofList characters.dropLast
  else line

/-- The lines of a text that is followed by a line break. -/
def lines (text : String) : List String :=
  (text.splitOn "\n").map dropReturn

def hexadecimal (number : Nat) : String :=
  String.ofList (Nat.toDigits 16 number)

def quotedCharacter (character : Char) : String :=
  match character with
  | '"' => "\\\""
  | '\\' => "\\\\"
  | '\n' => "\\n"
  | '\r' => "\\r"
  | '\t' => "\\t"
  | '\x00' => "\\0"
  | _ =>
      if isInvisible character then
        let digits := hexadecimal character.toNat
        s!"\\u\x7b{digits}\x7d"
      else String.singleton character

def quoted (text : String) : String :=
  let written := String.join (text.toList.map quotedCharacter)
  s!"\"{written}\""

/-- A set of items that are already written. -/
def braced (items : List String) : String :=
  let listed := ", ".intercalate items
  s!"\x7b{listed}\x7d"

end LockAudit.Text
