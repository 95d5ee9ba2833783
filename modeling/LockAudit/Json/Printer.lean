import LockAudit.Double.Shortest
import LockAudit.Json.Value

/-!
# Writing JSON

`Value.compact` writes a value on one line without blanks.  `Value.indented`
puts every item and member on a line of its own.
-/

namespace LockAudit.Json

/-- Doubles are written positionally from `0.00001` up to sixteen digits before
the point. -/
def numerals : NumeralFormat :=
  ⟨-5, 15⟩

def Number.write : Number → String
  | .integer value => toString value
  | .double value => numerals.write value

def hexDigit (digit : Nat) : Char :=
  Nat.digitChar (digit % 16)

/-- Inside quotes, the quote, the backslash and the control characters are
escaped; all other characters stand for themselves. -/
def escape (character : Char) : List Char :=
  match character with
  | '"' => ['\\', '"']
  | '\\' => ['\\', '\\']
  | '\n' => ['\\', 'n']
  | '\r' => ['\\', 'r']
  | '\t' => ['\\', 't']
  | '\x08' => ['\\', 'b']
  | '\x0c' => ['\\', 'f']
  | other =>
      if other.toNat < 0x20 then
        ['\\', 'u', '0', '0', hexDigit (other.toNat / 16), hexDigit other.toNat]
      else [other]

def quote (text : String) : String :=
  "\"" ++ String.ofList (text.toList.flatMap escape) ++ "\""

mutual

def Value.compact : Value → String
  | .null => "null"
  | .bool true => "true"
  | .bool false => "false"
  | .number value => value.write
  | .string text => quote text
  | .array items => "[" ++ Value.compactItems items ++ "]"
  | .object members => "\x7b" ++ Value.compactMembers members ++ "\x7d"

def Value.compactItems : List Value → String
  | [] => ""
  | [last] => last.compact
  | item :: rest => item.compact ++ "," ++ Value.compactItems rest

def Value.compactMembers : List (String × Value) → String
  | [] => ""
  | [(name, last)] => quote name ++ ":" ++ last.compact
  | (name, value) :: rest =>
      quote name ++ ":" ++ value.compact ++ "," ++ Value.compactMembers rest

end

/-- Starts a line at the given depth, two blanks a level. -/
def newLine (depth : Nat) : String :=
  "\n" ++ String.ofList (List.replicate (2 * depth) ' ')

mutual

def Value.indentedAt (depth : Nat) : Value → String
  | .array [] => "[]"
  | .array items =>
      "[" ++ newLine (depth + 1) ++ Value.indentedItems (depth + 1) items ++
        newLine depth ++ "]"
  | .object [] => "\x7b\x7d"
  | .object members =>
      "\x7b" ++ newLine (depth + 1) ++
        Value.indentedMembers (depth + 1) members ++ newLine depth ++ "\x7d"
  | .null => "null"
  | .bool true => "true"
  | .bool false => "false"
  | .number value => value.write
  | .string text => quote text

def Value.indentedItems (depth : Nat) : List Value → String
  | [] => ""
  | [last] => last.indentedAt depth
  | item :: rest =>
      item.indentedAt depth ++ "," ++ newLine depth ++
        Value.indentedItems depth rest

def Value.indentedMembers (depth : Nat) : List (String × Value) → String
  | [] => ""
  | [(name, last)] => quote name ++ ": " ++ last.indentedAt depth
  | (name, value) :: rest =>
      quote name ++ ": " ++ value.indentedAt depth ++ "," ++ newLine depth ++
        Value.indentedMembers depth rest

end

def Value.indented (value : Value) : String :=
  value.indentedAt 0

end LockAudit.Json
