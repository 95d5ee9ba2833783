import LockAudit.Json.Value

/-!
# Reading JSON

`parse` reads one value from a text.  A text that is no JSON is refused with
the cause and the place of the first fault.  Places count bytes of the UTF-8
form: every reader carries the number of bytes in front of it, and only a fault
turns that number into a line and a column.
-/

namespace LockAudit.Json

inductive SyntaxCause where
  | endInValue | endInList | endInObject | endInString
  | expectedValue | expectedIdentifier
  | expectedColon | expectedListSeparator | expectedObjectSeparator
  | trailingComma | trailingCharacters | keyNotString
  | invalidNumber | numberOutOfRange
  | invalidEscape | unpairedEscape | loneSurrogate | controlCharacter
  | tooDeep
  deriving DecidableEq, Repr

def SyntaxCause.message : SyntaxCause → String
  | endInValue => "EOF while parsing a value"
  | endInList => "EOF while parsing a list"
  | endInObject => "EOF while parsing an object"
  | endInString => "EOF while parsing a string"
  | expectedValue => "expected value"
  | expectedIdentifier => "expected ident"
  | expectedColon => "expected `:`"
  | expectedListSeparator => "expected `,` or `]`"
  | expectedObjectSeparator => "expected `,` or `\x7d`"
  | trailingComma => "trailing comma"
  | trailingCharacters => "trailing characters"
  | keyNotString => "key must be a string"
  | invalidNumber => "invalid number"
  | numberOutOfRange => "number out of range"
  | invalidEscape => "invalid escape"
  | unpairedEscape => "unexpected end of hex escape"
  | loneSurrogate => "lone leading surrogate in hex escape"
  | controlCharacter =>
      "control character (\\u0000-\\u001F) found while parsing a string"
  | tooDeep => "recursion limit exceeded"

/-- A fault, and the number of bytes up to and including its place. -/
structure Fault where
  cause : SyntaxCause
  offset : Nat
  deriving DecidableEq, Repr

/-- What is left of the text, and the number of bytes before it. -/
structure Cursor where
  rest : List Char
  offset : Nat

abbrev Reader (α : Type) :=
  Cursor → Except Fault (α × Cursor)

namespace Cursor

/-- A fault at the next byte, or at the end if there is none. -/
def failNext (cursor : Cursor) (cause : SyntaxCause) : Except Fault α :=
  match cursor.rest with
  | [] => .error ⟨cause, cursor.offset⟩
  | _ :: _ => .error ⟨cause, cursor.offset + 1⟩

def isBlank (character : Char) : Bool :=
  character = ' ' || character = '\n' || character = '\t' || character = '\r'

def isDigit (character : Char) : Bool :=
  '0' ≤ character && character ≤ '9'

/-- Blanks take one byte each. -/
def skipBlanks (cursor : Cursor) : Cursor :=
  ⟨cursor.rest.dropWhile isBlank,
    cursor.offset + (cursor.rest.takeWhile isBlank).length⟩

/-- The longest run of digits, which may be empty. -/
def takeDigits (cursor : Cursor) : List Nat × Cursor :=
  let digits := cursor.rest.takeWhile isDigit
  (digits.map fun digit => digit.toNat - '0'.toNat,
    ⟨cursor.rest.dropWhile isDigit, cursor.offset + digits.length⟩)

end Cursor

/-- Reads the remaining characters of a literal name. -/
def readName : List Char → Cursor → Except Fault Cursor
  | [], cursor => .ok cursor
  | expected :: later, cursor =>
      match cursor.rest with
      | [] => .error ⟨.endInValue, cursor.offset⟩
      | character :: rest =>
          if character = expected then readName later ⟨rest, cursor.offset + 1⟩
          else .error ⟨.expectedIdentifier, cursor.offset + 1⟩

/-- Appends digits to a number as long as it stays below `2 ^ 64`, and counts
them. -/
def absorb (number : Nat) : List Nat → Nat × Nat
  | [] => (number, 0)
  | digit :: digits =>
      let longer := 10 * number + digit
      if longer < Nat.pow 2 64 then
        let (result, count) := absorb longer digits
        (result, count + 1)
      else (number, 0)

/-- The value of an exponent, or the number of digits after which it passes
`2 ^ 31 - 1`. -/
def exponentValue (digits : List Nat) : Except Nat Nat :=
  let rec go (value used : Nat) : List Nat → Except Nat Nat
    | [] => .ok value
    | digit :: digits =>
        let longer := 10 * value + digit
        if longer < Nat.pow 2 31 then go longer (used + 1) digits
        else .error (used + 1)
  go 0 0 digits

/-- The double of a numeral whose digits, less those that do not fit, make up
`significand`. -/
def finishDouble (negative : Bool) (significand : Nat) (power : Int)
    (cursor : Cursor) : Except Fault (Number × Cursor) :=
  match Double.ofDecimal? negative significand power with
  | some value => .ok (.double value, cursor)
  | none => .error ⟨.numberOutOfRange, cursor.offset⟩

/-- Reads what follows the letter of an exponent. -/
def readExponent (negative : Bool) (significand : Nat) (power : Int)
    (cursor : Cursor) : Except Fault (Number × Cursor) :=
  let (below, start) :=
    match cursor.rest with
    | '+' :: rest => (false, Cursor.mk rest (cursor.offset + 1))
    | '-' :: rest => (true, Cursor.mk rest (cursor.offset + 1))
    | _ => (false, cursor)
  let (digits, after) := start.takeDigits
  if digits.isEmpty then
    match start.rest with
    | [] => .error ⟨.endInValue, start.offset⟩
    | _ :: _ => .error ⟨.invalidNumber, start.offset + 1⟩
  else
    match exponentValue digits with
    | .ok value =>
        finishDouble negative significand
          (if below then power - value else power + value) after
    | .error used =>
        if below || significand == 0 then
          .ok (.double (.zero negative), after)
        else .error ⟨.numberOutOfRange, start.offset + used⟩

/-- Reads a fraction after its point. -/
def readFraction (negative : Bool) (significand : Nat) (power : Int)
    (cursor : Cursor) : Except Fault (Number × Cursor) :=
  let (digits, after) := cursor.takeDigits
  if digits.isEmpty then
    match cursor.rest with
    | [] => .error ⟨.endInValue, cursor.offset⟩
    | _ :: _ => .error ⟨.invalidNumber, cursor.offset + 1⟩
  else
    let (significand, used) := absorb significand digits
    let power := power - used
    match after.rest with
    | 'e' :: rest | 'E' :: rest =>
        readExponent negative significand power ⟨rest, after.offset + 1⟩
    | _ => finishDouble negative significand power after

/-- A numeral without fraction and exponent.  It is an integer from `-2 ^ 63`
to `2 ^ 64 - 1`, except for negative zero. -/
def finishInteger (negative : Bool) (significand dropped : Nat)
    (cursor : Cursor) : Except Fault (Number × Cursor) :=
  if dropped ≠ 0 then finishDouble negative significand dropped cursor
  else if !negative then .ok (.integer significand, cursor)
  else if significand = 0 ∨ Nat.pow 2 63 < significand then
    finishDouble negative significand 0 cursor
  else .ok (.integer (-significand), cursor)

/-- Reads a number after its sign. -/
def readNumber (negative : Bool) (cursor : Cursor) :
    Except Fault (Number × Cursor) :=
  let (digits, after) := cursor.takeDigits
  match digits with
  | [] =>
      match cursor.rest with
      | [] => .error ⟨.endInValue, cursor.offset⟩
      | _ :: _ => .error ⟨.invalidNumber, cursor.offset + 1⟩
  | 0 :: _ :: _ => .error ⟨.invalidNumber, cursor.offset + 2⟩
  | digits =>
      let (significand, used) := absorb 0 digits
      let dropped := digits.length - used
      match after.rest with
      | '.' :: rest =>
          readFraction negative significand dropped ⟨rest, after.offset + 1⟩
      | 'e' :: rest | 'E' :: rest =>
          readExponent negative significand dropped ⟨rest, after.offset + 1⟩
      | _ => finishInteger negative significand dropped after

def hexValue? (character : Char) : Option Nat :=
  if '0' ≤ character ∧ character ≤ '9' then
    some (character.toNat - '0'.toNat)
  else if 'a' ≤ character ∧ character ≤ 'f' then
    some (character.toNat - 'a'.toNat + 10)
  else if 'A' ≤ character ∧ character ≤ 'F' then
    some (character.toNat - 'A'.toNat + 10)
  else none

def hexUnit? (first second third fourth : Char) : Option Nat := do
  let first ← hexValue? first
  let second ← hexValue? second
  let third ← hexValue? third
  let fourth ← hexValue? fourth
  return ((first * 16 + second) * 16 + third) * 16 + fourth

/-- The fault of four bytes that are no hexadecimal digits, or of fewer than
four. -/
def failHex (rest : List Char) (offset : Nat) : Fault :=
  let bytes := rest.foldl (fun bytes char => bytes + char.utf8Size) 0
  if bytes < 4 then ⟨.endInString, offset + bytes⟩
  else ⟨.invalidEscape, offset + 4⟩

def escaped? : Char → Option Char
  | '"' => some '"'
  | '\\' => some '\\'
  | '/' => some '/'
  | 'b' => some '\x08'
  | 'f' => some '\x0c'
  | 'n' => some '\n'
  | 'r' => some '\r'
  | 't' => some '\t'
  | _ => none

/-- Reads a string after its opening quote.  `reversed` holds the characters
read so far, the last one first. -/
def readString (reversed : List Char) :
    List Char → Nat → Except Fault (String × Cursor)
  | [], offset => .error ⟨.endInString, offset⟩
  | '"' :: rest, offset =>
      .ok (String.ofList reversed.reverse, ⟨rest, offset + 1⟩)
  | '\\' :: [], offset => .error ⟨.endInString, offset + 1⟩
  | '\\' :: 'u' :: first :: second :: third :: fourth :: rest, offset =>
      match hexUnit? first second third fourth with
      | none =>
          .error (failHex (first :: second :: third :: fourth :: rest)
            (offset + 2))
      | some unit =>
          if 0xDC00 ≤ unit ∧ unit ≤ 0xDFFF then
            .error ⟨.loneSurrogate, offset + 6⟩
          else if unit < 0xD800 ∨ 0xDBFF < unit then
            readString (Char.ofNat unit :: reversed) rest (offset + 6)
          else
            match rest with
            | [] => .error ⟨.endInString, offset + 6⟩
            | '\\' :: [] => .error ⟨.endInString, offset + 7⟩
            | '\\' :: 'u' :: fifth :: sixth :: seventh :: eighth :: later =>
                match hexUnit? fifth sixth seventh eighth with
                | none =>
                    .error (failHex (fifth :: sixth :: seventh :: eighth ::
                      later) (offset + 8))
                | some low =>
                    if low < 0xDC00 ∨ 0xDFFF < low then
                      .error ⟨.loneSurrogate, offset + 12⟩
                    else
                      readString
                        (Char.ofNat (0x10000 + (unit - 0xD800) * 0x400 +
                          (low - 0xDC00)) :: reversed) later (offset + 12)
            | '\\' :: 'u' :: later => .error (failHex later (offset + 8))
            | '\\' :: _ :: _ => .error ⟨.unpairedEscape, offset + 8⟩
            | _ :: _ => .error ⟨.unpairedEscape, offset + 7⟩
  | '\\' :: 'u' :: rest, offset => .error (failHex rest (offset + 2))
  | '\\' :: letter :: rest, offset =>
      match escaped? letter with
      | some character => readString (character :: reversed) rest (offset + 2)
      | none => .error ⟨.invalidEscape, offset + 2⟩
  | character :: rest, offset =>
      if character.toNat < 0x20 then .error ⟨.controlCharacter, offset + 1⟩
      else
        readString (character :: reversed) rest (offset + character.utf8Size)

/-- The two loops go round at most `fuel` times.  Every round consumes a
character, so the number of characters left is enough. -/
def readItems (item : Reader Value) (reversed : List Value) :
    (fuel : Nat) → Reader (List Value)
  | 0, cursor => cursor.failNext .expectedValue
  | fuel + 1, cursor =>
      let cursor := cursor.skipBlanks
      match cursor.rest with
      | [] => cursor.failNext .endInList
      | ']' :: rest => .ok (reversed.reverse, ⟨rest, cursor.offset + 1⟩)
      | next :: rest =>
          if reversed.isEmpty then do
            let (value, after) ← item cursor
            readItems item (value :: reversed) fuel after
          else if next = ',' then
            let cursor := (Cursor.mk rest (cursor.offset + 1)).skipBlanks
            match cursor.rest with
            | [] => cursor.failNext .endInValue
            | ']' :: _ => cursor.failNext .trailingComma
            | _ :: _ => do
                let (value, after) ← item cursor
                readItems item (value :: reversed) fuel after
          else cursor.failNext .expectedListSeparator

/-- Reads a member from the opening quote of its name. -/
def readMember (item : Reader Value) : Reader (String × Value) :=
  fun cursor => do
    let (name, after) ←
      readString [] (cursor.rest.drop 1) (cursor.offset + 1)
    let after := after.skipBlanks
    match after.rest with
    | [] => after.failNext .endInObject
    | ':' :: rest => do
        let (value, last) ← item ⟨rest, after.offset + 1⟩
        return ((name, value), last)
    | _ :: _ => after.failNext .expectedColon

def readMembers (item : Reader Value) (reversed : List (String × Value)) :
    (fuel : Nat) → Reader (List (String × Value))
  | 0, cursor => cursor.failNext .expectedValue
  | fuel + 1, cursor =>
      let cursor := cursor.skipBlanks
      match cursor.rest with
      | [] => cursor.failNext .endInObject
      | '}' :: rest => .ok (reversed.reverse, ⟨rest, cursor.offset + 1⟩)
      | next :: rest =>
          if reversed.isEmpty then
            if next = '"' then do
              let (member, after) ← readMember item cursor
              readMembers item (member :: reversed) fuel after
            else cursor.failNext .keyNotString
          else if next = ',' then
            let cursor := (Cursor.mk rest (cursor.offset + 1)).skipBlanks
            match cursor.rest with
            | [] => cursor.failNext .endInValue
            | '"' :: _ => do
                let (member, after) ← readMember item cursor
                readMembers item (member :: reversed) fuel after
            | '}' :: _ => cursor.failNext .trailingComma
            | _ :: _ => cursor.failNext .keyNotString
          else cursor.failNext .expectedObjectSeparator

/-- Reads a value in which lists and objects nest at most `levels` deep. -/
def readValue : (levels : Nat) → Reader Value
  | levels, cursor =>
      let cursor := cursor.skipBlanks
      match cursor.rest with
      | [] => cursor.failNext .endInValue
      | 'n' :: rest => do
          let after ← readName ['u', 'l', 'l'] ⟨rest, cursor.offset + 1⟩
          return (.null, after)
      | 't' :: rest => do
          let after ← readName ['r', 'u', 'e'] ⟨rest, cursor.offset + 1⟩
          return (.bool true, after)
      | 'f' :: rest => do
          let after ← readName ['a', 'l', 's', 'e'] ⟨rest, cursor.offset + 1⟩
          return (.bool false, after)
      | '"' :: rest => do
          let (text, after) ← readString [] rest (cursor.offset + 1)
          return (.string text, after)
      | '-' :: rest => do
          let (number, after) ← readNumber true ⟨rest, cursor.offset + 1⟩
          return (.number number, after)
      | '[' :: rest =>
          match levels with
          | 0 => cursor.failNext .tooDeep
          | levels + 1 => do
              let (items, after) ←
                readItems (readValue levels) [] (rest.length + 1)
                  ⟨rest, cursor.offset + 1⟩
              return (.array items, after)
      | '{' :: rest =>
          match levels with
          | 0 => cursor.failNext .tooDeep
          | levels + 1 => do
              let (members, after) ←
                readMembers (readValue levels) [] (rest.length + 1)
                  ⟨rest, cursor.offset + 1⟩
              return (.ofMembers members, after)
      | next :: _ =>
          if Cursor.isDigit next then do
            let (number, after) ← readNumber false cursor
            return (.number number, after)
          else cursor.failNext .expectedValue

/-- A line, counted from one, and the number of bytes on it up to and including
the place. -/
structure Position where
  line : Nat
  column : Nat
  deriving DecidableEq, Repr

namespace Position

/-- The position after a number of bytes, which may end inside a character. -/
def advance (position : Position) : List Char → Nat → Position
  | [], _ => position
  | character :: rest, bytes =>
      if bytes < character.utf8Size then
        ⟨position.line, position.column + bytes⟩
      else if character = '\n' then
        advance ⟨position.line + 1, 0⟩ rest (bytes - 1)
      else
        advance ⟨position.line, position.column + character.utf8Size⟩ rest
          (bytes - character.utf8Size)

def after (text : String) (bytes : Nat) : Position :=
  advance ⟨1, 0⟩ text.toList bytes

end Position

structure SyntaxError where
  cause : SyntaxCause
  position : Position
  deriving DecidableEq, Repr

def SyntaxError.message (error : SyntaxError) : String :=
  s!"{error.cause.message} at line {error.position.line} column {error.position.column}"

/-- Reads a text that holds one value, in which lists and objects nest at most
`levels` deep, and nothing else but blanks. -/
def parseNested (levels : Nat) (text : String) : Except SyntaxError Value :=
  let outcome := do
    let (value, after) ← readValue levels ⟨text.toList, 0⟩
    let after := after.skipBlanks
    match after.rest with
    | [] => return value
    | _ :: _ => after.failNext .trailingCharacters
  outcome.mapError fun fault =>
    ⟨fault.cause, Position.after text fault.offset⟩

/-- Lists and objects nest at most 127 deep. -/
def parse (text : String) : Except SyntaxError Value :=
  parseNested 127 text

end LockAudit.Json
