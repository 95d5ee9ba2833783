import LockAudit.Json.Printer

/-!
# Typed decoding

A decoder turns a value into data of a type, or says what is wrong with it and
where.  Members that no decoder asks for are ignored.
-/

namespace LockAudit.Json

/-- A step from a value to a part of it. -/
inductive Step where
  | key (name : String)
  | index (position : Nat)
  deriving DecidableEq, Repr

abbrev Path := List Step

/-- Keys are joined by points and indices stand in brackets. -/
def Path.render : Path → String
  | [] => ""
  | [step] => renderStep step
  | step :: .index position :: rest =>
      renderStep step ++ Path.render (.index position :: rest)
  | step :: next :: rest =>
      renderStep step ++ "." ++ Path.render (next :: rest)
where
  renderStep : Step → String
    | .key name => name
    | .index position => s!"[{position}]"

/-- An unsigned integer type of the format. -/
structure Width where
  name : String
  bits : Nat
  deriving DecidableEq, Repr

namespace Width

def word : Width := ⟨"u32", 32⟩

def index : Width := ⟨"usize", 64⟩

def long : Width := ⟨"u64", 64⟩

end Width

inductive DecodeCause where
  | outOfRange (value : Int) (width : Width)
  | notInteger (value : Double) (width : Width)
  | mismatch (value : Value) (expected : Kind)
  | missing (name : String)
  | unknownName (name : String)

def DecodeCause.message : DecodeCause → String
  | outOfRange value width =>
      s!"invalid value: integer `{value}`, expected {width.name}"
  | notInteger value width =>
      s!"invalid type: floating point `{numerals.write value}`, expected {width.name}"
  | mismatch value expected =>
      s!"invalid type: {value.compact}, expected {expected.name}"
  | missing name => s!"missing field `{name}`"
  | unknownName name => s!"unknown variant `{name}`"

structure DecodeError where
  path : Path
  cause : DecodeCause

def DecodeError.message (error : DecodeError) : String :=
  s!"{error.path.render}: {error.cause.message}"

abbrev Decoder (α : Type) := Value → Except DecodeError α

namespace Decoder

def fail (cause : DecodeCause) : Except DecodeError α :=
  .error ⟨[], cause⟩

/-- Records that a part of a value was decoded. -/
def under (step : Step) (result : Except DecodeError α) :
    Except DecodeError α :=
  result.mapError fun error => { error with path := step :: error.path }

/-- Forgets where inside a value decoding failed. -/
def whole (decode : Decoder α) : Decoder α :=
  fun value =>
    (decode value).mapError fun error => { error with path := [] }

def string : Decoder String
  | .string text => .ok text
  | value => fail (.mismatch value .string)

def bool : Decoder Bool
  | .bool value => .ok value
  | value => fail (.mismatch value .boolean)

/-- A natural number below `2 ^ width.bits`. -/
def unsigned (width : Width) : Decoder Nat
  | .number (.integer value) =>
      if 0 ≤ value ∧ value < Nat.pow 2 width.bits then .ok value.toNat
      else fail (.outOfRange value width)
  | .number (.double value) => fail (.notInteger value width)
  | value => fail (.mismatch value .integer)

def word : Decoder UInt32 :=
  fun value => return (← unsigned .word value).toUInt32

def long : Decoder UInt64 :=
  fun value => return (← unsigned .long value).toUInt64

/-- Null stands for absence. -/
def nullable (decode : Decoder α) : Decoder (Option α)
  | .null => .ok none
  | value => return some (← decode value)

/-- Decodes items from a position on. -/
def itemsFrom (decode : Decoder α) (position : Nat) :
    List Value → Except DecodeError (List α)
  | [] => .ok []
  | value :: rest => do
      let item ← under (.index position) (decode value)
      let items ← itemsFrom decode (position + 1) rest
      return item :: items

def list (decode : Decoder α) : Decoder (List α)
  | .array values => itemsFrom decode 0 values
  | value => fail (.mismatch value .array)

/-- A member that must be there. -/
def field (name : String) (decode : Decoder α) : Decoder α :=
  fun value =>
    match value.get? name with
    | some held => under (.key name) (decode held)
    | none => fail (.missing name)

/-- A member that may be left out. -/
def fieldOr (name : String) (absent : α) (decode : Decoder α) : Decoder α :=
  fun value =>
    match value.get? name with
    | some held => under (.key name) (decode held)
    | none => .ok absent

/-- The value is an object. -/
def object : Value → Except DecodeError Unit
  | .object _ => .ok ()
  | value => fail (.mismatch value .object)

end Decoder

end LockAudit.Json
