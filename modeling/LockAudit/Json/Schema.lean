import LockAudit.Json.Printer

/-!
# Schemas

A schema lists what is wrong with a value, in a fixed order.  Each constraint
speaks about values of one kind and says nothing about others, so the
constraints of a schema are tried independently of each other.
-/

namespace LockAudit.Json

inductive Violation where
  | wrongKind (value : Value) (expected : List Kind)
  | notListed (value : Value) (options : List String)
  | negative (value : Value)
  | tooShort (value : Value) (length : Nat)
  | missing (name : String)
  | noAlternative (value : Value)
  | severalAlternatives (value : Value)

def Violation.message : Violation → String
  | wrongKind value expected =>
      let types := if expected.length = 1 then "type" else "types"
      let names := ", ".intercalate (expected.map fun kind => quote kind.name)
      s!"{value.compact} is not of {types} {names}"
  | notListed value options =>
      let quoted := options.map quote
      let listed :=
        match quoted.reverse with
        | last :: before :: earlier =>
            ", ".intercalate (earlier.reverse ++ [before]) ++ " or " ++ last
        | short => ", ".intercalate short
      s!"{value.compact} is not one of {listed}"
  | negative value => s!"{value.compact} is less than the minimum of 0"
  | tooShort value length =>
      let characters := if length = 1 then "character" else "characters"
      s!"{value.compact} is shorter than {length} {characters}"
  | missing name => s!"{quote name} is a required property"
  | noAlternative value =>
      s!"{value.compact} is not valid under any of the schemas listed in the 'oneOf' keyword"
  | severalAlternatives value =>
      s!"{value.compact} is valid under more than one of the schemas listed in the 'oneOf' keyword"

/-- The violations of a value, in the order in which they are reported. -/
abbrev Schema := Value → List Violation

namespace Schema

def accepts (schema : Schema) (value : Value) : Bool :=
  (schema value).isEmpty

/-- All constraints, one after the other. -/
def all (constraints : List Schema) : Schema :=
  fun value => constraints.flatMap (· value)

def ofKind (kinds : List Kind) : Schema :=
  fun value =>
    if kinds.any value.hasKind then [] else [.wrongKind value kinds]

def listed (options : List String) : Schema
  | .string text =>
      if text ∈ options then [] else [.notListed (.string text) options]
  | value => [.notListed value options]

/-- Numbers are at least zero. -/
def nonNegative : Schema
  | .number number =>
      if number.isNegative then [.negative (.number number)] else []
  | _ => []

/-- Strings have at least so many characters. -/
def minLength (length : Nat) : Schema
  | .string text =>
      if text.length < length then [.tooShort (.string text) length] else []
  | _ => []

/-- Objects have members of these names. -/
def required (names : List String) : Schema
  | .object members =>
      names.filterMap fun name =>
        if (members.lookup name).isSome then none else some (.missing name)
  | _ => []

/-- The member of that name, if an object has one, satisfies a schema. -/
def property (name : String) (schema : Schema) : Schema :=
  fun value =>
    match value.get? name with
    | some held => schema held
    | none => []

/-- The items of an array satisfy a schema. -/
def items (schema : Schema) : Schema
  | .array values => values.flatMap schema
  | _ => []

/-- The value satisfies one alternative and no other.  What the alternatives
themselves object to is not reported. -/
def exactlyOne (alternatives : List Schema) : Schema :=
  fun value =>
    match alternatives.countP (·.accepts value) with
    | 0 => [.noAlternative value]
    | 1 => []
    | _ => [.severalAlternatives value]

end Schema

end LockAudit.Json
