import LockAudit.Double.Basic

/-!
# JSON values

Objects list their members in increasing order of the names, each name once.
`Value.ofMembers` brings members into that form; of several members with one
name it keeps the last.
-/

namespace LockAudit.Json

/-- A number is an exact integer or a double, never both: `1` and `1.0` are
different values. -/
inductive Number where
  | integer (value : Int)
  | double (value : Double)
  deriving DecidableEq, Repr

inductive Value where
  | null
  | bool (value : Bool)
  | number (value : Number)
  | string (value : String)
  | array (items : List Value)
  | object (members : List (String × Value))
  deriving Inhabited, Repr

/-- The kinds of value that a format can tell apart.  An integral double is an
integer here. -/
inductive Kind where
  | array | boolean | integer | null | number | object | string
  deriving DecidableEq, Repr

namespace Kind

def name : Kind → String
  | array => "array"
  | boolean => "boolean"
  | integer => "integer"
  | null => "null"
  | number => "number"
  | object => "object"
  | string => "string"

end Kind

namespace Number

def isIntegral : Number → Bool
  | integer _ => true
  | double value => value.isIntegral

def isNegative : Number → Bool
  | integer value => value < 0
  | double value => value.isNegative

end Number

namespace Value

def nat (value : Nat) : Value :=
  number (.integer value)

def hasKind : Value → Kind → Bool
  | null, .null => true
  | bool _, .boolean => true
  | number _, .number => true
  | number value, .integer => value.isIntegral
  | string _, .string => true
  | array _, .array => true
  | object _, .object => true
  | _, _ => false

/-- Adds a member in its place, instead of any member of the same name. -/
def insertMember (name : String) (value : Value) :
    List (String × Value) → List (String × Value)
  | [] => [(name, value)]
  | (other, held) :: rest =>
      match compare name other with
      | .lt => (name, value) :: (other, held) :: rest
      | .eq => (name, value) :: rest
      | .gt => (other, held) :: insertMember name value rest

def ofMembers (members : List (String × Value)) : Value :=
  object (members.foldl
    (fun sorted member => insertMember member.1 member.2 sorted) [])

/-- The member of an object with the given name. -/
def get? : Value → String → Option Value
  | object members, name => members.lookup name
  | _, _ => none

end Value

end LockAudit.Json
