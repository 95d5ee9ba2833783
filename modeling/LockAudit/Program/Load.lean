import LockAudit.Json.Reader
import LockAudit.Program.Contract
import LockAudit.Program.Decode
import LockAudit.Program.Schema

/-!
# Loading programs

A text becomes a program in four steps: it is read as JSON, held against the
schema, decoded, and checked against the contract.  The first step that fails
gives the error.
-/

namespace LockAudit

inductive LoadError where
  | malformed (error : Json.SyntaxError)
  | misshapen (violations : List Json.Violation)
  | undecodable (error : Json.DecodeError)
  | inconsistent (violation : ContractViolation)

/-- The messages from the outermost context to the innermost cause. -/
def LoadError.messages : LoadError → List String
  | malformed error => ["parse program model JSON", error.message]
  | misshapen violations =>
      let listed := "; ".intercalate (violations.map Json.Violation.message)
      [s!"program model violates schema: {listed}"]
  | undecodable error => [s!"program model at {error.message}"]
  | inconsistent violation => violation.messages

namespace Program

/-- Refuses a program with its first breach of the contract. -/
def check (program : Program) : Except LoadError Program :=
  match program.violations with
  | [] => .ok program
  | violation :: _ => .error (.inconsistent violation)

/-- The program that a JSON value describes, before the contract is checked. -/
def ofValue (value : Json.Value) : Except LoadError Program :=
  match Format.program value with
  | [] => (decode value).mapError .undecodable
  | violations => .error (.misshapen violations)

/-- The program that a text describes, before the contract is checked. -/
def read (text : String) : Except LoadError Program := do
  ofValue (← (Json.parse text).mapError .malformed)

def load (text : String) : Except LoadError Program := do
  check (← read text)

end Program

end LockAudit
