import LockAudit.Audit
import LockAudit.Json.Value

/-!
# Reports in SARIF

The JSON document that carries findings to other tools.  Properties that have
no value are left out.
-/

namespace LockAudit

open Json (Value)

namespace Sarif

/-- An object without the members that have no value. -/
def record (members : List (String × Option Value)) : Value :=
  .ofMembers (members.filterMap fun (name, value?) =>
    value?.map fun value => (name, value))

def textMessage (text : String) : Value :=
  record [("text", some (.string text))]

def artifactLocation (uri : String) : Value :=
  record [("uri", some (.string uri))]

def region (line : LineNumber) : Value :=
  record [("startLine", some (.nat line.toNat))]

/-- A place in a source file, when the file is known. -/
def physicalLocation? (position : CodePosition) : Option Value :=
  position.sourceFile.map fun file =>
    record [
      ("artifactLocation", some (artifactLocation file)),
      ("region", position.line.map region)]

def location (position : CodePosition) : Value :=
  let logical := record [
    ("kind", some (.string "function")),
    ("name", some (.string position.internalLabel))]
  record [
    ("logicalLocations", some (.array [logical])),
    ("physicalLocation", physicalLocation? position)]

def result (finding : Finding) : Value :=
  let fields := finding.staticFields.toList.map Value.string
  let enclosing := sourceName finding.position.enclosingClassName
  record [
    ("locations", some (.array [location finding.position])),
    ("message", some (textMessage finding.message)),
    ("properties", some (record [
      ("lockscope.enclosingClass", some (.string enclosing)),
      ("lockscope.staticFields", some (.array fields))])),
    ("ruleId", some (.string finding.patternId))]

def rule (pattern : Pattern) : Value :=
  record [
    ("id", some (.string pattern.id)),
    ("name", some (.string pattern.name)),
    ("properties", some (record [
      ("lockscope.hasFixer", some (.bool pattern.hasFixer))])),
    ("shortDescription", some (textMessage pattern.description))]

/-- Times in milliseconds. -/
structure Durations where
  load : Nat := 0
  callGraph : Nat := 0
  analysis : Nat := 0

/-- How the program was called, what it read and what it found. -/
structure Invocation where
  /-- The words of the command line, the program's name first. -/
  commandWords : Option (List String) := none
  durations : Durations := {}
  classCount : Nat
  procedureCount : Nat
  callEdgeCount : Nat
  findingCount : Nat

def invocation (details : Invocation) : Value :=
  let words := details.commandWords
  record [
    ("arguments", words.map fun words => .array (words.map Value.string)),
    ("commandLine", words.map fun words => .string (" ".intercalate words)),
    ("executionSuccessful", some (.bool true)),
    ("properties", some (record [
      ("lockscope.analysis_ms", some (.nat details.durations.analysis)),
      ("lockscope.call_edge_count", some (.nat details.callEdgeCount)),
      ("lockscope.call_graph_ms", some (.nat details.durations.callGraph)),
      ("lockscope.class_count", some (.nat details.classCount)),
      ("lockscope.finding_count", some (.nat details.findingCount)),
      ("lockscope.load_ms", some (.nat details.durations.load)),
      ("lockscope.procedure_count", some (.nat details.procedureCount))]))]

/-- A report; the list of rules is left out when it is empty. -/
def document (details : Invocation) (rules : List Pattern)
    (findings : List Finding) : Value :=
  let listed := if rules.isEmpty then none else some (.array (rules.map rule))
  let driver := record [
    ("name", some (.string "lockscope")),
    ("rules", listed)]
  let run := record [
    ("invocations", some (.array [invocation details])),
    ("results", some (.array (findings.map result))),
    ("tool", some (record [("driver", some driver)]))]
  record [
    ("$schema", some (.string
      "https://schemastore.azurewebsites.net/schemas/json/sarif-2.1.0.json")),
    ("runs", some (.array [run])),
    ("version", some (.string "2.1.0"))]

end Sarif

end LockAudit
