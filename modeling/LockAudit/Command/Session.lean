import LockAudit.Command.Arguments
import LockAudit.Endpoint
import LockAudit.Journal.Filter
import LockAudit.Journal.Progress
import LockAudit.Json.Printer
import LockAudit.Sarif

/-!
# Sessions

A session is what a run of the program does between reading its input and
writing its report: it loads and audits the program, and gives the report or
the reason why there is none.
-/

namespace LockAudit.Command

/-- What reading the input gave. -/
inductive InputFile where
  | missing
  | unreadable (reason : String)
  | content (bytes : ByteArray)

/-- Why a session gave no report. -/
inductive Failure where
  | collector (error : Endpoint.EndpointError)
  | missingInput (path : String)
  | unreadable (path reason : String)
  | load (path : String) (error : LoadError)
  | audit (error : AuditError)
  | output (path reason : String)

/-- The messages from the outermost context to the innermost cause. -/
def Failure.messages : Failure → List String
  | collector error => error.messages
  | missingInput path => [s!"input not found: {path}"]
  | unreadable path reason => [s!"failed to read program model {path}", reason]
  | load path error => s!"invalid program model {path}" :: error.messages
  | audit error => [error.message]
  | output path reason => [s!"failed to open {path}", reason]

/-- A cause under its mark; further lines of it stand under its first. -/
def writeCause (mark : String) (cause : String) : String :=
  let margin := "".pushn ' ' mark.length
  mark ++ ("\n" ++ margin).intercalate (cause.splitOn "\n")

/-- A single cause is only indented; several are numbered from the outside. -/
def writeCauses : List String → List String
  | [cause] => [writeCause "    " cause]
  | causes => causes.zipIdx.map fun (cause, index) =>
      let number := toString index
      writeCause ("".pushn ' ' (5 - number.length) ++ number ++ ": ") cause

def writeFailure : List String → String
  | [] => "Error: "
  | [message] => s!"Error: {message}"
  | message :: causes =>
      let listed := "\n".intercalate (writeCauses causes)
      s!"Error: {message}\n\nCaused by:\n{listed}"

/-- A program and what its audit found. -/
structure Report where
  program : Program
  graph : CallGraph
  audit : Audit

def readText (path : String) : InputFile → Except Failure String
  | .missing => .error (.missingInput path)
  | .unreadable reason => .error (.unreadable path reason)
  | .content bytes =>
      match String.fromUTF8? bytes with
      | some text => .ok text
      | none => .error (.unreadable path "stream did not contain valid UTF-8")

def Options.signal (options : Options) : StopSignal :=
  { stepLimit := options.stepLimit }

/-- The address of the collector, when there is one. -/
def Options.endpoint (options : Options) : Except Failure (Option String) :=
  match options.collector with
  | none => .ok none
  | some collector =>
      match Endpoint.resolve collector with
      | .ok address => .ok (some address)
      | .error error => .error (.collector error)

/-- The report on a text; faults are met in the order of the work. -/
def examineText (options : Options) (text : String) : Except Failure Report := do
  let program ← (Program.load text).mapError (.load options.input)
  let graph := program.callGraph
  let audit ← (program.audit graph options.signal).mapError .audit
  return ⟨program, graph, audit⟩

def examine (options : Options) (input : InputFile) : Except Failure Report := do
  let _ ← options.endpoint
  examineText options (← readText options.input input)

def loadedNote (path : String) (program : Program) : Journal.Note :=
  ⟨.info, .command,
    s!"loaded {program.classes.length} classes and " ++
      s!"{program.procedures.length} procedures from {path}"⟩

/-- The notes on the examination of a text. -/
def textNotes (options : Options) (text : String) : List Journal.Note :=
  let later :=
    match Program.load text with
    | .error _ => []
    | .ok program =>
        loadedNote options.input program ::
          Journal.ofAudit program options.signal
  Journal.ofLoading text ++ later

/-- The notes of a session. -/
def notes (options : Options) (input : InputFile) : List Journal.Note :=
  match options.endpoint, readText options.input input with
  | .ok _, .ok text => textNotes options text
  | _, _ => []

def programName : String := "lockscope"

def versionText : String := s!"{programName} 0.1.0\n"

def helpText : String :=
  "Whole-program detector for instance locks guarding static data, " ++
    "with SARIF output.\n\n" ++
    s!"Usage: {programName} [OPTIONS] --input <PATH>\n\n" ++
    "Options:\n" ++
    "      --input <PATH>               Program model JSON\n" ++
    "      --output <PATH>              SARIF destination; - is standard output\n" ++
    "      --otel <URL>                 Collector endpoint for phase spans\n" ++
    "      --solver-step-limit <STEPS>  Abort after this many solver steps\n" ++
    "      --quiet\n" ++
    "      --timing\n" ++
    "  -h, --help                       Print help\n" ++
    "  -V, --version                    Print version\n"

/-- The file to write the report to; without one it goes to standard output. -/
def Options.outputFile (options : Options) : Option String :=
  options.output.filter (· ≠ "-")

namespace Report

def findingCount (report : Report) : Nat :=
  report.audit.findings.length

def invocation (report : Report) (words : List String)
    (durations : Sarif.Durations) : Sarif.Invocation :=
  { commandWords := some (programName :: words)
    durations
    classCount := report.program.classes.length
    procedureCount := report.program.procedures.length
    callEdgeCount := report.graph.edges.size
    findingCount := report.findingCount }

/-- The text of the report. -/
def text (report : Report) (words : List String)
    (durations : Sarif.Durations) : String :=
  let document :=
    Sarif.document (report.invocation words durations) patterns
      report.audit.findings
  document.indented ++ "\n"

def timingLine (report : Report) (total : Nat) (durations : Sarif.Durations) :
    String :=
  s!"timing: total_ms={total} load_ms={durations.load} " ++
    s!"call_graph_ms={durations.callGraph} analysis_ms={durations.analysis} " ++
    s!"procedures={report.program.procedures.length} " ++
    s!"findings={report.findingCount}"

end Report

def Options.showsTiming (options : Options) : Bool :=
  options.timing && !options.quiet

/-- The notes that are shown, as lines.  `asked` is the filter that the
environment asks for. -/
def noteLines (options : Options) (asked : Option String)
    (input : InputFile) : List String :=
  let filter := Journal.chooseFilter options.quiet asked
  ((notes options input).filter (Journal.allows filter)).map Journal.Note.write

end LockAudit.Command
