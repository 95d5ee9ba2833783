import LockAudit.Command.Session

/-!
# The command line
-/

namespace LockAudit.Command

/-- The reason for a failure, as the system words it. -/
def reason : IO.Error → String
  | .noFileOrDirectory .. => "No such file or directory (os error 2)"
  | .inappropriateType .. => "Is a directory (os error 21)"
  | .permissionDenied .. => "Permission denied (os error 13)"
  | error => toString error

def readInput (path : String) : IO InputFile := do
  try
    return .content (← IO.FS.readBinFile path)
  catch error =>
    match error with
    | .noFileOrDirectory .. => return .missing
    | _ => return .unreadable (reason error)

/-- Runs an action and measures its time in milliseconds. -/
def timed (action : IO α) : IO (α × Nat) := do
  let start ← IO.monoMsNow
  let result ← action
  return (result, (← IO.monoMsNow) - start)

def fail (failure : Failure) : IO UInt32 := do
  IO.eprintln (writeFailure failure.messages)
  return 1

/-- Writes the report, and tells how long the run took. -/
def deliver (options : Options) (words : List String) (report : Report)
    (total : Nat) : IO UInt32 := do
  let durations : Sarif.Durations := { analysis := total }
  let text := report.text words durations
  match options.outputFile with
  | none => IO.print text
  | some path =>
      try IO.FS.writeFile path text
      catch error => return ← fail (.output path (reason error))
  if options.showsTiming then
    IO.eprintln (report.timingLine total durations)
  return 0

def run (options : Options) (words : List String) : IO UInt32 := do
  match options.endpoint with
  | .error failure => fail failure
  | .ok _ =>
      let input ← readInput options.input
      let asked ← IO.getEnv "RUST_LOG"
      for line in noteLines options asked input do
        IO.eprintln line
      let (result, total) ← timed (pure (examine options input))
      match result with
      | .error failure => fail failure
      | .ok report => deliver options words report total

end LockAudit.Command

open LockAudit.Command in
/-- Exits with one after a failure and with two after a usage error. -/
def main (words : List String) : IO UInt32 := do
  let collector ← IO.getEnv "OTEL_EXPORTER_OTLP_ENDPOINT"
  match readArguments words collector with
  | .error error =>
      IO.eprintln s!"error: {error.message}"
      return 2
  | .ok .showVersion =>
      IO.print versionText
      return 0
  | .ok .showHelp =>
      IO.print helpText
      return 0
  | .ok (.run options) => run options words
