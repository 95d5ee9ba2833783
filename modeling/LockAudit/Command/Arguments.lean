import LockAudit.Text.CharacterTable

/-!
# Command-line arguments

Words are read from left to right, and the first fault decides.  An option
takes a value, as the next word or behind an equals sign; a switch takes none.
-/

namespace LockAudit.Command

/-- What a run is asked to do. -/
structure Options where
  /-- The file that holds the program to audit. -/
  input : String
  /-- Where the report goes. -/
  output : Option String := none
  /-- The address of a collector of spans. -/
  collector : Option String := none
  stepLimit : Option Nat := none
  quiet : Bool := false
  timing : Bool := false
  deriving DecidableEq, Repr

inductive Request where
  | showVersion
  | showHelp
  | run (options : Options)
  deriving DecidableEq, Repr

inductive UsageError where
  | unexpectedWord (word : String)
  | missingValue (name : String)
  | unexpectedValue (name : String)
  | invalidValue (name value : String)
  | repeated (name : String)
  | missingInput
  deriving DecidableEq, Repr

def UsageError.message : UsageError → String
  | unexpectedWord word => s!"unexpected argument '{word}' found"
  | missingValue name => s!"a value is required for '--{name}'"
  | unexpectedValue name => s!"unexpected value for '--{name}' found"
  | invalidValue name value => s!"invalid value '{value}' for '--{name}'"
  | repeated name => s!"the argument '--{name}' cannot be used multiple times"
  | missingInput => "the argument '--input' is required"

/-- What has been read so far. -/
structure Draft where
  input : Option String := none
  output : Option String := none
  collector : Option String := none
  stepLimit : Option Nat := none
  quiet : Bool := false
  timing : Bool := false

namespace Draft

/-- Puts a value in its place, which must be free. -/
def fill (name : String) (place : Option α) (value : α) :
    Except UsageError (Option α) :=
  if place.isSome then .error (.repeated name) else .ok (some value)

def filePath (name value : String) : Except UsageError String :=
  if value.isEmpty then .error (.invalidValue name value) else .ok value

/-- A number of steps fits in sixty-four bits. -/
def stepCount (name value : String) : Except UsageError Nat :=
  match (Text.numeral? value).filter (· < Nat.pow 2 64) with
  | some count => .ok count
  | none => .error (.invalidValue name value)

def takesValue (name : String) : Bool :=
  ["input", "output", "otel", "solver-step-limit"].contains name

def isSwitch (name : String) : Bool :=
  ["quiet", "timing"].contains name

def setOption (draft : Draft) (name value : String) : Except UsageError Draft :=
  match name with
  | "input" => do
      let path ← filePath name value
      return { draft with input := ← fill name draft.input path }
  | "output" => do
      let path ← filePath name value
      return { draft with output := ← fill name draft.output path }
  | "otel" => do
      return { draft with collector := ← fill name draft.collector value }
  | "solver-step-limit" => do
      let count ← stepCount name value
      return { draft with stepLimit := ← fill name draft.stepLimit count }
  | _ => .error (.unexpectedWord name)

def setSwitch (draft : Draft) (name : String) : Except UsageError Draft :=
  match name with
  | "quiet" =>
      if draft.quiet then .error (.repeated name)
      else .ok { draft with quiet := true }
  | "timing" =>
      if draft.timing then .error (.repeated name)
      else .ok { draft with timing := true }
  | _ => .error (.unexpectedWord name)

/-- A collector that no word names may be named by the environment. -/
def complete (draft : Draft) (collector : Option String) :
    Except UsageError Options :=
  match draft.input with
  | none => .error .missingInput
  | some input =>
      .ok {
        input
        output := draft.output
        collector := draft.collector.or collector
        stepLimit := draft.stepLimit
        quiet := draft.quiet
        timing := draft.timing }

end Draft

/-- The forms that a word can have. -/
inductive WordForm where
  /-- Two dashes and a name, and the text behind an equals sign. -/
  | long (name : String) (value : Option String)
  /-- One dash and letters, of which the first decides. -/
  | short (letter : Char)
  /-- Two dashes: no later word is an option. -/
  | divider
  | other
  deriving DecidableEq, Repr

def WordForm.ofCharacters : List Char → WordForm
  | ['-', '-'] => .divider
  | '-' :: '-' :: rest =>
      let name := String.ofList (rest.takeWhile (· ≠ '='))
      match rest.dropWhile (· ≠ '=') with
      | [] => .long name none
      | _ :: value => .long name (some (String.ofList value))
  | '-' :: letter :: _ => .short letter
  | _ => .other

def WordForm.ofWord (word : String) : WordForm :=
  ofCharacters word.toList

/-- The end of reading: a request that needs no options, or options. -/
inductive Ending where
  | showVersion
  | showHelp
  | options (draft : Draft)

/-- Reads words.  `waiting` names an option whose value is still to come. -/
def readWords (draft : Draft) (waiting : Option String) :
    List String → Except UsageError Ending
  | [] =>
      match waiting with
      | some name => .error (.missingValue name)
      | none => .ok (.options draft)
  | word :: rest =>
      match waiting, WordForm.ofWord word with
      | some name, .other => do
          readWords (← draft.setOption name word) none rest
      | some name, _ => .error (.missingValue name)
      | none, .long name value =>
          match name, value with
          | "version", none => .ok .showVersion
          | "help", none => .ok .showHelp
          | "version", some _ => .error (.unexpectedValue name)
          | "help", some _ => .error (.unexpectedValue name)
          | _, some value =>
              if Draft.takesValue name then do
                readWords (← draft.setOption name value) none rest
              else if Draft.isSwitch name then .error (.unexpectedValue name)
              else .error (.unexpectedWord word)
          | _, none =>
              if Draft.takesValue name then readWords draft (some name) rest
              else do readWords (← draft.setSwitch name) none rest
      | none, .short 'V' => .ok .showVersion
      | none, .short 'h' => .ok .showHelp
      | none, .divider =>
          match rest with
          | [] => .ok (.options draft)
          | next :: _ => .error (.unexpectedWord next)
      | none, _ => .error (.unexpectedWord word)

/-- The request that the words of a command line make.  `collector` is what the
environment says about a collector. -/
def readArguments (words : List String) (collector : Option String) :
    Except UsageError Request := do
  match ← readWords {} none words with
  | .showVersion => return .showVersion
  | .showHelp => return .showHelp
  | .options draft => return .run (← draft.complete collector)

end LockAudit.Command
