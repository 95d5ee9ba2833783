import LockAudit.Text.Lines

/-!
# Journal notes

While it works the program tells what it does, in notes of different levels.
A note names the part of the program that speaks.  Its message may quote names
from anywhere, so characters that could steer a terminal are written by number.
-/

namespace LockAudit.Journal

/-- Levels of detail, the most urgent first. -/
inductive Level where
  | error | warn | info | debug | trace
  deriving DecidableEq, Repr

namespace Level

/-- One for the most urgent level, and more for more detail. -/
def rank : Level → Nat
  | error => 1
  | warn => 2
  | info => 3
  | debug => 4
  | trace => 5

def label : Level → String
  | error => "ERROR"
  | warn => "WARN"
  | info => "INFO"
  | debug => "DEBUG"
  | trace => "TRACE"

end Level

/-- The parts of the program that write notes. -/
inductive Source where
  | command | loading | callGraph | patterns
  | instanceLocks | locks | regions | writes | reach | findings
  deriving DecidableEq, Repr

def Source.name : Source → String
  | command => "lockscope"
  | loading => "lockscope::model"
  | callGraph => "lockscope::engine"
  | patterns => "lockscope::detectors"
  | instanceLocks => "lockscope::detectors::instance_lock_static_data"
  | locks => "lockscope::detectors::instance_lock_static_data::lock_safety"
  | regions => "lockscope::detectors::instance_lock_static_data::regions"
  | writes => "lockscope::detectors::instance_lock_static_data::mutation"
  | reach => "lockscope::detectors::instance_lock_static_data::propagation"
  | findings => "lockscope::detectors::instance_lock_static_data::report"

structure Note where
  level : Level
  source : Source
  message : String
  deriving DecidableEq, Repr

/-- Characters that a terminal could take for a command. -/
def steersTerminal (character : Char) : Bool :=
  character = '\x07' || character = '\x08' || character = '\x0c' ||
    character = '\x1b' || (0x7f ≤ character.toNat && character.toNat ≤ 0x9f)

/-- A command of ASCII is written with two digits, any other between braces. -/
def harmlessCharacter (character : Char) : String :=
  let digits := Text.hexadecimal character.toNat
  if !steersTerminal character then String.singleton character
  else if character.toNat < 0x10 then s!"\\x0{digits}"
  else if character.toNat < 0x80 then s!"\\x{digits}"
  else s!"\\u\x7b{digits}\x7d"

def harmless (message : String) : String :=
  String.join (message.toList.map harmlessCharacter)

namespace Note

def write (note : Note) : String :=
  let message := harmless note.message
  s!"{note.level.label} {note.source.name}: {message}"

/-- The note with its level moved to the right end of a column. -/
def writeAligned (note : Note) : String :=
  let width := 5 - note.level.label.length
  "".pushn ' ' width ++ note.write

/-- The note has no more detail than a level asks for. -/
def isWithin (note : Note) (level : Level) : Bool :=
  note.level.rank ≤ level.rank

end Note

end LockAudit.Journal
