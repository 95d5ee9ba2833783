import LockAudit.Text.CharacterTable

/-!
# Patterns

A pattern describes texts: `(` and `)` group, `|` divides alternatives, `*`, `+`
and `?` repeat what stands before them, `[` and `]` list characters, and a
backslash gives a character another meaning or takes its meaning away.  Here a
text is only told to be a pattern or not; it is read character by character.
-/

namespace LockAudit.Text

namespace Pattern

/-- What is being read, behind a part of a pattern. -/
inductive Mode where
  | plain
  /-- Directly behind `(`. -/
  | groupStart
  /-- Directly behind `(?`. -/
  | groupHead
  /-- Inside the settings of a group, perhaps behind a minus sign. -/
  | settings (behindMinus : Bool)
  /-- Before the bracket in front of a name. -/
  | nameStart
  | name (isEmpty : Bool)
  /-- In front of the first character of a list. -/
  | listStart (isNegated : Bool)
  | list
  /-- Behind a backslash, in a list or outside. -/
  | escape
  /-- Where hexadecimal digits are due. -/
  | digits (due : Nat)
  /-- Where the letter of a general category is due. -/
  | category
  deriving DecidableEq, Repr

structure Scan where
  mode : Mode := .plain
  openGroups : Nat := 0
  openLists : Nat := 0
  /-- Something stands before the next character that can be repeated. -/
  repeatable : Bool := false

namespace Scan

/-- Goes on behind a character or a sequence that stands for one. -/
def proceed (scan : Scan) : Scan :=
  if scan.openLists = 0 then { scan with mode := .plain, repeatable := true }
  else { scan with mode := .list }

def closeGroup? (scan : Scan) (repeatable : Bool) : Option Scan :=
  if scan.openGroups = 0 then none
  else
    some { scan with
      mode := .plain, openGroups := scan.openGroups - 1, repeatable }

def openList (scan : Scan) : Scan :=
  { scan with mode := .listStart false, openLists := scan.openLists + 1 }

def closeList (scan : Scan) : Scan :=
  { scan with openLists := scan.openLists - 1 }.proceed

/-- A repetition by numbers cannot be read. -/
def plainStep? (scan : Scan) : Char → Option Scan
  | '(' =>
      some { scan with
        mode := .groupStart, openGroups := scan.openGroups + 1
        repeatable := false }
  | ')' => scan.closeGroup? true
  | '|' => some { scan with mode := .plain, repeatable := false }
  | '*' | '+' | '?' =>
      if scan.repeatable then some { scan with mode := .plain } else none
  | '\x7b' => none
  | '[' => some scan.openList
  | '\\' => some { scan with mode := .escape }
  | _ => some scan.proceed

def listStep (scan : Scan) : Char → Scan
  | ']' => scan.closeList
  | '[' => scan.openList
  | '\\' => { scan with mode := .escape }
  | _ => { scan with mode := .list }

def isSetting (character : Char) : Bool :=
  "imsuUxR".toList.contains character

/-- Letters and digits have a meaning behind a backslash or may not stand there;
all other characters of ASCII stand for themselves, but for angle brackets. -/
def escapeStep? (scan : Scan) (character : Char) : Option Scan :=
  match character with
  | 'x' => some { scan with mode := .digits 2 }
  | 'u' => some { scan with mode := .digits 4 }
  | 'U' => some { scan with mode := .digits 8 }
  | 'p' | 'P' => some { scan with mode := .category }
  | 'A' | 'z' => if scan.openLists = 0 then some scan.proceed else none
  | _ =>
      if "dDsSwWaftnrv".toList.contains character then some scan.proceed
      else if character.isAlphanum || 127 < character.toNat ||
          character = '<' || character = '>' then none
      else some scan.proceed

def nameStep? (scan : Scan) (isEmpty : Bool) (character : Char) :
    Option Scan :=
  if character = '>' then
    if isEmpty then none else some { scan with mode := .plain }
  else if character.isAlpha || character = '_' ||
      (!isEmpty && (character.isDigit || ".[]".toList.contains character)) then
    some { scan with mode := .name false }
  else none

def settingsStep? (scan : Scan) (behindMinus : Bool) (character : Char) :
    Option Scan :=
  if isSetting character then some { scan with mode := .settings false }
  else if behindMinus then none
  else
    match character with
    | '-' => some { scan with mode := .settings true }
    | ':' => some { scan with mode := .plain }
    | ')' => scan.closeGroup? false
    | _ => none

/-- Reads one character; `none` stands for one that cannot stand there. -/
def step? (scan : Scan) (character : Char) : Option Scan :=
  match scan.mode with
  | .plain => scan.plainStep? character
  | .groupStart =>
      if character = '?' then some { scan with mode := .groupHead }
      else scan.plainStep? character
  | .groupHead =>
      match character with
      | 'P' => some { scan with mode := .nameStart }
      | '<' => some { scan with mode := .name true }
      | '-' => some { scan with mode := .settings true }
      | ':' => some { scan with mode := .plain }
      | _ =>
          if isSetting character then some { scan with mode := .settings false }
          else none
  | .settings behindMinus => scan.settingsStep? behindMinus character
  | .nameStart =>
      if character = '<' then some { scan with mode := .name true } else none
  | .name isEmpty => scan.nameStep? isEmpty character
  | .listStart isNegated =>
      if character = '^' && !isNegated then
        some { scan with mode := .listStart true }
      else if character = ']' then some { scan with mode := .list }
      else some (scan.listStep character)
  | .list => some (scan.listStep character)
  | .escape => scan.escapeStep? character
  | .digits due =>
      if (digitValue? 16 character).isNone then none
      else if due ≤ 1 then some scan.proceed
      else some { scan with mode := .digits (due - 1) }
  | .category =>
      if "CLMNPSZ".toList.contains character then some scan.proceed else none

/-- Nothing is left open. -/
def isComplete (scan : Scan) : Bool :=
  scan.openGroups = 0 && scan.openLists = 0 &&
    (scan.mode = .plain || scan.mode = .groupStart)

end Scan

end Pattern

/-- The text is a pattern. -/
def isPattern (text : String) : Bool :=
  (text.toList.foldlM Pattern.Scan.step? {}).any (·.isComplete)

end LockAudit.Text
