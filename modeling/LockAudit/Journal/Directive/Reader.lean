import LockAudit.Journal.Directive.Basic
import LockAudit.Text.Alphanumeric
import LockAudit.Text.CharacterTable
import LockAudit.Text.Pattern

/-!
# Reading directives

A directive is a level, a name, or `name[span{field=value}]=level`, of which the
name, the bracket and the level may be missing.  It is read character by
character.  Blanks at its ends are not read, but positions are counted without
them and pieces are cut out of the text with them, so that a directive is only
read as meant when it has none in front.
-/

namespace LockAudit.Journal

def numberedThreshold? : Nat → Option Threshold
  | 0 => some none
  | 1 => some (some .error)
  | 2 => some (some .warn)
  | 3 => some (some .info)
  | 4 => some (some .debug)
  | 5 => some (some .trace)
  | _ => none

/-- The case of letters does not matter. -/
def namedThreshold? (text : String) : Option Threshold :=
  match text.map Char.toLower with
  | "off" => some none
  | "error" => some (some .error)
  | "warn" => some (some .warn)
  | "info" => some (some .info)
  | "debug" => some (some .debug)
  | "trace" => some (some .trace)
  | _ => none

def readThreshold? (text : String) : Option Threshold :=
  match Text.numeral? text with
  | some number => numberedThreshold? number
  | none => namedThreshold? text

namespace Directive

/-- The part of a text between two positions, in bytes. -/
def cut? (text : String) (first last : Nat) : Option String :=
  String.fromUTF8? (text.toUTF8.extract first last)

/-- Characters with their positions in bytes. -/
def positions (start : Nat) : List Char → List (Nat × Char)
  | [] => []
  | character :: rest =>
      (start, character) :: positions (start + character.utf8Size) rest

/-- What is being read; a number is the position where it begins. -/
inductive Place where
  | start
  | nameOrLevel (first : Nat)
  | span (first : Nat)
  | field (first : Nat)
  | fieldEnd
  | bracketEnd
  | level (first : Nat)
  deriving DecidableEq, Repr

structure Reader where
  place : Place := .start
  directive : Directive := {}

/-- A directive may begin with a letter or a numeral or with a mark that occurs
in names. -/
def mayBegin (character : Char) : Bool :=
  Text.isAlphanumeric character ||
    character = '-' || character = ':' || character = '_'

/-- A field is a name, or a name with a value, which is a number or a
pattern. -/
def readField? (text : String) : Option FieldTest :=
  match text.splitOn "=" with
  | name :: value :: _ =>
      if (Text.numeral? value).isSome || Text.isPattern value then
        some ⟨name, true⟩
      else none
  | _ => if text.isEmpty then none else some ⟨text, false⟩

/-- Reads one character; `none` stands for one that cannot stand there. -/
def Reader.step (text : String) (reader : Reader) :
    Nat × Char → Option Reader
  | (position, character) =>
      let directive := reader.directive
      match reader.place, character with
      | .start, '[' => some ⟨.span (position + 1), directive⟩
      | .start, _ =>
          if mayBegin character then some ⟨.nameOrLevel position, directive⟩
          else none
      | .nameOrLevel first, '=' => do
          let source ← cut? text first position
          return ⟨.level (position + 1), { directive with source }⟩
      | .nameOrLevel first, '[' => do
          let source ← cut? text first position
          return ⟨.span (position + 1), { directive with source }⟩
      | .span first, ']' => do
          let span ← cut? text first position
          return ⟨.bracketEnd, { directive with span }⟩
      | .span first, '\x7b' => do
          let span ← cut? text first position
          let named := if span.isEmpty then none else some span
          return ⟨.field (position + 1), { directive with span := named }⟩
      | .field first, '\x7d' => do
          let field ← readField? (← cut? text first position)
          let fields := directive.fields ++ [field]
          return ⟨.fieldEnd, { directive with fields }⟩
      | .fieldEnd, ']' => some ⟨.bracketEnd, directive⟩
      | .fieldEnd, _ => none
      | .bracketEnd, '=' => some ⟨.level (position + 1), directive⟩
      | .bracketEnd, _ => none
      | _, _ => some reader

/-- The directive at the end of a text.  Without a level it allows all notes. -/
def Reader.finish? (text : String) (reader : Reader) : Option Directive :=
  match reader.place with
  | .nameOrLevel first => do
      let piece ← cut? text first text.utf8ByteSize
      match readThreshold? piece with
      | some threshold => return { reader.directive with threshold }
      | none => return { reader.directive with source := piece }
  | .level first => do
      let piece ← cut? text first text.utf8ByteSize
      if piece.isEmpty then return reader.directive
      else
        let threshold ← readThreshold? piece
        return { reader.directive with threshold }
  | .bracketEnd => some reader.directive
  | _ => none

/-- The directive that a text writes. -/
def read? (text : String) : Option Directive := do
  let trimmed := Text.trimBlanks text
  let reader ← (positions 0 trimmed.toList).foldlM (Reader.step text) {}
  reader.finish? text

end Directive

end LockAudit.Journal
