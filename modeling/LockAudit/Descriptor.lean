/-!
# Type and method descriptors

The written forms of field types and method signatures in compiled classes.
Reading takes the longest descriptor at the front of a text and ignores what
follows it; `TypeDescriptor.write` and `MethodDescriptor.write` print
descriptors back.
-/

namespace LockAudit

/-- A type that is no array. -/
inductive ElementType where
  | boolean | byte | char | short | int | long | float | double
  | void
  | object (className : String)
  deriving DecidableEq, Repr

inductive TypeDescriptor where
  | plain (element : ElementType)
  | array (element : ElementType) (dimensions : Nat)
  deriving DecidableEq, Repr

structure MethodDescriptor where
  parameters : List TypeDescriptor
  result : TypeDescriptor
  deriving DecidableEq, Repr

inductive DescriptorFault where
  | endOfInput
  | missingSemicolon
  | tooManyDimensions
  | unrecognizedType
  /-- The end of the parameters stands where the element type of an array is
  due. -/
  | missingElement
  /-- The end of the parameters stands where a field type is due. -/
  | missingFieldType
  | missingOpening
  | missingResult
  deriving DecidableEq, Repr

def DescriptorFault.message : DescriptorFault → String
  | endOfInput => "Unexpected end of input."
  | missingSemicolon =>
      "Invalid descriptor: Missing semicolon in class name descriptor."
  | tooManyDimensions => "Array has too many dimensions."
  | unrecognizedType => "Invalid descriptor: Unrecognized type descriptor."
  | missingElement => "Invalid descriptor: Invalid descriptor."
  | missingFieldType => "Invalid descriptor: Invalid descriptor"
  | missingOpening =>
      "Invalid descriptor: Method descriptor must start with '('."
  | missingResult => "Invalid descriptor: Missing return type."

def ElementType.write : ElementType → List Char
  | boolean => ['Z']
  | byte => ['B']
  | char => ['C']
  | short => ['S']
  | int => ['I']
  | long => ['J']
  | float => ['F']
  | double => ['D']
  | void => ['V']
  | object className => 'L' :: className.toList ++ [';']

def TypeDescriptor.write : TypeDescriptor → List Char
  | plain element => element.write
  | array element dimensions => List.replicate dimensions '[' ++ element.write

def MethodDescriptor.write (method : MethodDescriptor) : List Char :=
  '(' :: method.parameters.flatMap TypeDescriptor.write ++
    ')' :: method.result.write

instance : ToString TypeDescriptor :=
  ⟨fun type => String.ofList type.write⟩

instance : ToString MethodDescriptor :=
  ⟨fun method => String.ofList method.write⟩

/-- Reads an element type, or `none` at the end of a parameter list. -/
def readElement? :
    List Char → Except DescriptorFault (Option ElementType × List Char)
  | [] => .error .endOfInput
  | 'Z' :: rest => .ok (some .boolean, rest)
  | 'B' :: rest => .ok (some .byte, rest)
  | 'C' :: rest => .ok (some .char, rest)
  | 'S' :: rest => .ok (some .short, rest)
  | 'I' :: rest => .ok (some .int, rest)
  | 'J' :: rest => .ok (some .long, rest)
  | 'F' :: rest => .ok (some .float, rest)
  | 'D' :: rest => .ok (some .double, rest)
  | 'V' :: rest => .ok (some .void, rest)
  | ')' :: rest => .ok (none, rest)
  | 'L' :: rest =>
      match rest.dropWhile (· ≠ ';') with
      | [] => .error .missingSemicolon
      | _ :: after =>
          .ok (some (.object (String.ofList (rest.takeWhile (· ≠ ';')))), after)
  | _ :: _ => .error .unrecognizedType

/-- Reads a type, or `none` at the end of a parameter list. -/
def readType? (text : List Char) :
    Except DescriptorFault (Option TypeDescriptor × List Char) := do
  let dimensions := (text.takeWhile (· = '[')).length
  if 255 < dimensions then throw .tooManyDimensions
  let (element?, rest) ← readElement? (text.dropWhile (· = '['))
  match element? with
  | some element =>
      let type :=
        if dimensions = 0 then .plain element else .array element dimensions
      return (some type, rest)
  | none => if dimensions = 0 then return (none, rest) else throw .missingElement

/-- Reads parameter types up to and including the closing parenthesis.  A type
takes at least one character, so `fuel` need not exceed the length. -/
def readParameters :
    (fuel : Nat) → List Char →
      Except DescriptorFault (List TypeDescriptor × List Char)
  | 0, _ => .error .endOfInput
  | fuel + 1, text => do
      let (type?, rest) ← readType? text
      match type? with
      | none => return ([], rest)
      | some type =>
          let (types, last) ← readParameters fuel rest
          return (type :: types, last)

def TypeDescriptor.parse (text : String) :
    Except DescriptorFault TypeDescriptor := do
  match ← readType? text.toList with
  | (some type, _) => return type
  | (none, _) => throw .missingFieldType

def MethodDescriptor.parse (text : String) :
    Except DescriptorFault MethodDescriptor :=
  match text.toList with
  | '(' :: rest => do
      let (parameters, rest) ← readParameters (rest.length + 1) rest
      match ← readType? rest with
      | (some result, _) => return ⟨parameters, result⟩
      | (none, _) => throw .missingResult
  | _ => .error .missingOpening

/-- Why a text is refused as the descriptor of a field or a method. -/
inductive DescriptorError where
  | badField (text : String) (fault : DescriptorFault)
  | voidField (text : String)
  | badMethod (text : String) (fault : DescriptorFault)
  deriving DecidableEq, Repr

/-- The messages from the outermost context to the innermost cause. -/
def DescriptorError.messages : DescriptorError → List String
  | badField text fault => [s!"parse field descriptor {text}", fault.message]
  | voidField text => [s!"field descriptor {text} is void"]
  | badMethod text fault => [s!"parse method descriptor {text}", fault.message]

/-- The type of a field; nothing is not one. -/
def fieldType (text : String) : Except DescriptorError TypeDescriptor := do
  let type ← (TypeDescriptor.parse text).mapError (.badField text)
  if type = .plain .void then throw (.voidField text)
  return type

def methodType (text : String) : Except DescriptorError MethodDescriptor :=
  (MethodDescriptor.parse text).mapError (.badMethod text)

end LockAudit
