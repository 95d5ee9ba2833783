/-!
# Class names

Compiled classes name a class by its path, with `$` before the name of an inner
class.  Anonymous classes have a number for a name.
-/

namespace LockAudit

/-- The name inside `L…;`, or the whole name when it is not written so. -/
def bareName (name : List Char) : List Char :=
  match name with
  | 'L' :: rest => if rest.getLast? = some ';' then rest.dropLast else name
  | _ => name

/-- A class name as it stands in source text. -/
def sourceName (className : String) : String :=
  String.ofList ((bareName className.toList).map fun character =>
    if character = '/' ∨ character = '$' then '.' else character)

/-- A field with its class, as in source text. -/
def qualifiedName (className fieldName : String) : String :=
  sourceName className ++ "." ++ fieldName

def isNumeral (character : Char) : Bool :=
  '0' ≤ character && character ≤ '9'

/-- Takes the last anonymous class off a name whose characters are reversed. -/
def dropAnonymous? (reversed : List Char) : Option (List Char) :=
  match reversed.takeWhile isNumeral, reversed.dropWhile isNumeral with
  | _ :: _, '$' :: outer => some outer
  | _, _ => none

/-- Takes anonymous classes off a reversed name until none is left.  Each takes
two characters or more, so `fuel` need not exceed the length. -/
def dropAnonymousAll : (fuel : Nat) → List Char → List Char
  | 0, reversed => reversed
  | fuel + 1, reversed =>
      match dropAnonymous? reversed with
      | some outer => dropAnonymousAll fuel outer
      | none => reversed

/-- The innermost enclosing class that has a name of its own. -/
def enclosingClass (className : String) : String :=
  let reversed := className.toList.reverse
  String.ofList (dropAnonymousAll reversed.length reversed).reverse

end LockAudit
