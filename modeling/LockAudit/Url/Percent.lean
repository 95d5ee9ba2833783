import LockAudit.Text.CharacterTable

/-!
# Percent encoding

Bytes that may not stand for themselves are written as a percent sign and two
hexadecimal digits.  Which characters are written so depends on the part of
the address; controls and characters outside ASCII always are.
-/

namespace LockAudit.Url

/-- A set of characters to encode. -/
abbrev EncodeSet := Char → Bool

namespace EncodeSet

def controls : EncodeSet := fun character =>
  character.toNat < 0x20 || 0x7e < character.toNat

def adding (set : EncodeSet) (more : String) : EncodeSet := fun character =>
  set character || more.toList.contains character

def fragment : EncodeSet :=
  controls.adding " \"<>\x60"

def path : EncodeSet :=
  fragment.adding "#?\x7b\x7d"

def credentials : EncodeSet :=
  path.adding "/:;=@[\\]^|"

def query : EncodeSet :=
  controls.adding " \"#<>"

/-- In a special scheme a query may not hold an apostrophe either. -/
def specialQuery : EncodeSet :=
  query.adding "'"

end EncodeSet

def hexDigit (value : Nat) : Char :=
  (Nat.digitChar value).toUpper

def percentByte (byte : UInt8) : List Char :=
  ['%', hexDigit (byte.toNat / 16), hexDigit (byte.toNat % 16)]

def percentEncodeCharacter (set : EncodeSet) (character : Char) : List Char :=
  if set character then
    (String.utf8EncodeChar character).flatMap percentByte
  else [character]

def percentEncode (set : EncodeSet) (characters : List Char) : String :=
  String.ofList (characters.flatMap (percentEncodeCharacter set))

/-- The bytes of a text in which percent signs and digits stand for bytes. -/
def percentDecode : List Char → List UInt8
  | '%' :: high :: low :: rest =>
      match Text.digitValue? 16 high, Text.digitValue? 16 low with
      | some high, some low =>
          UInt8.ofNat (16 * high + low) :: percentDecode rest
      | _, _ => '%'.toUInt8 :: percentDecode (high :: low :: rest)
  | character :: rest =>
      String.utf8EncodeChar character ++ percentDecode rest
  | [] => []

end LockAudit.Url
