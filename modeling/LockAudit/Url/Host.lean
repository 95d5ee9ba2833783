import LockAudit.Url.Address
import LockAudit.Url.Label

/-!
# Hosts

A host is a name or a numeric address.  Names of special schemes are brought to
one form and to ASCII; the names of other schemes are kept as they are.
-/

namespace LockAudit.Url

inductive UrlError where
  | missingScheme | emptyHost | portNumber | fourBytes | eightGroups | domain
  | domainCharacter
  deriving DecidableEq, Repr

def UrlError.message : UrlError → String
  | missingScheme => "relative URL without a base"
  | emptyHost => "empty host"
  | portNumber => "invalid port number"
  | fourBytes => "invalid IPv4 address"
  | eightGroups => "invalid IPv6 address"
  | domain => "invalid international domain name"
  | domainCharacter => "invalid domain character"

inductive Host where
  | name (text : String)
  | fourBytes (address : Nat)
  | eightGroups (groups : List Nat)
  deriving DecidableEq, Repr

namespace Host

def write : Host → String
  | name text => text
  | fourBytes address => writeFourBytes address
  | eightGroups groups =>
      let written := writeEightGroups groups
      s!"[{written}]"

/-- The ASCII form of a name of a special scheme. -/
def asciiName? (name : List Char) : Option (List Char) := do
  let forms ← name.mapM nameForm?
  let formed := Text.normalize forms.flatten
  if formed.any isForbidden then none
  else
    let labels ← (splitAll (· = '.') formed).mapM Label.read?
    if areReadable labels then
      some (['.'].intercalate (labels.map (·.asciiForm)))
    else none

/-- A numeric address in brackets. -/
def readBracketed (text : List Char) : Except UrlError Host :=
  if text.getLast? = some ']' then
    match readEightGroups? text.dropLast with
    | some groups => .ok (.eightGroups groups)
    | none => .error .eightGroups
  else .error .eightGroups

/-- The name that percent signs and characters write. -/
def decodedName? (text : List Char) : Option (List Char) :=
  (String.fromUTF8? ⟨(percentDecode text).toArray⟩).map String.toList

/-- Reads the host of a special scheme. -/
def readSpecial : List Char → Except UrlError Host
  | '[' :: rest => readBracketed rest
  | text =>
      match (decodedName? text).bind asciiName? with
      | none => .error .domain
      | some [] => .error .emptyHost
      | some formed =>
          if endsInNumber formed then
            match readFourBytes? formed with
            | some address => .ok (.fourBytes address)
            | none => .error .fourBytes
          else .ok (.name (String.ofList formed))

/-- No name of any scheme holds one of these. -/
def isForbiddenAnywhere (character : Char) : Bool :=
  "\x00\t\n\r #/:<>?@[\\]^|".toList.contains character

/-- Reads the host of a scheme that is not special. -/
def readPlain : List Char → Except UrlError Host
  | '[' :: rest => readBracketed rest
  | text =>
      if text.any isForbiddenAnywhere then .error .domainCharacter
      else .ok (.name (percentEncode .controls text))

end Host

end LockAudit.Url
