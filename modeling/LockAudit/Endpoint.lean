import LockAudit.Url.Reader

/-!
# Where spans are sent

The address of a collector is completed to the address that takes spans.  An
address that names the place for logs is turned to the place for spans, and
any other path is kept.  Spans can only be sent to an address that is fit to be
the target of a request.
-/

namespace LockAudit.Endpoint

/-- The path of the place for spans, below a collector. -/
def spanSegments : List String := ["v1", "traces"]

def logSegments : List String := ["v1", "logs"]

/-- The list without an ending, when it has that ending. -/
def dropEnding? [BEq α] (ending list : List α) : Option (List α) :=
  if ending.isSuffixOf list then
    some (list.take (list.length - ending.length))
  else none

/-- The path that takes the place of a collector's path, when one does. -/
def spanPath? : Url.Path → Option Url.Path
  | .segments parts =>
      if parts = [""] then some (.segments spanSegments)
      else
        (dropEnding? logSegments parts).map fun front =>
          .segments (front ++ spanSegments)
  | .whole text =>
      (dropEnding? "/v1/logs".toList text.toList).map fun front =>
        .whole (String.ofList front ++ "/v1/traces")

/-- The address that takes the spans for a collector at an address. -/
def normalize (address : String) : Except Url.UrlError String := do
  let url ← Url.parse address
  match spanPath? url.path with
  | some path => return (url.setPath path).write
  | none => return url.write

inductive TargetFault where
  | length | schemeLength | character | authority | format
  deriving DecidableEq, Repr

def TargetFault.message : TargetFault → String
  | length => "uri too long"
  | schemeLength => "scheme too long"
  | character => "invalid uri character"
  | authority => "invalid authority"
  | format => "invalid format"

def isTargetCharacter (character : Char) : Bool :=
  character.isAlphanum ||
    "!#$&'()*+,-./:;=?@[]_~%".toList.contains character

/-- What has been seen of a host with its credentials and its port number.
Colons and percent signs in credentials or in brackets do not count. -/
structure TargetScan where
  colons : Nat := 0
  opened : Bool := false
  closed : Bool := false
  percent : Bool := false
  last : Option Char := none

namespace TargetScan

def step (scan : TargetScan) (character : Char) :
    Except TargetFault TargetScan :=
  let seen := { scan with last := some character }
  if !isTargetCharacter character then .error .character
  else
    match character with
    | ':' =>
        if 8 ≤ scan.colons then .error .authority
        else .ok { seen with colons := scan.colons + 1 }
    | '[' =>
        if scan.percent || scan.opened then .error .authority
        else .ok { seen with opened := true }
    | ']' =>
        if !scan.opened || scan.closed then .error .authority
        else .ok { seen with closed := true, colons := 0, percent := false }
    | '@' => .ok { seen with colons := 0, percent := false }
    | '%' => .ok { seen with percent := true }
    | _ => .ok seen

def isComplete (scan : TargetScan) : Bool :=
  scan.opened = scan.closed && scan.colons ≤ 1 && scan.last ≠ some '@' &&
    !scan.percent

end TargetScan

/-- The length of the host with its credentials and its port number. -/
def hostLength (text : List Char) : Except TargetFault Nat := do
  let named := text.takeWhile fun next => next ≠ '/' && next ≠ '?' && next ≠ '#'
  let scan ← named.foldlM TargetScan.step {}
  if scan.isComplete then return named.length else throw .authority

/-- The greatest length of a target in bytes. -/
def greatestLength : Nat := 65534

def greatestSchemeLength : Nat := 64

/-- An address is a target when it names a host behind two slashes, or when it
is nothing but a host. -/
def checkTarget (address : String) : Except TargetFault Unit := do
  let text := address.toList
  if greatestLength < address.utf8ByteSize then throw .length
  match text.dropWhile (· ≠ ':') with
  | ':' :: '/' :: '/' :: rest =>
      if greatestSchemeLength < (text.takeWhile (· ≠ ':')).length then
        throw .schemeLength
      if (← hostLength rest) = 0 then throw .format
  | _ => if (← hostLength text) ≠ text.length then throw .format

inductive EndpointError where
  | address (error : Url.UrlError)
  | target (address : String) (fault : TargetFault)
  deriving DecidableEq, Repr

/-- The messages from the outermost context to the innermost cause. -/
def EndpointError.messages : EndpointError → List String
  | address error => ["parse OTLP endpoint", error.message]
  | target completed fault =>
      ["build OTLP span exporter",
        s!"invalid URI {completed}. Reason {fault.message}"]

/-- The address to which the spans for a collector are sent. -/
def resolve (collector : String) : Except EndpointError String := do
  let address ← (normalize collector).mapError .address
  (checkTarget address).mapError (.target address)
  return address

end LockAudit.Endpoint
