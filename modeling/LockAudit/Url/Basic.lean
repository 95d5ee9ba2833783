import LockAudit.Url.Host

/-!
# Addresses of resources

An address has a scheme, perhaps a host with credentials and a port number, a
path, and perhaps a query and a fragment.  A few special schemes always have a
host and know its default port number.
-/

namespace LockAudit

namespace Url

inductive SchemeKind where
  | special | file | plain
  deriving DecidableEq, Repr

def SchemeKind.ofName : String → SchemeKind
  | "http" | "https" | "ws" | "wss" | "ftp" => .special
  | "file" => .file
  | _ => .plain

/-- In these schemes a backslash divides a path like a slash. -/
def SchemeKind.isSpecial (kind : SchemeKind) : Bool :=
  kind ≠ .plain

def defaultPortNumber? : String → Option Nat
  | "http" | "ws" => some 80
  | "https" | "wss" => some 443
  | "ftp" => some 21
  | _ => none

structure Authority where
  username : String := ""
  password : String := ""
  host : Host
  portNumber : Option Nat := none
  deriving DecidableEq, Repr

/-- A path is divided into segments, or it is one text. -/
inductive Path where
  | segments (parts : List String)
  | whole (text : String)
  deriving DecidableEq, Repr

end Url

structure Url where
  scheme : String
  authority : Option Url.Authority
  path : Url.Path
  query : Option String
  fragment : Option String
  deriving DecidableEq, Repr

namespace Url

def Authority.writeCredentials (authority : Authority) : String :=
  let secret :=
    if authority.password.isEmpty then "" else ":" ++ authority.password
  let credentials := authority.username ++ secret
  if credentials.isEmpty then "" else credentials ++ "@"

def Authority.write (authority : Authority) : String :=
  let number :=
    match authority.portNumber with
    | none => ""
    | some number => s!":{number}"
  "//" ++ authority.writeCredentials ++ authority.host.write ++ number

def Path.write : Path → String
  | segments parts => String.join (parts.map ("/" ++ ·))
  | whole text => text

/-- Without a host, a path that begins with an empty segment must not look
like a host. -/
def guardMark : Option Authority → Path → String
  | none, .segments ("" :: _ :: _) => "/."
  | _, _ => ""

def write (url : Url) : String :=
  let authority := (url.authority.map Authority.write).getD ""
  let query := (url.query.map ("?" ++ ·)).getD ""
  let fragment := (url.fragment.map ("#" ++ ·)).getD ""
  url.scheme ++ ":" ++ authority ++ guardMark url.authority url.path ++
    url.path.write ++ query ++ fragment

end Url

end LockAudit
