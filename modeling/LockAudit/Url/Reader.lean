import LockAudit.Url.Basic

/-!
# Reading addresses

Blanks around an address and line breaks inside it do not count.  Dot segments
of the path are resolved, default port numbers are dropped, and characters that
may not stand for themselves are percent-encoded.
-/

namespace LockAudit.Url

/-- The characters of an address that count. -/
def significant (text : String) : List Char :=
  let isBlank (character : Char) : Bool := character.toNat ≤ 0x20
  let trimmed := ((text.toList.dropWhile isBlank).reverse.dropWhile isBlank).reverse
  trimmed.filter fun character =>
    character ≠ '\t' && character ≠ '\n' && character ≠ '\r'

/-- Divides a text before the first character that passes a test. -/
def breakAt (test : Char → Bool) (text : List Char) : List Char × List Char :=
  (text.takeWhile (!test ·), text.dropWhile (!test ·))

def isSchemeCharacter (character : Char) : Bool :=
  character.isAlphanum || character = '+' || character = '-' ||
    character = '.'

/-- The scheme in lower case, and the text behind its colon. -/
def readScheme? (text : List Char) : Option (String × List Char) :=
  let (name, rest) := breakAt (!isSchemeCharacter ·) text
  match name.head?, rest with
  | some first, ':' :: rest =>
      if first.isAlpha then
        some (String.ofList (name.map Char.toLower), rest)
      else none
  | _, _ => none

/-- What ends the part of an address that names its host. -/
def endsAuthority (kind : SchemeKind) (character : Char) : Bool :=
  character = '/' || character = '?' || character = '#' ||
    (kind.isSpecial && character = '\\')

/-- The text before the last at-sign, when there is one, and the text behind
it. -/
def splitCredentials (text : List Char) : Option (List Char) × List Char :=
  let (host, before) := breakAt (· = '@') text.reverse
  match before with
  | [] => (none, text)
  | _ :: credentials => (some credentials.reverse, host.reverse)

/-- The text before the first colon outside brackets, and the rest. -/
def splitPortNumber (inside : Bool) : List Char → List Char × List Char
  | [] => ([], [])
  | character :: rest =>
      if character = ':' && !inside then ([], character :: rest)
      else
        let still := character = '[' || (inside && character ≠ ']')
        let (host, behind) := splitPortNumber still rest
        (character :: host, behind)

/-- Digits up to the end or up to a backslash. -/
def readPortNumber (text : List Char) : Except UrlError (Option Nat × List Char) :=
  let (digits, rest) := breakAt (!·.isDigit) text
  let number := (Text.readDigits? 10 digits).getD 0
  if 65535 < number then .error .portNumber
  else if rest.isEmpty || rest.head? = some '\\' then
    .ok (if digits.isEmpty then none else some number, rest)
  else .error .portNumber

def readHost (kind : SchemeKind) (text : List Char) : Except UrlError Host :=
  match kind with
  | .special => if text.isEmpty then .error .emptyHost else Host.readSpecial text
  | _ => Host.readPlain text

/-- Reads what stands between the two slashes and the path.  `behind` is what
follows; it comes back with what the port number leaves over. -/
def readAuthority (scheme : String) (kind : SchemeKind)
    (text behind : List Char) : Except UrlError (Authority × List Char) := do
  let (credentials?, named) := splitCredentials text
  if credentials? = some [] && named.isEmpty && !behind.isEmpty then
    throw .emptyHost
  let (username, secret) := breakAt (· = ':') (credentials?.getD [])
  let (hostText, numberText) := splitPortNumber false named
  let host ← readHost kind hostText
  let isEmpty := host = .name ""
  if isEmpty && !numberText.isEmpty then throw .emptyHost
  let (number, left) ← readPortNumber (numberText.drop 1)
  let authority : Authority :=
    { username := percentEncode .credentials username
      password := percentEncode .credentials (secret.drop 1)
      host
      portNumber := if number = defaultPortNumber? scheme then none else number }
  if isEmpty && !authority.writeCredentials.isEmpty then throw .emptyHost
  return (authority, left ++ behind)

def isDot (segment : String) : Bool :=
  let folded := segment.map Char.toLower
  folded = "." || folded = "%2e"

def isDoubleDot (segment : String) : Bool :=
  let folded := segment.map Char.toLower
  folded = ".." || folded = "%2e." || folded = ".%2e" || folded = "%2e%2e"

/-- A letter that names a drive, with a colon or a bar. -/
def isDrive : List Char → Bool
  | [letter, mark] => letter.isAlpha && (mark = ':' || mark = '|')
  | _ => false

/-- Two dots do not take away a drive, alone or before a backslash. -/
def isAnchored (segment : String) : Bool :=
  let characters := segment.toList
  isDrive (characters.take 2) && (characters.drop 2).head?.all (· = '\\')

/-- Segments without the last one, unless that one is anchored. -/
def shorten (segments : List String) : List String :=
  if segments.getLast?.any isAnchored then segments else segments.dropLast

/-- Segments with one more at their end.  At the root of a file's path a drive
is written with a colon. -/
def extend (kind : SchemeKind) (segments : List String) (segment : String) :
    List String :=
  if kind = .file && segments.isEmpty && isDrive segment.toList then
    [String.ofList (segment.toList.take 1 ++ [':'])]
  else segments ++ [segment]

/-- Resolves dot segments against the segments before them.  The last segment
of a path is never dropped, but a dot there becomes empty. -/
def resolve (kind : SchemeKind) (before : List String) :
    List String → List String
  | [] => before
  | segment :: rest =>
      let kept :=
        if isDoubleDot segment then shorten before
        else if isDot segment then before
        else extend kind before segment
      let ended :=
        if rest.isEmpty && (isDot segment || isDoubleDot segment) then
          kept ++ [""]
        else kept
      resolve kind ended rest

def isSlash (kind : SchemeKind) (character : Char) : Bool :=
  character = '/' || (kind.isSpecial && character = '\\')

/-- The text without the slash at its front. -/
def dropSlash (kind : SchemeKind) (text : List Char) : List Char :=
  match text with
  | first :: rest => if isSlash kind first then rest else text
  | [] => []

/-- The segments of a text that stands behind the slash of the root. -/
def readSegments (kind : SchemeKind) (text : List Char) : List String :=
  resolve kind [] ((splitAll (isSlash kind) text).map (percentEncode .path))

/-- A file's path does not begin with empty segments. -/
def trimSegments (segments : List String) : List String :=
  let last := segments.drop (segments.length - 1)
  segments.dropLast.dropWhile (·.isEmpty) ++ last

/-- The query and the fragment behind a path. -/
def readTail (kind : SchemeKind) (text : List Char) :
    Option String × Option String :=
  let (queryText, fragmentText) := breakAt (· = '#') text
  let set := if kind.isSpecial then EncodeSet.specialQuery else .query
  let query? :=
    match queryText with
    | [] => none
    | _ :: query => some (percentEncode set query)
  let fragment? :=
    match fragmentText with
    | [] => none
    | _ :: fragment => some (percentEncode .fragment fragment)
  (query?, fragment?)

/-- Reads the path, the query and the fragment. -/
def finish (scheme : String) (kind : SchemeKind) (authority : Option Authority)
    (readPath : List Char → Path) (text : List Char) : Url :=
  let (path, tail) := breakAt (fun next => next = '?' || next = '#') text
  let (query, fragment) := readTail kind tail
  { scheme, authority, path := readPath path, query, fragment }

def segmentPath (kind : SchemeKind) (text : List Char) : Path :=
  .segments (readSegments kind (dropSlash kind text))

/-- The path behind the host of a scheme that is not special may be empty. -/
def hostedPath (text : List Char) : Path :=
  if text.isEmpty then .segments [] else segmentPath .plain text

def isAnySlash (character : Char) : Bool :=
  character = '/' || character = '\\'

/-- Reads what follows the root of a file's address.  No host is shown before a
drive. -/
def finishFile (host : Host) (text : List Char) : Url :=
  let (path, tail) := breakAt (fun next => next = '?' || next = '#') text
  let (query, fragment) := readTail .file tail
  let segments := readSegments .file path
  let startsWithDrive := segments.head?.any (isDrive ·.toList)
  let shown := if startsWithDrive then .name "" else host
  { scheme := "file"
    authority := some { host := shown }
    path := .segments (trimSegments segments)
    query, fragment }

/-- Reads what follows two slashes in a file's address.  The machine itself is
no host; without a host the path has its root already, so that a slash before
it divides an empty segment from the rest. -/
def readFileHost (text : List Char) : Except UrlError Url := do
  let (hostText, behind) := breakAt (endsAuthority .file) text
  if isDrive hostText then return finishFile (.name "") text
  else if hostText.isEmpty then return finishFile (.name "") behind
  else
    let host ← Host.readSpecial hostText
    if host = .name "localhost" then return finishFile (.name "") behind
    else return finishFile host (dropSlash .file behind)

def readFile (text : List Char) : Except UrlError Url :=
  match text with
  | first :: second :: rest =>
      if isAnySlash first && isAnySlash second then readFileHost rest
      else .ok (finishFile (.name "") (dropSlash .file text))
  | _ => .ok (finishFile (.name "") (dropSlash .file text))

def readPlain (scheme : String) (text : List Char) : Except UrlError Url := do
  match text with
  | '/' :: '/' :: rest =>
      let (named, behind) := breakAt (endsAuthority .plain) rest
      let (authority, behind) ← readAuthority scheme .plain named behind
      return finish scheme .plain (some authority) hostedPath behind
  | '/' :: _ => return finish scheme .plain none (segmentPath .plain) text
  | _ =>
      return finish scheme .plain none
        (fun path => .whole (percentEncode .controls path)) text

def readSpecial (scheme : String) (text : List Char) : Except UrlError Url := do
  let (named, behind) :=
    breakAt (endsAuthority .special) (text.dropWhile isAnySlash)
  let (authority, behind) ← readAuthority scheme .special named behind
  return finish scheme .special (some authority) (segmentPath .special) behind

def parse (text : String) : Except UrlError Url :=
  match readScheme? (significant text) with
  | none => .error .missingScheme
  | some (scheme, rest) =>
      match SchemeKind.ofName scheme with
      | .special => readSpecial scheme rest
      | .file => readFile rest
      | .plain => readPlain scheme rest

/-- The address with another path, which is resolved like one that is read. -/
def setPath (url : Url) : Path → Url
  | .whole text => { url with path := .whole text }
  | .segments parts =>
      match SchemeKind.ofName url.scheme with
      | .file =>
          { url with path := .segments (trimSegments (resolve .file [] parts)) }
      | kind => { url with path := .segments (resolve kind [] parts) }

end LockAudit.Url
