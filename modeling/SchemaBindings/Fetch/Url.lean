import SchemaBindings.Domain.Name
import SchemaBindings.Fetch.Host
import SchemaBindings.Fetch.Percent
import SchemaBindings.Text.Numeral
/-!
# URLs

`Url.parse` splits a text into the parts of a URL and brings each into its normal form: scheme and
host in lower case, no port that the scheme implies, no dot segments in the path, and no character
that its part does not allow. `Url.display` writes it. A URL without scheme or host is relative;
`Url.requested` is what a request for it asks for when there is nothing to be relative to.
-/

set_option autoImplicit false
set_option relaxedAutoImplicit false

namespace SchemaBindings.Fetch

open SchemaBindings.Text

/-- What is wrong with the text of a URL. -/
inductive UrlFault where
  | tooLong
  | controlCharacter (c : Char) (position : Nat)
  | host (fault : HostFault) (host : List Char)
  | port (text : List Char)
  | pathWithoutSlash
  | doubleSlash
  | leadingColon
  deriving DecidableEq, Repr

/-- The text of a fault. -/
def UrlFault.message : UrlFault → String
  | tooLong => "URL too long"
  | controlCharacter c position =>
    "Invalid non-printable ASCII character in URL, " ++ String.ofList (quoted [c]) ++
      " at position " ++ toString position ++ "."
  | host fault text => fault.message ++ String.ofList (quoted text)
  | port text => "Invalid port: " ++ String.ofList (quoted text)
  | pathWithoutSlash => "For absolute URLs, path must be empty or begin with '/'"
  | doubleSlash => "Relative URLs cannot have a path starting with '//'"
  | leadingColon => "Relative URLs cannot have a path starting with ':'"

/-- The parts of a URL in their normal form. A host that is an address of version 6 stands without
its brackets. -/
structure Url where
  scheme : List Char := []
  user : List Char := []
  host : List Char := []
  port : Option Int := none
  path : List Char := []
  query : Option (List Char) := none
  fragment : Option (List Char) := none
  deriving DecidableEq, Repr

/-! ### Parts of the text -/

/-- Whether a character may stand in a scheme behind its first letter. -/
def isSchemeChar (c : Char) : Bool :=
  isUpperLetter c || isLowerLetter c || isDigit c || c == '+' || c == '.' || c == '-'

/-- The scheme of a text and what follows its colon; without a scheme, the whole text. -/
def splitScheme (text : List Char) : List Char × List Char :=
  let scheme := text.takeWhile isSchemeChar
  match scheme, text.dropWhile isSchemeChar with
  | [], ':' :: rest => ([], rest)
  | c :: _, ':' :: rest => if isUpperLetter c || isLowerLetter c then (scheme, rest) else ([], text)
  | _, _ => ([], text)

/-- The part between two slashes and the path, and the text from the path on. -/
def splitAuthority (text : List Char) : List Char × List Char :=
  let inside (c : Char) : Bool := c != '/' && c != '?' && c != '#'
  match text with
  | '/' :: '/' :: rest => (rest.takeWhile inside, rest.dropWhile inside)
  | _ => ([], text)

/-- A text up to a mark and what follows the mark, if it is there. -/
def splitBefore (mark : Char) (text : List Char) : List Char × Option (List Char) :=
  match splitAtFirst? mark text with
  | some (before, after) => (before, some after)
  | none => (text, none)

/-- The host at the front of a text, in brackets or up to a colon, and the port behind it. -/
def splitHost (text : List Char) : List Char × List Char :=
  let dropColon : List Char → List Char
    | ':' :: rest => rest
    | rest => rest
  match text, splitAtLast? ']' text with
  | '[' :: _, some (inside, rest) => (inside ++ [']'], dropColon rest)
  | _, _ => (text.takeWhile (· != ':'), dropColon (text.dropWhile (· != ':')))

/-! ### Normal forms -/

/-- The longest text of a URL. -/
def maxLength : Nat := 65536

/-- The ports that schemes imply. -/
def impliedPorts : List (List Char × Int) :=
  [("ftp".toList, 21), ("http".toList, 80), ("https".toList, 443), ("ws".toList, 80),
    ("wss".toList, 443)]

/-- The port of a URL, unless it is missing or the scheme, as it is written, implies it. -/
def normalPort (scheme text : List Char) : Except UrlFault (Option Int) :=
  if text.isEmpty then .ok none
  else
    match integerValue? text with
    | none => .error (.port text)
    | some port => .ok (if impliedPorts.lookup scheme == some port then none else some port)

/-- The normal form of a host. -/
def normalHost (host : List Char) : Except UrlFault (List Char) :=
  if host.isEmpty then .ok []
  else if Host.looksNumeric host then
    if Host.isVersion4 host then .ok host else .error (.host .version4 host)
  else if host.head? == some '[' && host.getLast? == some ']' && host.length ≥ 2 then
    let address := (host.drop 1).dropLast
    if Host.isVersion6 address then .ok address else .error (.host .version6 host)
  else if host.all fun c => c.toNat < 0x80 then .ok (percentEncode isHostSafe (lower host))
  else
    match Domain.writtenName (lower host) with
    | .ok name => .ok name
    | .error _ => .error (.host .international host)

/-- A path without dot segments: a single dot is left out, and two dots take the segment before
them away. -/
def dropDots (path : List Char) : List Char :=
  joinParts '/' ((splitAtEach '/' path).foldl (fun kept segment =>
    if segment == ['.'] then kept
    else if segment == ['.', '.'] then
      if kept.isEmpty || kept == [[]] then kept else kept.dropLast
    else kept ++ [segment]) [])

/-- Checks how a path begins: with a slash behind a host, and otherwise neither with two slashes
nor, without a scheme, with a colon. -/
def checkPath (hasScheme hasAuthority : Bool) (path : List Char) : Except UrlFault Unit :=
  if hasAuthority && !path.isEmpty && path.head? != some '/' then .error .pathWithoutSlash
  else if !hasScheme && !hasAuthority && path.take 2 == ['/', '/'] then .error .doubleSlash
  else if !hasScheme && !hasAuthority && path.head? == some ':' then .error .leadingColon
  else .ok ()

/-- The first control character of a text, with its position. -/
def firstControl? (text : List Char) : Option (Char × Nat) :=
  (text.zipIdx.find? fun (c, _) => c.toNat < 0x20 || c.toNat == 0x7f)

namespace Url

/-- The URL that a text writes. -/
def parse (text : List Char) : Except UrlFault Url := do
  if text.length > maxLength then throw .tooLong
  match firstControl? text with
  | some (c, position) => throw (.controlCharacter c position)
  | none => pure ()
  let (scheme, rest) := splitScheme text
  let (authority, rest) := splitAuthority rest
  let (rest, fragment) := splitBefore '#' rest
  let (path, query) := splitBefore '?' rest
  let (user, place) := (splitAtLast? '@' authority).getD ([], authority)
  let (hostText, portText) := splitHost place
  let host ← normalHost hostText
  let port ← normalPort scheme portText
  let user := percentEncode isUserSafe user
  let hasScheme := !scheme.isEmpty
  let hasAuthority := !user.isEmpty || !host.isEmpty || port.isSome
  checkPath hasScheme hasAuthority path
  let path := if hasScheme || hasAuthority then dropDots path else path
  return {
    scheme := lower scheme
    user, host, port
    path := percentEncode isPathSafe path
    query := query.map (percentEncode isQuerySafe)
    fragment := fragment.map (percentEncode isFragmentSafe) }

/-- The host with its port, as a request names it. -/
def server (url : Url) : List Char :=
  (if url.host.contains ':' then '[' :: (url.host ++ [']']) else url.host) ++
    (match url.port with
      | some port => ':' :: (toString port).toList
      | none => [])

/-- The text of a URL. -/
def display (url : Url) : List Char :=
  let authority := (if url.user.isEmpty then [] else url.user ++ ['@']) ++ url.server
  (if url.scheme.isEmpty then [] else url.scheme ++ [':']) ++
    (if authority.isEmpty then [] else '/' :: '/' :: authority) ++
    url.path ++
    (match url.query with
      | some query => '?' :: query
      | none => []) ++
    (match url.fragment with
      | some fragment => '#' :: fragment
      | none => [])

/-- Whether a URL names a scheme and a host. -/
def isAbsolute (url : Url) : Bool :=
  !url.scheme.isEmpty && !url.host.isEmpty

/-- What is wrong with the host of a URL as a name that is written in ASCII, if its first label is
such a one. -/
def nameFault? (url : Url) : Option Domain.NameFault :=
  if Domain.encodedMark.isPrefixOf url.host then
    match Domain.readName url.host with
    | .ok _ => none
    | .error fault => some fault
  else none

/-- What a request for a URL asks for: the URL itself, or, if it is relative, its path from the
root with its query. -/
def requested (url : Url) : Url :=
  if url.isAbsolute then url
  else { path := '/' :: url.path.dropWhile (· == '/'), query := url.query }

/-- The user name and the password in a URL. -/
def credentials (url : Url) : List Char × List Char :=
  let (name, password) := splitBefore ':' url.user
  (percentDecode name, percentDecode (password.getD []))

end Url

end SchemaBindings.Fetch
