import SchemaBindings.Fetch.ContentCoding
import SchemaBindings.Fetch.ContentType
import SchemaBindings.Fetch.Request
import SchemaBindings.Json.WideReader
import SchemaBindings.Json.Writer
/-!
# Responses

What a server answers, and the introspection document in it. `documentOf` reads the body of a
response: a JSON object with an entry `data`, and without an entry `errors` that counts as present.
`fetch` makes the request, hands it to a transport and reads its reply.
-/

set_option autoImplicit false
set_option relaxedAutoImplicit false

namespace SchemaBindings.Fetch

open SchemaBindings.Text

/-- A response. -/
structure Response where
  status : Int := 200
  headers : Headers := []
  body : List UInt8 := []
  deriving DecidableEq, Repr

/-- What comes of a request: a response, or a failure of the transport, or a fault of another kind,
which is passed on as it is. -/
inductive Reply where
  | arrived (response : Response)
  | failed (reason : String)
  | fault (kind reason : String)
  deriving DecidableEq, Repr

/-- Why there is no introspection document. The first five are what a user may meet; the others
arise from a request that cannot be made or a response of an odd form or shape. -/
inductive FetchError where
  | status (code : Int) (start : List Char)
  | failed (url reason : String)
  | notJson (url : String)
  | refused (errors : WideJson) (messages : List WideText)
  | noData (url : String)
  | badRequest (fault : RequestFault)
  | transportFault (kind reason : String)
  | badHeader (fault : NotAscii)
  | relative (url : List Char)
  | badLocation (fault : UrlFault)
  | badName (fault : Domain.NameFault)
  | mixedParts (fault : ContentType.MixedParts)
  | unreadable (fault : CharsetFault)
  | notObject (word : String)
  | notIterable (word : String)
  | notText (index : Nat) (word : String)
  deriving Repr

namespace FetchError

/-- The text of an error without the messages of a server. -/
def lead : FetchError → String
  | .status code start => "HTTP " ++ toString code ++ ": " ++ String.ofList start
  | .failed url reason => "Request to " ++ url ++ " failed: " ++ reason
  | .notJson url => "Response from " ++ url ++ " is not JSON"
  | .refused _ _ => "GraphQL errors: "
  | .noData url => "Response from " ++ url ++ " has no data"
  | .badRequest fault => fault.message
  | .transportFault _ reason => reason
  | .badHeader fault => fault.message
  | .relative url => "unknown url type: " ++ String.ofList (quoted url)
  | .badLocation fault => fault.message
  | .badName fault => fault.message
  | .mixedParts fault => fault.message
  | .unreadable fault => fault.message
  | .notObject word => "'" ++ word ++ "' object has no attribute 'get'"
  | .notIterable word => "'" ++ word ++ "' object is not iterable"
  | .notText index word =>
    "sequence item " ++ toString index ++ ": expected str instance, " ++ word ++ " found"

/-- The text of an error. -/
def message (error : FetchError) : WideText :=
  wide error.lead.toList ++
    match error with
    | .refused _ messages => (wide "; ".toList).intercalate messages
    | _ => []

/-- Whether an error is one that a user may meet and is told of in one line. -/
def isReported : FetchError → Bool
  | .status _ _ | .failed _ _ | .notJson _ | .refused _ _ | .noData _ => true
  | .badRequest _ | .transportFault _ _ | .badHeader _ | .relative _ | .badLocation _
  | .badName _ | .mixedParts _ | .unreadable _ | .notObject _ | .notIterable _ | .notText _ _ =>
    false

end FetchError

namespace Response

/-- Whether the status says that the request succeeded. -/
def succeeded (response : Response) : Bool :=
  200 ≤ response.status && response.status ≤ 299

/-- The character set of the body: the one that the content type names, or else UTF-8. -/
def charset (response : Response) : Except ContentType.MixedParts Charset :=
  match response.headers.value? "content-type" with
  | none => .ok (.unicode .utf8)
  | some contentType => do
    let name ← ContentType.charset? contentType.toList
    return (name.bind Charset.named?).getD (.unicode .utf8)

/-- The text of the body, of which nothing is read when it is empty. -/
def text (response : Response) : Except FetchError (List Char) :=
  if response.body.isEmpty then .ok []
  else
    match response.charset with
    | .error fault => .error (.mixedParts fault)
    | .ok charset =>
      match charset.decode response.body with
      | .error fault => .error (.unreadable fault)
      | .ok text => .ok text

/-- The statuses that send a client to another place. -/
def redirections : List Int :=
  [301, 302, 303, 307, 308]

/-- Checks a place that a client is sent to from a request: the names of the servers are right, and
where the place has a scheme and no host, its path fits behind the host of the request. -/
def checkPlace (place request : Url) : Except FetchError Unit :=
  match place.nameFault?.or request.nameFault? with
  | some fault => .error (.badName fault)
  | none =>
    if !place.scheme.isEmpty && place.host.isEmpty && !place.path.isEmpty &&
        place.path.head? != some '/' then .error (.badLocation .pathWithoutSlash)
    else .ok ()

/-- Checks the place that a response to a request sends the client to, which must be a URL. -/
def checkLocation (url : String) (request : Url) (response : Response) : Except FetchError Unit :=
  match response.headers.value? "location" with
  | none => .ok ()
  | some location =>
    if !redirections.contains response.status then .ok ()
    else
      match Url.parse location.toList with
      | .error fault =>
        .error (.failed url ("Invalid URL in location header: " ++ fault.message ++ "."))
      | .ok place => checkPlace place request

/-- The error that a status other than success stands for: the status and the start of the text. -/
def statusError (shown : Nat) (response : Response) : FetchError :=
  match response.text with
  | .error error => error
  | .ok text => .status response.status (text.take shown)

end Response

/-! ### The document -/

/-- How much of a body an error shows. -/
def shownLength : Nat := 200

/-- What an error of a server says: the entry `message`, or else the error itself. -/
def errorMessage : WideJson → Except FetchError WideJson
  | .obj members =>
    .ok ((WideJson.valueOf? members "message").getD (.str (wide (WideJson.obj members).literal)))
  | other => .error (.notObject other.typeWord)

/-- The messages in the errors of a server; an object stands for its keys, a text for its code
points. -/
def errorMessages : WideJson → Except FetchError (List WideJson)
  | .arr items => items.mapM errorMessage
  | .obj members => members.mapM fun member => errorMessage (.str member.1)
  | .str text => text.mapM fun point => errorMessage (.str [point])
  | other => .error (.notIterable other.typeWord)

/-- The texts of some messages, the first of which has a given index. -/
def messageTexts (index : Nat) : List WideJson → Except FetchError (List WideText)
  | [] => .ok []
  | .str text :: rest => do
    let texts ← messageTexts (index + 1) rest
    return text :: texts
  | other :: _ => .error (.notText index other.typeWord)

/-- The error for the entry `errors` of a response. -/
def refusal (errors : WideJson) : FetchError :=
  match errorMessages errors with
  | .error error => error
  | .ok messages =>
    match messageTexts 0 messages with
    | .error error => error
    | .ok texts => .refused errors texts

/-- The introspection document in the body of a response from a URL. -/
def documentOf (url : String) (body : List UInt8) : Except FetchError WideJson :=
  match WideJson.ofBytes? body with
  | none => .error (.notJson url)
  | some (.obj members) =>
    let errors := (WideJson.valueOf? members "errors").getD .null
    if errors.isTruthy then .error (refusal errors)
    else if (WideJson.valueOf? members "data").isSome then .ok (.obj members)
    else .error (.noData url)
  | some other => .error (.notObject other.typeWord)

/-- A response that can be read: its headers are in ASCII and its body is decoded. -/
def Response.received (url : String) (response : Response) : Except FetchError Response :=
  match response.headers.fault? with
  | some fault => .error (.badHeader fault)
  | none =>
    match decodeContent response.headers response.body with
    | .error fault => .error (.failed url fault.message)
    | .ok body => .ok { response with body }

/-- The introspection document in a reply to a request that was made for a URL. -/
def readReply (url : String) (request : Request) (reply : Reply) :
    Except FetchError WideJson :=
  match reply with
  | .fault kind reason => .error (.transportFault kind reason)
  | .failed reason => .error (.failed url reason)
  | .arrived response => do
    let response ← response.received url
    if !request.url.isAbsolute then throw (.relative request.url.display)
    response.checkLocation url request.url
    if response.succeeded then documentOf url response.body
    else throw (response.statusError shownLength)

/-- The introspection document at a URL, asked for through a transport. -/
def fetch (transport : Request → Reply) (url : String) (headers : Headers) :
    Except FetchError WideJson :=
  match Request.make url headers with
  | .error fault => .error (.badRequest fault)
  | .ok request => readReply url request (transport request)

end SchemaBindings.Fetch
