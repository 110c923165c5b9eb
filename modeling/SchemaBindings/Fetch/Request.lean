import SchemaBindings.Fetch.ContentCoding
import SchemaBindings.Fetch.Header
import SchemaBindings.Fetch.Query
import SchemaBindings.Fetch.Url
import SchemaBindings.Json.Basic
import SchemaBindings.Text.Base64
/-!
# Requests

The request that asks a server for its introspection document: the query in a JSON body, sent to a
URL with the headers of the user. A header of the user takes the place of a standing one of its
name.
-/

set_option autoImplicit false
set_option relaxedAutoImplicit false

namespace SchemaBindings.Fetch

open SchemaBindings.Text

/-- Why a request cannot be made. -/
inductive RequestFault where
  | header (fault : NotAscii)
  | url (fault : UrlFault)
  | name (fault : Domain.NameFault)
  deriving DecidableEq, Repr

/-- The text of a fault. -/
def RequestFault.message : RequestFault → String
  | header fault => fault.message
  | url fault => fault.message
  | name fault => fault.message

/-- A request. -/
structure Request where
  url : Url
  headers : Headers
  query : String
  deriving DecidableEq, Repr

namespace Request

/-- The method of every request. -/
def method : String := "POST"

/-- The body of a request. -/
def body (request : Request) : Json :=
  .obj [("query", .str request.query)]

/-- The header with which a request says that its body is JSON. -/
def bodyType : Headers :=
  [("Content-Type", "application/json")]

/-- What a request says of the program that sends it. -/
def userAgent : String := "python-httpx/0.28.1"

/-- The headers that a request carries unless the user gives others of their name in any case. -/
def standingHeaders (url : Url) : Headers :=
  (if url.host.isEmpty then [] else [("Host", String.ofList url.server)]) ++
    [("Accept", "*/*"), ("Accept-Encoding", ContentCoding.accepted), ("Connection", "keep-alive"),
      ("User-Agent", userAgent)]

/-- The headers for the user name and password in a URL; they take the place of any other
authorization. -/
def withCredentials (url : Url) (headers : Headers) : Headers :=
  let (name, password) := url.credentials
  if name.isEmpty && password.isEmpty then headers
  else
    let token := Base64.encode (utf8 (name ++ ':' :: password))
    headers.filter (fun header => Headers.plainName header.1 != "authorization".toList) ++
      [("Authorization", "Basic " ++ String.ofList token)]

/-- What is wrong with the name of the server that a request for a URL goes to; it is not looked at
when the user says what it is called. -/
def nameFault? (url : Url) (headers : Headers) : Option Domain.NameFault :=
  if (headers.value? "Host").isSome then none else url.nameFault?

/-- The request for the introspection document at a URL, with the headers of the user. -/
def make (url : String) (headers : Headers) : Except RequestFault Request :=
  let headers := bodyType.putAll headers
  match headers.fault? with
  | some fault => .error (.header fault)
  | none =>
    match Url.parse url.toList with
    | .error fault => .error (.url fault)
    | .ok parsed =>
      let requested := parsed.requested
      let standing := (standingHeaders requested).filter fun header =>
        (headers.value? header.1).isNone
      match nameFault? requested headers with
      | some fault => .error (.name fault)
      | none =>
        .ok
          { url := requested
            headers := withCredentials requested (standing ++ headers)
            query := introspectionQuery }

end Request

end SchemaBindings.Fetch
