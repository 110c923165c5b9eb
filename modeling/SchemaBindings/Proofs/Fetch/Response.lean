import SchemaBindings.Fetch.Response
import SchemaBindings.Proofs.Json.RoundTrip
import SchemaBindings.Proofs.Json.WideReader
/-!
# Documents from a server

The document in a response is read from the text of its body, so it is regular
(`isRegular_of_fetch`). A body that is the text of a document in UTF-8 is read as that document
(`ofBytes?_write`).
-/

set_option autoImplicit false
set_option relaxedAutoImplicit false

namespace SchemaBindings

open Text

/-- The text of an object with something in it on one line is read from its bytes, where the object
is regular and its integers are short. -/
theorem WideJson.ofBytes?_write {member : String × Json} {members : List (String × Json)}
    (hregular : (Json.obj (member :: members)).IsRegular)
    (hshort : (Json.obj (member :: members)).HasShortIntegers) :
    ofBytes? (utf8 (Json.write .oneLine 0 (.obj (member :: members)))) =
      some (ofJson (.obj (member :: members))) := by
  have hread := (Json.read_write hregular none .oneLine).eq_ok (Json.Depth.admits_none _) hshort
  obtain ⟨rest, hwrite⟩ : ∃ rest, Json.write .oneLine 0 (.obj (member :: members)) =
      '\x7b' :: '"' :: rest := ⟨_, Json.write_obj_cons _ _ _ _ _⟩
  rw [hwrite] at hread ⊢
  exact ofBytes?_utf8 hread (by decide) (by decide)

namespace Fetch

/-- What is fetched is the document in a body. -/
theorem exists_documentOf_of_fetch {transport : Request → Reply} {url : String}
    {headers : Headers} {document : WideJson}
    (hfetch : fetch transport url headers = .ok document) :
    ∃ body, documentOf url body = .ok document := by
  unfold fetch at hfetch
  split at hfetch
  · cases hfetch
  · unfold readReply at hfetch
    split at hfetch
    · cases hfetch
    · cases hfetch
    · obtain ⟨response, -, hfetch⟩ := bind_eq_ok_iff.mp hfetch
      dsimp only at hfetch
      split at hfetch
      · cases hfetch
      · obtain ⟨_, -, hfetch⟩ := bind_eq_ok_iff.mp hfetch
        split at hfetch
        · exact ⟨response.body, hfetch⟩
        · cases hfetch

theorem ofBytes?_of_documentOf {url : String} {body : List UInt8} {document : WideJson}
    (hdocument : documentOf url body = .ok document) :
    WideJson.ofBytes? body = some document := by
  unfold documentOf at hdocument
  split at hdocument
  · cases hdocument
  · next members hbytes =>
    dsimp only at hdocument
    split_ifs at hdocument
    cases hdocument
    exact hbytes
  · cases hdocument

/-- A document that was fetched is regular. -/
theorem isRegular_of_fetch {transport : Request → Reply} {url : String} {headers : Headers}
    {document : WideJson} (hfetch : fetch transport url headers = .ok document) :
    document.IsRegular := by
  obtain ⟨body, hdocument⟩ := exists_documentOf_of_fetch hfetch
  obtain ⟨text, -, hread⟩ := Option.bind_eq_some_iff.mp (ofBytes?_of_documentOf hdocument)
  exact WideJson.isRegular_of_read? hread

/-- A request to a server on the same machine can be made, and its URL is absolute. -/
theorem exists_request_localhost :
    ∃ request, Request.make "http://localhost/" [] = .ok request ∧
      request.url.isAbsolute = true := by
  have hmake : (match Request.make "http://localhost/" [] with
      | .ok request => request.url.isAbsolute
      | .error _ => false) = true := by
    decide
  split at hmake
  · next request hrequest => exact ⟨request, hrequest, hmake⟩
  · cases hmake

/-- What is fetched when the server sends a body without any headers: the document in it. -/
theorem fetch_of_arrived {transport : Request → Reply} {url : String} {headers : Headers}
    {request : Request} {body : List UInt8} (hmake : Request.make url headers = .ok request)
    (habsolute : request.url.isAbsolute = true)
    (hreply : transport request = .arrived { body := body }) :
    fetch transport url headers = documentOf url body := by
  rw [fetch, hmake]
  simp only [hreply, readReply]
  have hreceived : Response.received url { body := body } = .ok { body := body } := rfl
  rw [hreceived]
  simp only [bind, Except.bind, habsolute]
  rfl

end Fetch

end SchemaBindings
