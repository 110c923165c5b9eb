import SchemaBindings.Deflate.Container
import SchemaBindings.Fetch.Header
import SchemaBindings.Text.Blank
import SchemaBindings.Text.Split
/-!
# Content codings

The header `Content-Encoding` of a response names the codings that its body went through, in their
order. `decodeContent` undoes them from the last to the first. A coding that is not known changes
nothing.
-/

set_option autoImplicit false
set_option relaxedAutoImplicit false

namespace SchemaBindings.Fetch

open SchemaBindings.Text

/-- A coding of the body of a response. -/
inductive ContentCoding where
  | gzip
  | deflate
  deriving DecidableEq, Repr

namespace ContentCoding

/-- The coding with a name, in any case. -/
def named? (name : List Char) : Option ContentCoding :=
  match String.ofList (lower name) with
  | "gzip" => some gzip
  | "deflate" => some deflate
  | _ => none

/-- The codings that a client accepts. -/
def accepted : String := "gzip, deflate"

/-- The codings that headers name. -/
def ofHeaders (headers : Headers) : List ContentCoding :=
  (headers.values "content-encoding").flatMap fun value =>
    (splitAtEach ',' value.toList).filterMap fun name => named? (trim name)

/-- What a body is without a coding; nothing is left of nothing. -/
def undo (coding : ContentCoding) (body : List UInt8) : Except Deflate.Fault (List UInt8) :=
  if body.isEmpty then .ok []
  else
    match coding with
    | gzip => Deflate.gunzip body
    | deflate => Deflate.unpack body

end ContentCoding

/-- A body without the codings that headers name. -/
def decodeContent (headers : Headers) (body : List UInt8) : Except Deflate.Fault (List UInt8) :=
  (ContentCoding.ofHeaders headers).reverse.foldlM (fun body coding => coding.undo body) body

end SchemaBindings.Fetch
