import SchemaBindings.Introspection.Decode
import SchemaBindings.Sdl.Introspection
/-!
# Input files

A schema comes from a file that holds either an introspection document in JSON or a document of the
schema language. The ending of the file's name decides which.
-/

set_option autoImplicit false
set_option relaxedAutoImplicit false

namespace SchemaBindings

/-- Why an input yields no schema. -/
inductive InputError where
  | malformed (cause : Malformed)
  | refused (refusal : Sdl.Refusal)
  deriving DecidableEq, Repr

/-- Whether an error is a fault of the document itself, of which a user is told in one line. A
schema that is built and then found invalid is no such fault. -/
def InputError.isReported : InputError → Bool
  | refused (.invalidSchema _) => false
  | malformed _ | refused (.notDocument _) | refused (.brokenRules _)
  | refused (.notBuilt _ _) => true

/-- The text of an error. -/
def InputError.message : InputError → String
  | malformed cause => cause.message
  | refused refusal => refusal.message

/-- Makes an error of a malformed document. -/
def ofMalformed {α : Type} : Except Malformed α → Except InputError α
  | .ok value => .ok value
  | .error cause => .error (.malformed cause)

/-- The schema in an introspection document that is already loaded. -/
def schemaOfDocument (document : Json) : Except InputError Schema :=
  ofMalformed (Introspection.decode document)

/-- The schema in the text of an introspection document. -/
def schemaOfJson (text : List Char) : Except InputError Schema :=
  ofMalformed (Introspection.decodeText text)

/-- The schema in a document of the schema language. -/
def schemaOfSdl (text : List Char) : Except InputError Schema :=
  match Sdl.introspect text with
  | .error refusal => .error (.refused refusal)
  | .ok document => schemaOfDocument document

/-- The endings of file names, in lower case, that mark the schema language. -/
def sdlEndings : List String :=
  [".graphql", ".graphqls"]

/-- Whether a path names a file in the schema language. -/
def isSdlPath (path : String) : Bool :=
  let name := Text.lower path.toList
  sdlEndings.any fun ending => ending.toList.isSuffixOf name

/-- The text of a file. -/
def textOfFile (path : String) (bytes : List UInt8) : Except InputError (List Char) :=
  match Text.decodeUtf8 bytes with
  | .error error => .error (.malformed (.notUtf8 path error))
  | .ok text => .ok text

/-- The schema in the text of a file. -/
def schemaOfText (path : String) (text : List Char) : Except InputError Schema :=
  if isSdlPath path then schemaOfSdl text else schemaOfJson text

/-- The schema in the bytes of a file. -/
def schemaOfFile (path : String) (bytes : List UInt8) : Except InputError Schema :=
  match textOfFile path bytes with
  | .error error => .error error
  | .ok text => schemaOfText path text

end SchemaBindings
