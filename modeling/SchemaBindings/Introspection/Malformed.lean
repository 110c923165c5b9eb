import SchemaBindings.Introspection.Shape
import SchemaBindings.Json.Fault
import SchemaBindings.Text.Quoted
import SchemaBindings.Text.Utf8
/-!
# Malformed input

Why an introspection document does not yield a schema: it is not UTF-8, not JSON, not of the right
shape, or breaks a rule on types and references.
-/

set_option autoImplicit false
set_option relaxedAutoImplicit false

namespace SchemaBindings

open Introspection

/-- The cause of a failure to read an input. -/
inductive Malformed where
  | notUtf8 (path : String) (error : Text.Utf8Error)
  | notJson (fault : Json.Fault) (place : Json.Place)
  | wrongShape (problems : List Problem)
  | repeatedType (name : String)
  | wrapperType (name : String) (kind : TypeKind)
  | brokenWrapper (kind : TypeKind)
  | brokenName (kind : TypeKind)
  deriving DecidableEq, Repr

/-- The introduction and the lines of a message about an introspection document. -/
def Malformed.report (lines : List String) : String :=
  "Malformed introspection result:\n  " ++ "\n  ".intercalate lines

/-- A byte in hexadecimal. -/
def byteText (byte : UInt8) : String :=
  String.ofList ('0' :: 'x' :: Text.hexDigits 2 byte.toNat)

/-- The text of a fault in UTF-8. -/
def utf8Message (error : Text.Utf8Error) : String :=
  let place :=
    if error.size = 1 then
      "byte " ++ byteText error.byte ++ " in position " ++ toString error.place
    else
      "bytes in position " ++ toString error.place ++ "-" ++
        toString (error.place + error.size - 1)
  "'utf-8' codec can't decode " ++ place ++ ": " ++ error.fault.message

/-- The text of a cause. -/
def Malformed.message : Malformed → String
  | notUtf8 path error => path ++ " is not valid UTF-8: " ++ utf8Message error
  | notJson fault place =>
    report ["<document>: Invalid JSON: " ++ fault.message ++ " at line " ++ toString place.line ++
      " column " ++ toString place.column]
  | wrongShape problems => report (problems.map Problem.line)
  | repeatedType name => "Duplicate type name " ++ Text.quotedString name
  | wrapperType name kind =>
    "Type " ++ Text.quotedString name ++ " cannot have wrapper kind " ++ kind.label
  | brokenWrapper kind => kind.label ++ " type reference must have ofType and no name"
  | brokenName kind => kind.label ++ " type reference must have a name and no ofType"

end SchemaBindings
