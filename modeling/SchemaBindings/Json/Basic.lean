import SchemaBindings.Number.Binary64
/-!
# JSON values

An object is a list of members in order. `Json.object` builds one from members that may repeat a
key: the last value of a key counts and stands where the key came first.
-/

set_option autoImplicit false
set_option relaxedAutoImplicit false

namespace SchemaBindings

/-- A JSON value. Integers are exact and of any size; other numbers are double-precision. -/
inductive Json where
  | null
  | bool (value : Bool)
  | int (value : Int)
  | float (value : Binary64)
  | str (value : String)
  | arr (items : List Json)
  | obj (members : List (String × Json))
  deriving Repr

namespace Json

section Members

variable {κ υ : Type} [BEq κ]

/-- Members in which `key` has the value `value`: in its old place, or at the end if it is new. -/
def put (members : List (κ × υ)) (key : κ) (value : υ) : List (κ × υ) :=
  match members with
  | [] => [(key, value)]
  | (other, old) :: rest =>
    if other == key then (key, value) :: rest else (other, old) :: put rest key value

/-- Members with one entry for each key: the last one counts. -/
def collect (members : List (κ × υ)) : List (κ × υ) :=
  members.foldl (fun kept member => put kept member.1 member.2) []

end Members

/-- The object with the given members, of which the last one counts for each key. -/
def object (members : List (String × Json)) : Json :=
  obj (collect members)

/-- The value of a key in an object; nothing for any other value. -/
def get? (json : Json) (key : String) : Option Json :=
  match json with
  | obj members => members.lookup key
  | _ => none

end Json

end SchemaBindings
