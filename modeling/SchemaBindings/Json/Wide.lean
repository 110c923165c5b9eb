import SchemaBindings.Json.Basic
import SchemaBindings.Text.CodePoint
/-!
# JSON values from outside

In the texts of a value from outside, surrogates may stand. `WideJson.ofJson` is such a value
without any.
-/

set_option autoImplicit false
set_option relaxedAutoImplicit false

namespace SchemaBindings

open SchemaBindings.Text

/-- A JSON value in whose texts surrogates may stand. -/
inductive WideJson where
  | null
  | bool (value : Bool)
  | int (value : Int)
  | float (value : Binary64)
  | str (value : WideText)
  | arr (items : List WideJson)
  | obj (members : List (WideText × WideJson))
  deriving Repr

namespace WideJson

mutual

/-- A value without surrogates. -/
def ofJson : Json → WideJson
  | .null => null
  | .bool value => bool value
  | .int value => int value
  | .float value => float value
  | .str value => str (wide value.toList)
  | .arr items => arr (ofItems items)
  | .obj members => obj (ofMembers members)

/-- Items without surrogates. -/
def ofItems : List Json → List WideJson
  | [] => []
  | item :: items => ofJson item :: ofItems items

/-- Members without surrogates. -/
def ofMembers : List (String × Json) → List (WideText × WideJson)
  | [] => []
  | (key, value) :: members => (wide key.toList, ofJson value) :: ofMembers members

end

/-- The object with the given members, of which the last one counts for each key. -/
def object (members : List (WideText × WideJson)) : WideJson :=
  obj (Json.collect members)

/-- The value among some members that a key names. -/
def valueOf? (members : List (WideText × WideJson)) (key : String) : Option WideJson :=
  members.lookup (wide key.toList)

/-- Whether a value counts as present: neither null, nor false, zero or empty. -/
def isTruthy : WideJson → Bool
  | null => false
  | bool value => value
  | int value => value != 0
  | float value => !value.isZero
  | str value => !value.isEmpty
  | arr items => !items.isEmpty
  | obj members => !members.isEmpty

/-- The word for the type of a value in a message. -/
def typeWord : WideJson → String
  | null => "NoneType"
  | bool _ => "bool"
  | int _ => "int"
  | float _ => "float"
  | str _ => "str"
  | arr _ => "list"
  | obj _ => "dict"

end WideJson

end SchemaBindings
