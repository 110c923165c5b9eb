/-!
# Events

What a run reports while it goes on. Each event is shown as one line with its level and the part of
the program that reports it.
-/

set_option autoImplicit false
set_option relaxedAutoImplicit false

namespace SchemaBindings

/-- Something that a run reports. -/
inductive Event where
  | converting (name : String)
  | decoded (types custom : Nat)
  | generating (custom : Nat) (path : String)
  | sorting (custom edges : Nat)
  | wrote (size : Nat) (path : String)
  deriving DecidableEq, Repr

namespace Event

/-- The level of an event and the part of the program that reports it. -/
def source : Event → String
  | converting _ => "INFO gql_typegen.core.parser"
  | decoded _ _ => "INFO gql_typegen.core.parser"
  | generating _ _ => "DEBUG gql_typegen.core.pipeline"
  | sorting _ _ => "DEBUG gql_typegen.core.sorter"
  | wrote _ _ => "INFO gql_typegen.core.generator"

/-- The text of an event. -/
def message : Event → String
  | converting name => "Converting SDL " ++ name ++ " to introspection"
  | decoded types custom =>
    "Decoded " ++ toString types ++ " types (" ++ toString custom ++ " custom)"
  | generating custom path =>
    "Generating " ++ toString custom ++ " custom types from " ++ path
  | sorting custom edges =>
    "Sorting " ++ toString custom ++ " custom types with " ++ toString edges ++
      " dependency edges"
  | wrote size path => "Wrote " ++ toString size ++ " bytes to " ++ path

/-- The line that shows an event. -/
def line (event : Event) : String :=
  event.source ++ ": " ++ event.message

end Event

end SchemaBindings
