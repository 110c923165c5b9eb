import SchemaBindings.Sdl.DefaultValue
import SchemaBindings.Sdl.InputCycle
/-!
# Problems of a declared schema

What keeps a schema from being valid although its document obeys the rules on documents, with the
text of each problem. A place is a field, an argument or an input field in dotted notation.
-/

set_option autoImplicit false
set_option relaxedAutoImplicit false

namespace SchemaBindings.Sdl

open SchemaBindings.Text

/-- What is wrong with a schema. -/
inductive SchemaProblem where
  | noQueryRoot
  | rootNotObject (operation : Operation) (type : String)
  | sharedRoot (type : String) (operations : List Operation)
  | reservedName (name : String)
  | notInput (place : String) (type : TypeExpr)
  | notOutput (place : String) (type : TypeExpr)
  | deprecatedArgument (place : String)
  | deprecatedInput (place : String)
  | badDefault (place : String) (fault : ValueFaultAt)
  | noFields (type : String)
  | noMembers (type : String)
  | noValues (type : String)
  | noInputFields (type : String)
  | notInterface (type other : String)
  | implementsItself (type : String)
  | implementsTwice (type interface : String)
  | implementsInCircle (type interface : String)
  | missingAncestor (type ancestor interface : String)
  | missingField (place type : String)
  | otherFieldType (place : String) (expected : TypeExpr) (own : String) (found : TypeExpr)
  | missingArgument (place own : String)
  | otherArgumentType (place : String) (expected : TypeExpr) (own : String) (found : TypeExpr)
  | extraArgument (own : String) (type : TypeExpr) (place : String)
  | deprecatedField (place own : String)
  | repeatedMember (type member : String)
  | memberNotObject (type member : String)
  | endlessInput (type : String) (path : List String)
  | endlessDefault (place : String) (path : List String)
  | oneOfNonNull (place : String)
  | oneOfDefault (place : String)
  deriving DecidableEq, Repr

/-- A word with a capital first letter. -/
def capitalized (word : String) : String :=
  match word.toList with
  | [] => ""
  | c :: rest => String.ofList (upperChar c ++ rest)

/-- The text of a problem. -/
def SchemaProblem.message : SchemaProblem → String
  | noQueryRoot => "Query root type must be provided."
  | rootNotObject operation type =>
    capitalized operation.keyword ++ " root type must be Object type" ++
      (if operation = .query then "" else " if provided") ++ ", it cannot be " ++ type ++ "."
  | sharedRoot type operations =>
    "All root types must be different, '" ++ type ++ "' type is used as " ++
      wordList "and" (operations.map Operation.keyword) ++ " root types."
  | reservedName name =>
    "Name '" ++ name ++ "' must not begin with '__', which is reserved by GraphQL introspection."
  | notInput place type =>
    "The type of " ++ place ++ " must be Input Type but got: " ++ type.display ++ "."
  | notOutput place type =>
    "The type of " ++ place ++ " must be Output Type but got: " ++ type.display ++ "."
  | deprecatedArgument place => "Required argument " ++ place ++ " cannot be deprecated."
  | deprecatedInput place => "Required input field " ++ place ++ " cannot be deprecated."
  | badDefault place fault =>
    match fault.fault with
    | .notInputType _ => fault.fault.message
    | _ =>
      place ++ " has invalid default value" ++ pathText fault.path ++ ": " ++ fault.fault.message
  | noFields type => "Type " ++ type ++ " must define one or more fields."
  | noMembers type => "Union type " ++ type ++ " must define one or more member types."
  | noValues type => "Enum type " ++ type ++ " must define one or more values."
  | noInputFields type => "Input Object type " ++ type ++ " must define one or more fields."
  | notInterface type other =>
    "Type " ++ type ++ " must only implement Interface types, it cannot implement " ++ other ++ "."
  | implementsItself type =>
    "Type " ++ type ++ " cannot implement itself because it would create a circular reference."
  | implementsTwice type interface =>
    "Type " ++ type ++ " can only implement " ++ interface ++ " once."
  | implementsInCircle type interface =>
    "Type " ++ type ++ " cannot implement " ++ interface ++
      " because it would create a circular reference."
  | missingAncestor type ancestor interface =>
    "Type " ++ type ++ " must implement " ++ ancestor ++ " because it is implemented by " ++
      interface ++ "."
  | missingField place type =>
    "Interface field " ++ place ++ " expected but " ++ type ++ " does not provide it."
  | otherFieldType place expected own found =>
    "Interface field " ++ place ++ " expects type " ++ expected.display ++ " but " ++ own ++
      " is type " ++ found.display ++ "."
  | missingArgument place own =>
    "Interface field argument " ++ place ++ " expected but " ++ own ++ " does not provide it."
  | otherArgumentType place expected own found =>
    "Interface field argument " ++ place ++ " expects type " ++ expected.display ++ " but " ++
      own ++ " is type " ++ found.display ++ "."
  | extraArgument own type place =>
    "Argument '" ++ own ++ "' must not be required type '" ++ type.display ++
      "' if not provided by the Interface field '" ++ place ++ "'."
  | deprecatedField place own =>
    "Interface field " ++ place ++ " is not deprecated, so implementation field " ++ own ++
      " must not be deprecated."
  | repeatedMember type member =>
    "Union type " ++ type ++ " can only include type " ++ member ++ " once."
  | memberNotObject type member =>
    "Union type " ++ type ++ " can only include Object types, it cannot include " ++ member ++ "."
  | endlessInput type path =>
    "Input Object " ++ type ++ " cannot be provided a finite value because it references itself " ++
      "through fields: " ++ ", ".intercalate path ++ "."
  | endlessDefault place path =>
    "Invalid circular reference. The default value of Input Object field " ++ place ++
      " references itself" ++
      (if path.isEmpty then "" else " via the default values of: " ++ ", ".intercalate path) ++ "."
  | oneOfNonNull place => "OneOf input field " ++ place ++ " must be nullable."
  | oneOfDefault place => "OneOf input field " ++ place ++ " cannot have a default value."

/-- Whether a problem ends the search for more: a default value for a type that takes none. -/
def SchemaProblem.isFinal : SchemaProblem → Bool
  | badDefault _ { fault := .notInputType _, .. } => true
  | _ => false

end SchemaBindings.Sdl
