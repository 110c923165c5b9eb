import SchemaBindings.Schema.Basic
/-!
# Dependencies between types

A type depends on the custom types that its fields, their arguments, its input fields and its
declared interfaces name. Wrappers around a field, argument or input field are looked through; the
members of a union and the implementations of an interface add nothing.
-/

set_option autoImplicit false
set_option relaxedAutoImplicit false

namespace SchemaBindings

/-- The name that a reference depends on, if it names a custom type. -/
def TypeRef.dependency? (ref : TypeRef) : Option String :=
  match ref.name? with
  | some name => if !name.isEmpty && ref.kind.isCustom then some name else none
  | none => none

/-- The references that the fields of a type depend on: for each field its own type, then the types
of its arguments. -/
def Field.dependencyRefs (field : Field) : List TypeRef :=
  field.type.underlying :: field.arguments.map fun argument => argument.type.underlying

namespace NamedType

/-- The references that decide the dependencies of a type, in order. -/
def dependencyRefs (type : NamedType) : List TypeRef :=
  match type.body with
  | .object fields interfaces => fields.flatMap Field.dependencyRefs ++ interfaces
  | .interface fields _ => fields.flatMap Field.dependencyRefs
  | .inputObject inputFields => inputFields.map fun input => input.type.underlying
  | .scalar | .union _ | .enum _ => []

/-- The names of the custom types that a type depends on, each once, in the order of their first
appearance. -/
def dependencies (type : NamedType) : List String :=
  (type.dependencyRefs.filterMap TypeRef.dependency?).eraseDups

end NamedType

end SchemaBindings
