import SchemaBindings.Sdl.DefaultValue
import SchemaBindings.Sdl.Token
import SchemaBindings.Text.Excerpt
/-!
# Uses of standard directives

A deprecation gives a reason and a specification of a scalar gives an address. Both are read from
the arguments of a standard directive when a schema is made of a document, also where the document
defines a directive of the same name for itself, and both have to be strings. Scalars, values of
enums and directives are made first, in this order; the fields of a type only when it is used, so
that a fault in them is told together with the name of the type and the place in the document.
-/

set_option autoImplicit false
set_option relaxedAutoImplicit false

namespace SchemaBindings.Sdl

open SchemaBindings.Text

/-! ### Faults -/

/-- Why the argument of a standard directive cannot be read. -/
inductive UseFault where
  | missing (argument : String) (type : TypeExpr)
  | unfit (argument : String) (fault : ValueFaultAt) (place? : Option Nat)
  deriving DecidableEq, Repr

/-- The text of a fault, without its place. -/
def UseFault.message : UseFault → String
  | missing argument type =>
    "Argument '" ++ argument ++ "' of required type '" ++ type.display ++ "' was not provided."
  | unfit argument fault _ =>
    "Argument '" ++ argument ++ "' has invalid value" ++ pathText fault.path ++ ": " ++
      fault.fault.message

/-- The number of the token that the value in question begins with, if it is shown. -/
def UseFault.place? : UseFault → Option Nat
  | missing _ _ => none
  | unfit _ _ place? => place?

/-- A fault, and the type whose fields it keeps from being made if it is found in fields. -/
structure BuildFault where
  type? : Option String := none
  fault : UseFault
  deriving DecidableEq, Repr

/-- The title of a document in messages. -/
def documentTitle : String := "GraphQL request"

/-- The text of a fault in a document; a fault in fields is shown with its place. -/
def BuildFault.message (text : List Char) (fault : BuildFault) : String :=
  match fault.type? with
  | none => fault.fault.message
  | some type =>
    type ++ " fields cannot be resolved. " ++ fault.fault.message ++
      match fault.fault.place? with
      | some index => "\n\n" ++ excerpt documentTitle text (tokenOffset text index)
      | none => ""

/-! ### Reading arguments -/

/-- Whether the place of a value is shown: that of a list or object is not. -/
def Literal.isPlaced : Literal → Bool
  | .list _ | .object _ => false
  | .int _ | .float _ | .string _ _ | .boolean _ | .null | .enum _ | .variable _ => true

namespace Declared

/-- The fault of an argument in a use of its directive. -/
def argumentFault? (declared : Declared) (used : DirectiveUse) (argument : InputDefinition) :
    Option UseFault :=
  let given := (used.arguments.zip used.places).find? fun entry => entry.1.1 == argument.name
  match given with
  | some ((_, value), place) =>
    (valueFaults declared value argument.type).head?.map fun fault =>
      .unfit argument.name fault (if value.isPlaced then some place else none)
  | none => if argument.isRequired then some (.missing argument.name argument.type) else none

/-- The fault of the first use of a standard directive among the directives in use somewhere. -/
def useFault? (declared : Declared) (directive : DirectiveDefinition) (uses : List DirectiveUse) :
    Option UseFault :=
  match uses.find? fun used => used.name == directive.name with
  | some used => directive.arguments.findSome? (declared.argumentFault? used)
  | none => none

/-- The fault of a deprecation. -/
def deprecationFault? (declared : Declared) (uses : List DirectiveUse) : Option UseFault :=
  declared.useFault? Standard.deprecated uses

/-- The first fault in arguments or input fields. -/
def inputsFault? (declared : Declared) (definitions : List InputDefinition) : Option UseFault :=
  definitions.findSome? fun definition => declared.deprecationFault? definition.directives

/-- The first fault in the fields of a type: for each field those of its arguments come first. -/
def fieldsFault? (declared : Declared) (content : TypeContent) : Option UseFault :=
  let ofField (field : FieldDefinition) : Option UseFault :=
    (declared.inputsFault? field.arguments).or (declared.deprecationFault? field.directives)
  (content.fields.findSome? ofField).or (declared.inputsFault? content.inputFields)

/-- The first fault in a definition or extension of a scalar or enum. -/
def partFault? (declared : Declared) (part : TypeDefinition) : Option UseFault :=
  match part.content with
  | .scalar => declared.useFault? Standard.specifiedBy part.directives
  | .enum values =>
    values.findSome? fun value => declared.deprecationFault? value.directives
  | .object _ _ | .interface _ _ | .union _ | .inputObject _ => none

end Declared

/-! ### Documents -/

/-- The definition of a type followed by its extensions. -/
def Document.parts (document : Document) (definition : TypeDefinition) : List TypeDefinition :=
  definition :: (document.filterMap Definition.typeExtension?).filter fun extension =>
    extension.name == definition.name

/-- The first fault that keeps the schema of a document from being made. -/
def Document.buildFault? (document : Document) : Option BuildFault :=
  let declared := document.declared
  let own := (document.filterMap Definition.type?).filter fun definition =>
    (Standard.type? definition.name).isNone
  let ofType (definition : TypeDefinition) : Option BuildFault :=
    ((document.parts definition).findSome? declared.partFault?).map fun fault => { fault }
  let ofDirective (definition : DirectiveDefinition) : Option BuildFault :=
    let extended := document.filterMap fun part =>
      part.directivePart?.bind fun (name, uses) =>
        if name == definition.name then declared.deprecationFault? uses else none
    ((declared.inputsFault? definition.arguments).or extended.head?).map fun fault => { fault }
  let ofFields (definition : TypeDefinition) : Option BuildFault :=
    (declared.fieldsFault? (document.joined definition).content).map fun fault =>
      { type? := some definition.name, fault }
  ((own.findSome? ofType).or
    ((document.filterMap Definition.directive?).findSome? ofDirective)).or
    (own.findSome? ofFields)

end SchemaBindings.Sdl
