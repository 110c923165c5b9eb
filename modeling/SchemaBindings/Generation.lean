import SchemaBindings.Order.Queue
import SchemaBindings.Source.Statement
import SchemaBindings.Template.Builtin
import SchemaBindings.Text.Line
/-!
# Generated modules

The declarations of a schema's types in dependency order, and the module that holds them. Only enums
are declared so far; the other kinds of types take part in the order and leave no text. A module is
checked before anyone sees it: it must be one by the grammar of the generated language.
-/

set_option autoImplicit false
set_option relaxedAutoImplicit false

namespace SchemaBindings

open SchemaBindings.Template

/-- The templates of a run, each by the way it is rendered. -/
structure Templates where
  enum : Renderer := rendererOf enumDeclaration
  module : Renderer := rendererOf moduleText

/-- Why no module is generated. -/
inductive GenerationError where
  | unordered (error : OrderError)
  | notRendered (fault : RenderFault)
  | notModule (path : String)
  | nullCharacter
  deriving DecidableEq, Repr

/-- Whether an error is one of which a user is told in one line. -/
def GenerationError.isReported : GenerationError → Bool
  | unordered _ | notModule _ => true
  | notRendered _ | nullCharacter => false

/-- The text of an error. -/
def GenerationError.message : GenerationError → String
  | unordered error => error.message
  | notRendered fault => fault.message
  | notModule path => "Generated invalid Python for " ++ path
  | nullCharacter => "source code string cannot contain null bytes"

/-! ### Declarations -/

/-- The member names of an enum's values. -/
def enumMembers (values : List EnumValue) : List (List Char) :=
  Naming.memberNames (values.map fun value => value.name.toList)

/-- The scope in which an enum is declared. -/
def enumScope (name description : String) (values : List EnumValue) : Scope :=
  let members := (values.zip (enumMembers values)).map fun (value, name) => ⟨value, name⟩
  [("enum", .enum name description values), ("members", .members members),
    ("unknown", .text Naming.placeholder)]

/-- The scope in which a module is put around its declarations. -/
def moduleScope (body : List Char) : Scope :=
  [("body", .text (Text.trimRight body))]

namespace Templates

/-- The declaration of an enum. -/
def enumText (templates : Templates) (name description : String) (values : List EnumValue) :
    Except RenderFault (List Char) :=
  templates.enum (enumScope name description values)

/-- The declaration of a type, moved to the right. -/
def typeText (templates : Templates) (indentation : Int) (type : NamedType) :
    Except RenderFault (List Char) :=
  match type.body with
  | .enum values => do
    let text ← templates.enumText type.name type.description values
    return Text.indentBlock indentation text
  | .scalar | .object _ _ | .interface _ _ | .union _ | .inputObject _ => .ok []

/-- The declarations of some types, one after the other. -/
def declarations (templates : Templates) (types : List NamedType) :
    Except RenderFault (List Char) :=
  (types.mapM (templates.typeText 0)).map List.flatten

/-- The declarations of the custom types of a list, in dependency order. -/
def typesText (templates : Templates) (types : List NamedType) :
    Except GenerationError (List Char) := do
  let sorted ← (sortTypes types).mapError .unordered
  (templates.declarations sorted).mapError .notRendered

/-! ### Modules -/

/-- The text of a module around its declarations. -/
def moduleAround (templates : Templates) (body : List Char) : Except RenderFault (List Char) :=
  templates.module (moduleScope body)

/-- The module with the given declarations, checked; nothing at all without declarations. -/
def render (templates : Templates) (path : String) (body : List Char) :
    Except GenerationError (List Char) :=
  if Text.isAllBlank body then .ok []
  else do
    let text ← (templates.moduleAround body).mapError .notRendered
    if text.contains '\x00' then .error .nullCharacter
    else if Source.isModule text then .ok text
    else .error (.notModule path)

/-- The module of the custom types of a list. -/
def generate (templates : Templates) (path : String) (types : List NamedType) :
    Except GenerationError (List Char) := do
  let body ← templates.typesText types
  templates.render path body

end Templates

end SchemaBindings
