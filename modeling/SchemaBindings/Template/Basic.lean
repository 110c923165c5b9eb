import SchemaBindings.Comment
import SchemaBindings.Naming
import SchemaBindings.Schema.Basic
import SchemaBindings.Text.Quoted
/-!
# Templates

A template is text with places for values, loops over the members of an enum, and conditions. It is
rendered in a scope, which gives values to names. A name without a value shows as nothing, but it
has no parts, and a filter that works on text can be applied neither to it nor to a number or a
list.
-/

set_option autoImplicit false
set_option relaxedAutoImplicit false

namespace SchemaBindings.Template

open SchemaBindings.Text

/-! ### Expressions -/

/-- What can be done to a value before it is shown. -/
inductive Filter where
  | pascalCase
  | snakeCase
  | upperCase
  | literal
  | comment
  | safeName
  deriving DecidableEq, Repr

/-- A name, the way to a part of its value, and the filters to apply to it, from left to right. -/
structure Expr where
  name : String
  path : List String := []
  filters : List Filter := []
  deriving DecidableEq, Repr

/-- A part of a template. -/
inductive Node where
  | text (value : List Char)
  | output (expr : Expr)
  | forMembers (body : List Node)
  | whenTrue (condition : Expr) (body : List Node)
  deriving Repr

/-! ### Values -/

/-- A value of an enum together with its member name. -/
structure Member where
  value : EnumValue
  name : List Char
  deriving DecidableEq, Repr

/-- What a name may stand for: nothing, a text, a number, the members of an enum, a value of an
enum, an enum, or the place in a loop with its length. -/
inductive Value where
  | undefined
  | text (value : List Char)
  | number (value : Nat)
  | members (values : List Member)
  | enumValue (value : EnumValue)
  | enum (name description : String) (values : List EnumValue)
  | loop (index length : Nat)
  deriving DecidableEq, Repr

/-- Why a template cannot be rendered. Values of the wrong kind are named by their kind, and so are
the faults that another engine meets. -/
inductive RenderFault where
  | undefined
  | noMethod (kind method : String)
  | notText (kind : String)
  | unhashable (kind : String)
  | foreign (kind text : String)
  deriving DecidableEq, Repr

/-- The text of a fault. -/
def RenderFault.message : RenderFault → String
  | undefined => "A name is not defined"
  | noMethod kind method => "'" ++ kind ++ "' object has no attribute '" ++ method ++ "'"
  | notText kind => "expected string or bytes-like object, got '" ++ kind ++ "'"
  | unhashable kind => "unhashable type: '" ++ kind ++ "'"
  | foreign _ text => text

namespace Value

/-- The name of the kind of a value in messages. -/
def kind : Value → String
  | undefined => "Undefined"
  | text _ => "str"
  | number _ => "int"
  | members _ => "list"
  | enumValue _ => "EnumValue"
  | enum _ _ _ => "EnumType"
  | loop _ _ => "LoopContext"

/-- Whether a value counts as true: a text or list with something in it, a number other than
zero. -/
def isTruthy : Value → Bool
  | undefined => false
  | text value => !value.isEmpty
  | number value => value != 0
  | members values => !values.isEmpty
  | enumValue _ | enum _ _ _ | loop _ _ => true

/-- A list of texts between brackets. -/
def listed (items : List (List Char)) : List Char :=
  '[' :: (items.intersperse [',', ' ']).flatten ++ [']']

/-- The literal of a value of an enum. -/
def enumValueLiteral (value : EnumValue) : List Char :=
  "EnumValue(name=".toList ++ quoted value.name.toList ++ ", description=".toList ++
    quoted value.description.toList ++ [')']

/-- The literal of a member. -/
def memberLiteral (member : Member) : List Char :=
  '(' :: enumValueLiteral member.value ++ [',', ' '] ++ quoted member.name ++ [')']

/-- The literal of a value. -/
def literal : Value → List Char
  | undefined => "Undefined".toList
  | text value => quoted value
  | number value => Nat.toDigits 10 value
  | members values => listed (values.map memberLiteral)
  | enumValue value => enumValueLiteral value
  | enum name description values =>
    "EnumType(name=".toList ++ quoted name.toList ++ ", description=".toList ++
      quoted description.toList ++ ", enum_values=".toList ++
      listed (values.map enumValueLiteral) ++ [')']
  | loop index length =>
    "<LoopContext ".toList ++ Nat.toDigits 10 (index + 1) ++ '/' :: Nat.toDigits 10 length ++ ['>']

/-- The text that a value shows as. -/
def shown : Value → List Char
  | undefined => []
  | text value => value
  | value => value.literal

/-- A part of a value; a part that it does not have is undefined. -/
def part : Value → String → Except RenderFault Value
  | undefined, _ => .error .undefined
  | enum name _ _, "name" => .ok (.text name.toList)
  | enum _ description _, "description" => .ok (.text description.toList)
  | enumValue value, "name" => .ok (.text value.name.toList)
  | enumValue value, "description" => .ok (.text value.description.toList)
  | loop index _, "index0" => .ok (.number index)
  | _, _ => .ok .undefined

/-- The result of a filter that splits or replaces parts of a text. -/
def onText (value : Value) (method : String) (filter : List Char → List Char) :
    Except RenderFault Value :=
  match value with
  | text chars => .ok (.text (filter chars))
  | undefined => .error .undefined
  | value => .error (.noMethod value.kind method)

/-- The result of a filter that searches a text for a pattern. -/
def onMatches (value : Value) (filter : List Char → List Char) : Except RenderFault Value :=
  match value with
  | text chars => .ok (.text (filter chars))
  | value => .error (.notText value.kind)

/-- A value that is safe to declare: a text that is a reserved word gets an underscore. -/
def safeName : Value → Except RenderFault Value
  | text chars => .ok (.text (Naming.safe chars))
  | value@(members _) | value@(enumValue _) | value@(enum _ _ _) =>
    .error (.unhashable value.kind)
  | value@undefined | value@(number _) | value@(loop _ _) => .ok value

/-- A value after one filter. -/
def filtered (value : Value) : Filter → Except RenderFault Value
  | .pascalCase => value.onText "split" Naming.pascal
  | .snakeCase => value.onMatches Naming.snake
  | .upperCase => value.onMatches Naming.upperSnake
  | .literal => .ok (.text value.literal)
  | .comment =>
    if value.isTruthy then value.onText "replace" Comment.ofDescription else .ok (.text [])
  | .safeName => value.safeName

end Value

/-- The values of names. -/
abbrev Scope : Type :=
  List (String × Value)

/-- The value of a name. -/
def Scope.get (scope : Scope) (name : String) : Value :=
  (scope.lookup name).getD .undefined

/-- The value of an expression. -/
def Expr.eval (expr : Expr) (scope : Scope) : Except RenderFault Value := do
  let value ← expr.path.foldlM Value.part (scope.get expr.name)
  expr.filters.foldlM Value.filtered value

/-! ### Rendering -/

/-- A way to render a scope. -/
abbrev Renderer : Type :=
  Scope → Except RenderFault (List Char)

/-- The members that a loop goes through: those of the enum in scope, if any. -/
def Scope.loopMembers (scope : Scope) : List Member :=
  match scope.get "members" with
  | .members values => values
  | _ => []

/-- The scope inside a loop of some length, at a member. -/
def Scope.atMember (scope : Scope) (length index : Nat) (member : Member) : Scope :=
  [("value", .enumValue member.value), ("member", .text member.name),
    ("loop", .loop index length)] ++ scope

mutual

/-- The text of a part of a template. -/
def Node.render (scope : Scope) : Node → Except RenderFault (List Char)
  | .text value => .ok value
  | .output expr => (expr.eval scope).map Value.shown
  | .forMembers body => do
    let members := scope.loopMembers
    let texts ← members.zipIdx.mapM fun (member, index) =>
      renderAll (scope.atMember members.length index member) body
    return texts.flatten
  | .whenTrue condition body => do
    let value ← condition.eval scope
    if value.isTruthy then renderAll scope body else return []

/-- The text of several parts. -/
def renderAll (scope : Scope) : List Node → Except RenderFault (List Char)
  | [] => .ok []
  | node :: nodes => do
    let text ← node.render scope
    return text ++ (← renderAll scope nodes)

end

/-- The renderer of a template, part by part. -/
def rendererOf (nodes : List Node) : Renderer :=
  fun scope => renderAll scope nodes

end SchemaBindings.Template
