import SchemaBindings.Text.Quoted
/-!
# References to types

A field, argument or interface position refers to a type through a chain of list and non-null
wrappers. `TypeRef` holds whatever a document may say; `TypeRef.WellFormed` states the rule that a
wrapper has an inner reference and no name, and every other kind a name and no inner reference.
-/

set_option autoImplicit false
set_option relaxedAutoImplicit false

namespace SchemaBindings

/-- The kinds of types. -/
inductive TypeKind where
  | scalar
  | object
  | interface
  | union
  | enum
  | inputObject
  | list
  | nonNull
  deriving DecidableEq, Repr

namespace TypeKind

/-- All kinds, in the order in which messages list them. -/
def all : List TypeKind :=
  [scalar, object, interface, union, enum, inputObject, list, nonNull]

/-- The name of a kind in documents. -/
def label : TypeKind → String
  | scalar => "SCALAR"
  | object => "OBJECT"
  | interface => "INTERFACE"
  | union => "UNION"
  | enum => "ENUM"
  | inputObject => "INPUT_OBJECT"
  | list => "LIST"
  | nonNull => "NON_NULL"

/-- The kind with a given name. -/
def ofLabel? (label : String) : Option TypeKind :=
  all.find? fun kind => kind.label == label

/-- The message about a text that names no kind. -/
def unknownLabel (label : String) : String :=
  Text.quotedString label ++ " is not a valid TypeKind"

/-- Kinds that get a generated declaration. -/
def isCustom : TypeKind → Bool
  | object | interface | union | enum | inputObject => true
  | scalar | list | nonNull => false

/-- Kinds that wrap another reference. -/
def isWrapper : TypeKind → Bool
  | list | nonNull => true
  | scalar | object | interface | union | enum | inputObject => false

end TypeKind

/-- The scalars of every schema. -/
def standardScalars : List String :=
  ["Int", "Float", "String", "Boolean", "ID"]

/-- A reference to a type: of a kind, with a name or without, and either ending here or around an
inner reference. -/
inductive TypeRef where
  | plain (kind : TypeKind) (name : Option String)
  | around (kind : TypeKind) (name : Option String) (inner : TypeRef)
  deriving DecidableEq, Repr

namespace TypeRef

/-- The kind of a reference. -/
def kind : TypeRef → TypeKind
  | plain kind _ => kind
  | around kind _ _ => kind

/-- The name of a reference. -/
def name? : TypeRef → Option String
  | plain _ name => name
  | around _ name _ => name

/-- The reference inside. -/
def inner? : TypeRef → Option TypeRef
  | plain _ _ => none
  | around _ _ inner => some inner

/-- A reference from its three parts. -/
def ofParts (kind : TypeKind) (name : Option String) : Option TypeRef → TypeRef
  | none => plain kind name
  | some inner => around kind name inner

/-- The innermost reference, whatever the kinds on the way. -/
def underlying : TypeRef → TypeRef
  | plain kind name => plain kind name
  | around _ _ inner => inner.underlying

/-- Whether a reference accepts null. -/
def isOptional (ref : TypeRef) : Bool :=
  ref.kind != .nonNull

/-- Whether a reference is a list once one non-null wrapper is taken off. -/
def isList : TypeRef → Bool
  | plain kind _ => kind == .list
  | around .nonNull _ inner => inner.kind == .list
  | around kind _ _ => kind == .list

/-- The reference in the notation of the schema language. A wrapper without an inner reference
shows `None` in its place. -/
def display : TypeRef → List Char
  | plain .nonNull _ => "None!".toList
  | plain .list _ => "[None]".toList
  | plain _ name => (name.getD "").toList
  | around .nonNull _ inner => inner.display ++ ['!']
  | around .list _ inner => '[' :: inner.display ++ [']']
  | around _ name _ => (name.getD "").toList

/-- The rule on wrappers and names, at one level: a wrapper has an inner reference and no name,
every other kind has a name and no inner reference. -/
def levelWellFormed : TypeRef → Bool
  | plain kind name => !kind.isWrapper && name.isSome
  | around kind name _ => kind.isWrapper && name.isNone

/-- The rule on wrappers and names, at every level. -/
def WellFormed : TypeRef → Prop
  | plain kind name => (plain kind name).levelWellFormed = true
  | around kind name inner => (around kind name inner).levelWellFormed = true ∧ inner.WellFormed

end TypeRef

end SchemaBindings
