import SchemaBindings.Schema.Basic
/-!
# Hooks

Hooks run around generation, in the order of their registration. A filter drops custom types by the
beginning or end of their names before the types are ordered; scalars always stay. A header is put
in front of a generated module that is not empty.
-/

set_option autoImplicit false
set_option relaxedAutoImplicit false

namespace SchemaBindings

/-- Which custom types to keep: those whose name neither begins nor ends as excluded, and does begin
and end as included. An empty text counts as none. -/
structure TypeFilter where
  excludedStart : Option String := none
  excludedEnd : Option String := none
  includedStart : Option String := none
  includedEnd : Option String := none
  deriving DecidableEq, Repr

/-- Whether a name begins with a text. -/
def beginsWith (name text : String) : Bool :=
  text.toList.isPrefixOf name.toList

/-- Whether a name ends with a text. -/
def endsWith (name text : String) : Bool :=
  text.toList.isSuffixOf name.toList

/-- Whether an option that is set to a text, other than the empty one, satisfies a test. -/
def whenSet (option : Option String) (test : String → Bool) : Bool :=
  match option with
  | some text => !text.isEmpty && test text
  | none => false

namespace TypeFilter

/-- Whether a filter keeps a name. -/
def keepsName (filter : TypeFilter) (name : String) : Bool :=
  !whenSet filter.excludedStart (beginsWith name) && !whenSet filter.excludedEnd (endsWith name) &&
    !whenSet filter.includedStart (fun text => !beginsWith name text) &&
    !whenSet filter.includedEnd (fun text => !endsWith name text)

/-- Whether a filter keeps a type. -/
def keeps (filter : TypeFilter) (type : NamedType) : Bool :=
  !type.isCustom || filter.keepsName type.name

/-- The schema without the types that a filter drops. -/
def apply (filter : TypeFilter) (schema : Schema) : Schema :=
  { schema with types := schema.types.filter filter.keeps }

end TypeFilter

/-- Puts a header in front of a text that is not empty, with an empty line between them. -/
def addHeader (header content : String) : String :=
  if content.isEmpty then content
  else if endsWith header "\n" then header ++ "\n" ++ content
  else header ++ "\n\n" ++ content

/-- The hooks of a run, in the order of their registration. -/
structure Hooks where
  filters : List TypeFilter := []
  headers : List String := []
  deriving DecidableEq, Repr

namespace Hooks

/-- Registers a filter after the others. -/
def addFilter (hooks : Hooks) (filter : TypeFilter) : Hooks :=
  { hooks with filters := hooks.filters ++ [filter] }

/-- Registers a header after the others. -/
def registerHeader (hooks : Hooks) (header : String) : Hooks :=
  { hooks with headers := hooks.headers ++ [header] }

/-- Runs the filters on a schema. -/
def filterSchema (hooks : Hooks) (schema : Schema) : Schema :=
  hooks.filters.foldl (fun schema filter => filter.apply schema) schema

/-- Puts the headers in front of a generated module. -/
def addHeaders (hooks : Hooks) (content : String) : String :=
  hooks.headers.foldl (fun content header => addHeader header content) content

end Hooks

end SchemaBindings
