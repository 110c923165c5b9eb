import SchemaBindings.Introspection.Malformed
import SchemaBindings.Introspection.TextShape
import SchemaBindings.Json.Reader
import SchemaBindings.Schema.Basic
/-!
# Decoding introspection documents

A document is decoded in two steps. It is first decided whether it has the right shape, by
`Rule.problems` if it is loaded and by `Rule.readProblems` if it comes from a text. A document of
the right shape is then read by functions that cannot fail, in which an entry that is null or absent
stands for its default, and the types are checked one after the other: a name that is taken, a type
of a wrapper kind, and a reference that breaks the rule on wrappers and names. Only the references
that a type's kind uses are checked.
-/

set_option autoImplicit false
set_option relaxedAutoImplicit false

namespace SchemaBindings.Introspection

/-! ### Reading a document of the right shape -/

/-- The text in an entry; the empty text where there is none. -/
def textOf : Option Json → String
  | some (.str text) => text
  | _ => ""

/-- The text in an entry that may hold none. -/
def textOf? : Option Json → Option String
  | some (.str text) => some text
  | _ => none

/-- The kind in an entry. -/
def kindOf (entry : Option Json) : TypeKind :=
  (TypeKind.ofLabel? (textOf entry)).getD .scalar

/-- The items of a list in an entry; none where there is no list. -/
def itemsOf : Option Json → List Json
  | some (.arr items) => items
  | _ => []

/-- What is found in an object is smaller than the object. -/
theorem Key.sizeOf_value_lt {key : Key} {json value : Json} (h : key.value? json = some value) :
    sizeOf value < sizeOf json := by
  cases json with
  | obj members =>
    simp only [Key.value?, Option.map_eq_some_iff] at h
    obtain ⟨found, hfound, rfl⟩ := h
    have := Key.sizeOf_find_lt hfound
    simp only [Json.obj.sizeOf_spec]
    omega
  | _ => simp [Key.value?] at h

/-- The reference in an object. -/
def typeRefOf (json : Json) : TypeRef :=
  let kind := kindOf (Key.kind.value? json)
  let name := textOf? (Key.ownName.value? json)
  match _h : Key.inner.value? json with
  | some (.obj members) => .around kind name (typeRefOf (.obj members))
  | _ => .plain kind name
termination_by sizeOf json
decreasing_by exact Key.sizeOf_value_lt _h

/-- The reference in an entry. -/
def typeOf (json : Json) : TypeRef :=
  typeRefOf ((Key.type.value? json).getD .null)

/-- An argument or input field. -/
def inputValueOf (json : Json) : InputValue :=
  { name := textOf (Key.ownName.value? json)
    type := typeOf json
    description := textOf (Key.description.value? json) }

/-- A field. -/
def fieldOf (json : Json) : Field :=
  { name := textOf (Key.ownName.value? json)
    type := typeOf json
    description := textOf (Key.description.value? json)
    arguments := (itemsOf (Key.arguments.value? json)).map inputValueOf }

/-- A value of an enum. -/
def enumValueOf (json : Json) : EnumValue :=
  { name := textOf (Key.ownName.value? json)
    description := textOf (Key.description.value? json) }

/-- The body that a type of a kind has in a document; a wrapper has none. -/
def bodyOf? (json : Json) : TypeKind → Option TypeBody
  | .scalar => some .scalar
  | .object =>
    some (.object ((itemsOf (Key.fields.value? json)).map fieldOf)
      ((itemsOf (Key.interfaces.value? json)).map typeRefOf))
  | .interface =>
    some (.interface ((itemsOf (Key.fields.value? json)).map fieldOf)
      ((itemsOf (Key.possibleTypes.value? json)).map typeRefOf))
  | .union => some (.union ((itemsOf (Key.possibleTypes.value? json)).map typeRefOf))
  | .enum => some (.enum ((itemsOf (Key.enumValues.value? json)).map enumValueOf))
  | .inputObject => some (.inputObject ((itemsOf (Key.inputFields.value? json)).map inputValueOf))
  | .list | .nonNull => none

/-! ### Rules on types and references -/

/-- The first level, from the outside, at which a reference breaks the rule on wrappers and
names. -/
def brokenLevel? : TypeRef → Option Malformed
  | .plain kind name =>
    if kind.isWrapper then some (.brokenWrapper kind)
    else if name.isNone then some (.brokenName kind)
    else none
  | .around kind name inner =>
    if !kind.isWrapper then some (.brokenName kind)
    else if name.isSome then some (.brokenWrapper kind)
    else brokenLevel? inner

/-- One type of a document. -/
def namedTypeOf (json : Json) : Except Malformed NamedType :=
  let name := textOf (Key.ownName.value? json)
  let kind := kindOf (Key.kind.value? json)
  match bodyOf? json kind with
  | none => .error (.wrapperType name kind)
  | some body =>
    let type : NamedType :=
      { name := name, description := textOf (Key.description.value? json), body := body }
    match type.references.findSome? brokenLevel? with
    | some malformed => .error malformed
    | none => .ok type

/-- The types of a document from some type on, when the names in `seen` are taken. -/
def namedTypesOf (seen : List String) : List Json → Except Malformed (List NamedType)
  | [] => .ok []
  | json :: rest => do
    let name := textOf (Key.ownName.value? json)
    if seen.contains name then throw (.repeatedType name)
    let type ← namedTypeOf json
    let types ← namedTypesOf (name :: seen) rest
    return type :: types

/-- The name of a root type. -/
def rootOf : Option Json → Option String
  | some (.obj members) => some (textOf (Key.ownName.value? (.obj members)))
  | _ => none

/-- The schema in a document of the right shape. -/
def schemaOf (document : Json) : Except Malformed Schema := do
  let data := (Key.data.value? document).getD .null
  let schema := (Key.schema.value? data).getD .null
  let types ← namedTypesOf [] (itemsOf (Key.types.value? schema))
  return {
    types := types
    query := rootOf (Key.query.value? schema)
    mutation := rootOf (Key.mutation.value? schema)
    subscription := rootOf (Key.subscription.value? schema) }

/-! ### Entry points -/

/-- Decodes a document that is already loaded. -/
def decode (document : Json) : Except Malformed Schema :=
  match (Rule.record .document).problems document with
  | [] => schemaOf document
  | problems => .error (.wrongShape problems)

/-- How many arrays and objects with something in them may nest in a JSON text. -/
def maxDepth : Nat := 200

/-- Decodes the JSON text of a document. -/
def decodeText (text : List Char) : Except Malformed Schema :=
  match Json.read (some maxDepth) text with
  | .error fault => .error (.notJson fault.fault (fault.place text))
  | .ok document =>
    match (Rule.record .document).readProblems document with
    | [] => schemaOf document
    | problems => .error (.wrongShape problems)

end SchemaBindings.Introspection
