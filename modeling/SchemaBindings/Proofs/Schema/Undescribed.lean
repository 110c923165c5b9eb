import SchemaBindings.Proofs.Order.Payload
/-!
# Schemas without their descriptions

`undescribed` empties the descriptions of a schema at every level: types, fields, arguments, input
fields and values of enums. Two schemas differ in their descriptions only when they are equal
without them. Names, kinds and references stay, so sorting does not see descriptions
(`keepsGraph_undescribed`).
-/

set_option autoImplicit false
set_option relaxedAutoImplicit false

namespace SchemaBindings

/-- An argument or input field without its description. -/
def InputValue.undescribed (value : InputValue) : InputValue :=
  { value with description := "" }

/-- A field without the descriptions of itself and its arguments. -/
def Field.undescribed (field : Field) : Field :=
  { field with description := "", arguments := field.arguments.map InputValue.undescribed }

/-- A value of an enum without its description. -/
def EnumValue.undescribed (value : EnumValue) : EnumValue :=
  { value with description := "" }

/-- What a type declares, without descriptions. -/
def TypeBody.undescribed : TypeBody → TypeBody
  | scalar => scalar
  | object fields interfaces => object (fields.map Field.undescribed) interfaces
  | interface fields possibleTypes => interface (fields.map Field.undescribed) possibleTypes
  | union possibleTypes => union possibleTypes
  | enum values => enum (values.map EnumValue.undescribed)
  | inputObject inputFields => inputObject (inputFields.map InputValue.undescribed)

/-- A type without the descriptions of itself and what it declares. -/
def NamedType.undescribed (type : NamedType) : NamedType :=
  { type with description := "", body := type.body.undescribed }

/-- A schema without its descriptions. -/
def Schema.undescribed (schema : Schema) : Schema :=
  { schema with types := schema.types.map NamedType.undescribed }

theorem TypeBody.kind_undescribed (body : TypeBody) : body.undescribed.kind = body.kind := by
  cases body <;> rfl

theorem Field.dependencyRefs_undescribed (field : Field) :
    field.undescribed.dependencyRefs = field.dependencyRefs := by
  simp only [Field.dependencyRefs, Field.undescribed, List.map_map]
  rfl

theorem NamedType.dependencyRefs_undescribed (type : NamedType) :
    type.undescribed.dependencyRefs = type.dependencyRefs := by
  obtain ⟨name, description, body⟩ := type
  have hfields (fields : List Field) :
      (fields.map Field.undescribed).flatMap Field.dependencyRefs =
        fields.flatMap Field.dependencyRefs := by
    rw [List.flatMap_map]
    exact List.flatMap_congr fun field _ ↦ field.dependencyRefs_undescribed
  cases body with
  | object fields interfaces => exact congrArg (· ++ interfaces) (hfields fields)
  | interface fields possibleTypes => exact hfields fields
  | inputObject inputFields =>
    simp only [dependencyRefs, undescribed, TypeBody.undescribed, List.map_map]
    rfl
  | scalar => rfl
  | union possibleTypes => rfl
  | enum values => rfl

/-- Descriptions show neither in the names of the nodes nor in the edges of the graph. -/
theorem keepsGraph_undescribed : KeepsGraph NamedType.undescribed where
  name _ := rfl
  isCustom type := congrArg TypeKind.isCustom type.body.kind_undescribed
  dependencies type := by
    simp only [NamedType.dependencies, type.dependencyRefs_undescribed]

end SchemaBindings
