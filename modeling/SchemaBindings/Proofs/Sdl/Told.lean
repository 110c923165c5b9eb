import SchemaBindings.Proofs.Introspection.Written
import SchemaBindings.Sdl.Introspection
/-!
# What a client is told about a declared schema

A declared schema is a schema once it is said what a written type refers to (`Declared.schemaBy`).
`Declared.fullRef` keeps all wrappers of a type, `Declared.followedRef` stops behind as many as a
question follows. The introspection document of a declared schema writes the schema with the latter
(`writesDocument_introspection`), which is the one with the former as long as no type has more
wrappers (`schemaBy_followedRef`).
-/

set_option autoImplicit false
set_option relaxedAutoImplicit false

namespace SchemaBindings.Sdl

open Introspection

/-! ### Written types -/

/-- The kinds of the wrappers of a type, from the outside in. -/
def TypeExpr.wrappers : TypeExpr → List TypeKind
  | named _ => []
  | list inner => .list :: inner.wrappers
  | nonNull inner => .nonNull :: inner.wrappers

/-- The types that are written in a content: for each field those of its arguments and then its own,
or those of the input fields. -/
def TypeContent.writtenTypes (content : TypeContent) : List TypeExpr :=
  content.fields.flatMap (fun field ↦ field.arguments.map InputDefinition.type ++ [field.type]) ++
    content.inputFields.map InputDefinition.type

/-! ### Schemas -/

section Parts

variable (refTo : TypeExpr → TypeRef)

/-- An argument or input field. -/
def InputDefinition.valueBy (definition : InputDefinition) : InputValue :=
  { name := definition.name
    type := refTo definition.type
    description := definition.description.getD "" }

/-- A field. -/
def FieldDefinition.fieldBy (definition : FieldDefinition) : Field :=
  { name := definition.name
    type := refTo definition.type
    description := definition.description.getD ""
    arguments := definition.arguments.map (InputDefinition.valueBy refTo) }

/-- A value of an enum. -/
def ValueDefinition.enumValue (definition : ValueDefinition) : EnumValue :=
  { name := definition.name, description := definition.description.getD "" }

end Parts

namespace Declared

variable (declared : Declared)

/-- The body of the type of a name. The possible types of an interface are the objects that declare
to implement it. -/
def bodyBy (refTo : TypeExpr → TypeRef) (name : String) : TypeContent → TypeBody
  | .scalar => .scalar
  | .object interfaces fields =>
    .object (fields.map (FieldDefinition.fieldBy refTo))
      (interfaces.map fun name ↦ refTo (.named name))
  | .interface _ fields =>
    .interface (fields.map (FieldDefinition.fieldBy refTo))
      ((declared.objectsOf name).map fun type ↦ refTo (.named type.name))
  | .union members => .union (members.map fun name ↦ refTo (.named name))
  | .enum values => .enum (values.map ValueDefinition.enumValue)
  | .inputObject fields => .inputObject (fields.map (InputDefinition.valueBy refTo))

/-- A type. -/
def typeBy (refTo : TypeExpr → TypeRef) (definition : TypeDefinition) : NamedType :=
  { name := definition.name
    description := definition.description.getD ""
    body := declared.bodyBy refTo definition.name definition.content }

/-- A schema, when it is said what a written type refers to. -/
def schemaBy (refTo : TypeExpr → TypeRef) : Schema :=
  { types := declared.types.map (declared.typeBy refTo)
    query := declared.root? .query
    mutation := declared.root? .mutation
    subscription := declared.root? .subscription }

/-- The types that are written in a schema, in the order of its types. -/
def writtenTypes : List TypeExpr :=
  declared.types.flatMap fun definition ↦ definition.content.writtenTypes

/-! ### References -/

/-- The reference to a type, with all of its wrappers. -/
def fullRef : TypeExpr → TypeRef
  | .named name => .plain (declared.content name).kind (some name)
  | .list inner => .around .list none (fullRef inner)
  | .nonNull inner => .around .nonNull none (fullRef inner)

/-- The reference to a type, followed through `levels` wrappers. Nothing is in the next one. -/
def followedRef : (levels : ℕ) → TypeExpr → TypeRef
  | _, .named name => .plain (declared.content name).kind (some name)
  | 0, .list _ => .plain .list none
  | 0, .nonNull _ => .plain .nonNull none
  | levels + 1, .list inner => .around .list none (followedRef levels inner)
  | levels + 1, .nonNull inner => .around .nonNull none (followedRef levels inner)

theorem followedRef_named (levels : ℕ) (name : String) :
    declared.followedRef levels (.named name) =
      .plain (declared.content name).kind (some name) := by
  cases levels <;> rfl

theorem wrappers_fullRef (type : TypeExpr) : (declared.fullRef type).wrappers = type.wrappers := by
  induction type with
  | named name => rfl
  | list inner ih => rw [fullRef, TypeRef.wrappers, ih, TypeExpr.wrappers]
  | nonNull inner ih => rw [fullRef, TypeRef.wrappers, ih, TypeExpr.wrappers]

theorem underlying_fullRef (type : TypeExpr) :
    (declared.fullRef type).underlying =
      .plain (declared.content type.base).kind (some type.base) := by
  induction type with
  | named name => rfl
  | list inner ih => exact ih
  | nonNull inner ih => exact ih

/-- What is followed through enough wrappers is followed to its name. -/
theorem followedRef_eq_fullRef {levels : ℕ} {type : TypeExpr}
    (hlength : type.wrappers.length ≤ levels) :
    declared.followedRef levels type = declared.fullRef type := by
  induction type generalizing levels with
  | named name => exact declared.followedRef_named levels name
  | list inner ih =>
    cases levels with
    | zero => exact absurd hlength (Nat.not_succ_le_zero _)
    | succ levels => rw [followedRef, ih (Nat.le_of_succ_le_succ hlength), fullRef]
  | nonNull inner ih =>
    cases levels with
    | zero => exact absurd hlength (Nat.not_succ_le_zero _)
    | succ levels => rw [followedRef, ih (Nat.le_of_succ_le_succ hlength), fullRef]

/-- No more wrappers are left than are followed. -/
theorem length_wrappers_followedRef_le (levels : ℕ) (type : TypeExpr) :
    (declared.followedRef levels type).wrappers.length ≤ levels := by
  induction levels generalizing type with
  | zero => cases type <;> exact le_rfl
  | succ levels ih =>
    cases type with
    | named name => exact Nat.zero_le _
    | list inner => exact Nat.succ_le_succ (ih inner)
    | nonNull inner => exact Nat.succ_le_succ (ih inner)

/-- The guard against endless references lets through what a question follows. -/
theorem isShallow_followedRef (type : TypeExpr) :
    IsShallow (declared.followedRef followedWrappers type) :=
  (declared.length_wrappers_followedRef_le followedWrappers type).trans (by decide)

/-! ### Agreement -/

section Agreement

variable {refTo other : TypeExpr → TypeRef}

theorem fieldBy_congr {field : FieldDefinition}
    (hsame : ∀ type ∈ field.arguments.map InputDefinition.type ++ [field.type],
      refTo type = other type) : field.fieldBy refTo = field.fieldBy other := by
  rw [List.forall_mem_append, List.forall_mem_map, List.forall_mem_singleton] at hsame
  obtain ⟨harguments, htype⟩ := hsame
  rw [FieldDefinition.fieldBy, FieldDefinition.fieldBy, htype]
  congr 1
  refine List.map_congr_left fun argument hargument ↦ ?_
  rw [InputDefinition.valueBy, InputDefinition.valueBy, harguments argument hargument]

/-- A type depends on what the types written in it refer to. -/
theorem typeBy_congr (hnamed : ∀ name, refTo (.named name) = other (.named name))
    {definition : TypeDefinition}
    (hsame : ∀ type ∈ definition.content.writtenTypes, refTo type = other type) :
    declared.typeBy refTo definition = declared.typeBy other definition := by
  obtain ⟨name, description, directives, content⟩ := definition
  rw [TypeContent.writtenTypes, List.forall_mem_append, List.forall_mem_flatMap,
    List.forall_mem_map] at hsame
  obtain ⟨hfields, hinputs⟩ := hsame
  have hfieldMap : content.fields.map (FieldDefinition.fieldBy refTo) =
      content.fields.map (FieldDefinition.fieldBy other) :=
    List.map_congr_left fun field hfield ↦ fieldBy_congr (hfields field hfield)
  have hinputMap : content.inputFields.map (InputDefinition.valueBy refTo) =
      content.inputFields.map (InputDefinition.valueBy other) := by
    refine List.map_congr_left fun input hinput ↦ ?_
    rw [InputDefinition.valueBy, InputDefinition.valueBy, hinputs input hinput]
  cases content with
  | scalar => rfl
  | object interfaces fields =>
    simp only [TypeContent.fields] at hfieldMap
    simp only [typeBy, bodyBy, hfieldMap, hnamed]
  | interface interfaces fields =>
    simp only [TypeContent.fields] at hfieldMap
    simp only [typeBy, bodyBy, hfieldMap, hnamed]
  | union members => simp only [typeBy, bodyBy, hnamed]
  | enum values => rfl
  | inputObject fields =>
    simp only [TypeContent.inputFields] at hinputMap
    simp only [typeBy, bodyBy, hinputMap]

end Agreement

/-- Where no written type has more wrappers than are followed, nothing of it is left out. -/
theorem schemaBy_followedRef {levels : ℕ}
    (hlength : ∀ type ∈ declared.writtenTypes, type.wrappers.length ≤ levels) :
    declared.schemaBy (declared.followedRef levels) = declared.schemaBy declared.fullRef := by
  have htypes : declared.types.map (declared.typeBy (declared.followedRef levels)) =
      declared.types.map (declared.typeBy declared.fullRef) := by
    refine List.map_congr_left fun definition hdefinition ↦ ?_
    refine declared.typeBy_congr (declared.followedRef_named levels) fun type htype ↦ ?_
    have hwritten : type ∈ declared.writtenTypes :=
      List.mem_flatMap.mpr ⟨definition, hdefinition, htype⟩
    exact declared.followedRef_eq_fullRef (hlength type hwritten)
  rw [schemaBy, htypes, schemaBy]

/-! ### Documents -/

/-- The schema that a client is told of. -/
def told : Schema :=
  declared.schemaBy (declared.followedRef followedWrappers)

theorem writesText_description {members : List (String × Json)} {description : Option String}
    (hholds : Holds members .description (textEntry description)) :
    WritesText members .description (description.getD "") := by
  cases description with
  | some text => exact Or.inl hholds
  | none => exact Or.inr ⟨rfl, Or.inl hholds⟩

theorem writesRef_referenceDocument (levels : ℕ) (type : TypeExpr) :
    WritesRef (declared.followedRef levels type) (declared.referenceDocument levels type) := by
  induction levels generalizing type with
  | zero =>
    cases type with
    | named name => exact .plain (.inl rfl) (.inl rfl) (.inr ⟨rfl, rfl⟩)
    | list inner => exact .plain (.inl rfl) (.inl (.inl rfl)) (.inr ⟨rfl, rfl⟩)
    | nonNull inner => exact .plain (.inl rfl) (.inl (.inl rfl)) (.inr ⟨rfl, rfl⟩)
  | succ levels ih =>
    cases type with
    | named name => exact .plain (.inl rfl) (.inl rfl) (.inl (.inl rfl))
    | list inner => exact .around (.inl rfl) (.inl (.inl rfl)) (.inl rfl) (ih inner)
    | nonNull inner => exact .around (.inl rfl) (.inl (.inl rfl)) (.inl rfl) (ih inner)

theorem writesRef_reference (type : TypeExpr) :
    WritesRef (declared.followedRef followedWrappers type) (declared.reference type) :=
  declared.writesRef_referenceDocument followedWrappers type

theorem forall₂_map_map {Written Value : Type} {writes : Value → Json → Prop}
    {value : Written → Value} {item : Written → Json}
    (hwrites : ∀ definition, writes (value definition) (item definition))
    (definitions : List Written) :
    List.Forall₂ writes (definitions.map value) (definitions.map item) := by
  rw [List.forall₂_map_left_iff, List.forall₂_map_right_iff, List.forall₂_same]
  exact fun definition _ ↦ hwrites definition

theorem writesRefs_references (names : List String) :
    List.Forall₂ WritesRef
      (names.map fun name ↦ declared.followedRef followedWrappers (.named name))
      (names.map fun name ↦ declared.reference (.named name)) :=
  forall₂_map_map (fun name ↦ declared.writesRef_reference (.named name)) names

theorem writesInputValue_inputDocument (definition : InputDefinition) :
    WritesInputValue (definition.valueBy (declared.followedRef followedWrappers))
      (declared.inputDocument definition) := by
  refine .intro (.inl rfl) (writesText_description (.inl rfl)) (.inl rfl)
    (declared.writesRef_reference definition.type) (.holds (.inl rfl) ?_)
  cases definition.default? with
  | some value => exact .nullableText _
  | none => exact .noText

theorem writesField_fieldDocument (definition : FieldDefinition) :
    WritesField (definition.fieldBy (declared.followedRef followedWrappers))
      (declared.fieldDocument definition) :=
  .intro (.inl rfl) (writesText_description (.inl rfl))
    (.inl ⟨_, .inl rfl, forall₂_map_map declared.writesInputValue_inputDocument _⟩) (.inl rfl)
    (declared.writesRef_reference definition.type) (.holds (.inl rfl) (.flag (.bool _)))
    (.lacks rfl ⟨rfl, rfl⟩)

theorem writesEnumValue_enumValueDocument (definition : ValueDefinition) :
    WritesEnumValue definition.enumValue (enumValueDocument definition) :=
  .intro (.inl rfl) (writesText_description (.inl rfl)) (.holds (.inl rfl) (.flag (.bool _)))
    (.lacks rfl ⟨rfl, rfl⟩)

/-- A type has entries for what is read for its kind. An interface has one more, the interfaces that
it implements in turn, which are not read. -/
theorem writesType_typeDocument (definition : TypeDefinition) :
    WritesType (declared.typeBy (declared.followedRef followedWrappers) definition)
      (declared.typeDocument definition) := by
  obtain ⟨name, description, directives, content⟩ := definition
  cases content with
  | scalar =>
    exact .intro (.inl rfl) (.inl rfl) (writesText_description (.inl rfl)) (.lacks rfl ⟨rfl, rfl⟩)
      (.lacks rfl ⟨rfl, rfl⟩) (.lacks rfl ⟨rfl, rfl⟩) (.lacks rfl ⟨rfl, rfl⟩)
      (.lacks rfl ⟨rfl, rfl⟩)
  | object interfaces fields =>
    exact .intro (.inl rfl) (.inl rfl) (writesText_description (.inl rfl))
      (.inl ⟨_, .inl rfl, forall₂_map_map declared.writesField_fieldDocument fields⟩)
      (.lacks rfl ⟨rfl, rfl⟩)
      (.inl ⟨_, .inl rfl, declared.writesRefs_references interfaces⟩)
      (.lacks rfl ⟨rfl, rfl⟩) (.lacks rfl ⟨rfl, rfl⟩)
  | interface interfaces fields =>
    have hinterfaces := (forall_conforms_iff (declared.writesRefs_references interfaces)
      fun _ _ ↦ WritesRef.conforms_iff_isShallow).mpr
        (List.forall_mem_map.mpr fun name _ ↦ declared.isShallow_followedRef (.named name))
    have hpossible := forall₂_map_map (fun type : TypeDefinition ↦
      declared.writesRef_reference (.named type.name)) (declared.objectsOf name)
    exact .intro (.inl rfl) (.inl rfl) (writesText_description (.inl rfl))
      (.inl ⟨_, .inl rfl, forall₂_map_map declared.writesField_fieldDocument fields⟩)
      (.lacks rfl ⟨rfl, rfl⟩)
      (.holds (.inl rfl) (.nullableList hinterfaces))
      (.lacks rfl ⟨rfl, rfl⟩) (.inl ⟨_, .inl rfl, hpossible⟩)
  | union members =>
    exact .intro (.inl rfl) (.inl rfl) (writesText_description (.inl rfl)) (.lacks rfl ⟨rfl, rfl⟩)
      (.lacks rfl ⟨rfl, rfl⟩) (.lacks rfl ⟨rfl, rfl⟩) (.lacks rfl ⟨rfl, rfl⟩)
      (.inl ⟨_, .inl rfl, declared.writesRefs_references members⟩)
  | enum values =>
    exact .intro (.inl rfl) (.inl rfl) (writesText_description (.inl rfl)) (.lacks rfl ⟨rfl, rfl⟩)
      (.lacks rfl ⟨rfl, rfl⟩) (.lacks rfl ⟨rfl, rfl⟩)
      (.inl ⟨_, .inl rfl, forall₂_map_map writesEnumValue_enumValueDocument values⟩)
      (.lacks rfl ⟨rfl, rfl⟩)
  | inputObject fields =>
    exact .intro (.inl rfl) (.inl rfl) (writesText_description (.inl rfl)) (.lacks rfl ⟨rfl, rfl⟩)
      (.inl ⟨_, .inl rfl, forall₂_map_map declared.writesInputValue_inputDocument fields⟩)
      (.lacks rfl ⟨rfl, rfl⟩) (.lacks rfl ⟨rfl, rfl⟩) (.lacks rfl ⟨rfl, rfl⟩)

theorem writesRoot_rootDocument {members : List (String × Json)} {key : Key}
    (operation : Operation) (hroot : Holds members key (declared.rootDocument operation)) :
    WritesRoot members key (declared.root? operation) := by
  rw [Declared.rootDocument] at hroot
  cases hname : declared.root? operation with
  | some name =>
    rw [hname] at hroot
    exact .declared hroot (.inl rfl)
  | none =>
    rw [hname] at hroot
    exact .absent (.inl hroot)

/-- The introspection document of a declared schema holds what a client is told. -/
theorem writesDocument_introspection : WritesDocument declared.told declared.introspection :=
  .intro (.inl rfl) (.inl rfl)
    (.intro (declared.writesRoot_rootDocument .query (.inl rfl))
      (declared.writesRoot_rootDocument .mutation (.inl rfl))
      (declared.writesRoot_rootDocument .subscription (.inl rfl)) (.inl rfl)
      (forall₂_map_map declared.writesType_typeDocument declared.types))

end Declared

end SchemaBindings.Sdl
