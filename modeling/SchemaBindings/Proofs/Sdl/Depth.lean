import SchemaBindings.Proofs.Introspection.EntryPoints
import SchemaBindings.Proofs.Introspection.Violation
import SchemaBindings.Proofs.Sdl.Names
import SchemaBindings.Proofs.Sdl.Refusal
import SchemaBindings.Proofs.Sdl.Told
import SchemaBindings.Proofs.Text.Utf8
/-!
# How many wrappers of a declared type are kept

The question that a client asks follows a reference through nine wrappers. A type that is written in
more of them is told as a wrapper around nothing, which breaks the rule on references
(`brokenLevel?_followedRef`), so a file with such a type does not decode. All other valid files
decode to what they declare, with all wrappers in order (`schemaOfFile_wrappers`).
-/

set_option autoImplicit false
set_option relaxedAutoImplicit false

namespace SchemaBindings

namespace Sdl

open Introspection

theorem TypeContent.isWrapper_kind (content : TypeContent) : content.kind.isWrapper = false := by
  cases content <;> rfl

namespace Declared

variable (declared : Declared)

/-! ### Broken references -/

theorem brokenLevel?_named (name : String) :
    brokenLevel? (.plain (declared.content name).kind (some name)) = none := by
  rw [brokenLevel?, TypeContent.isWrapper_kind]
  rfl

/-- A reference that is not followed to its name breaks the rule at the last wrapper. -/
theorem brokenLevel?_followedRef (levels : ℕ) (type : TypeExpr) :
    brokenLevel? (declared.followedRef levels type) =
      type.wrappers[levels]?.map Malformed.brokenWrapper := by
  induction levels generalizing type with
  | zero =>
    cases type with
    | named name => exact declared.brokenLevel?_named name
    | list inner => rfl
    | nonNull inner => rfl
  | succ levels ih =>
    cases type with
    | named name => exact declared.brokenLevel?_named name
    | list inner => exact ih inner
    | nonNull inner => exact ih inner

theorem flatMap_fieldBy (refTo : TypeExpr → TypeRef) (fields : List FieldDefinition) :
    ((fields.map (FieldDefinition.fieldBy refTo)).flatMap fun field ↦
        field.arguments.map InputValue.type ++ [field.type]) =
      (fields.flatMap fun field ↦
        field.arguments.map InputDefinition.type ++ [field.type]).map refTo := by
  rw [List.flatMap_map, List.map_flatMap]
  congr 1
  funext field
  rw [List.map_append, List.map_map, FieldDefinition.fieldBy, List.map_map, List.map_singleton]
  rfl

/-- Beside the written types a type refers only to names without wrappers. -/
theorem exists_references_typeBy (refTo : TypeExpr → TypeRef) (definition : TypeDefinition) :
    ∃ names : List String, (declared.typeBy refTo definition).references =
      definition.content.writtenTypes.map refTo ++ names.map fun name ↦ refTo (.named name) := by
  obtain ⟨name, description, directives, content⟩ := definition
  cases content with
  | scalar => exact ⟨[], rfl⟩
  | object interfaces fields =>
    refine ⟨interfaces, ?_⟩
    show List.flatMap _ _ ++ _ = _
    rw [flatMap_fieldBy, TypeContent.writtenTypes]
    simp only [TypeContent.fields, TypeContent.inputFields, List.map_nil, List.append_nil]
  | interface interfaces fields =>
    refine ⟨(declared.objectsOf name).map TypeDefinition.name, ?_⟩
    show List.flatMap _ _ ++ _ = _
    rw [flatMap_fieldBy, TypeContent.writtenTypes]
    simp only [TypeContent.fields, TypeContent.inputFields, List.map_nil, List.append_nil,
      List.map_map, Function.comp_def]
  | union members => exact ⟨members, rfl⟩
  | enum values => exact ⟨[], rfl⟩
  | inputObject fields =>
    refine ⟨[], ?_⟩
    show List.map _ (List.map _ _) = _
    rw [TypeContent.writtenTypes]
    simp only [TypeContent.fields, TypeContent.inputFields, List.flatMap_nil, List.nil_append,
      List.map_nil, List.append_nil, List.map_map, Function.comp_def, InputDefinition.valueBy]

theorem findSome?_references (levels : ℕ) (definition : TypeDefinition) :
    (declared.typeBy (declared.followedRef levels) definition).references.findSome? brokenLevel? =
      definition.content.writtenTypes.findSome? fun type ↦
        type.wrappers[levels]?.map Malformed.brokenWrapper := by
  obtain ⟨names, hnames⟩ := declared.exists_references_typeBy (declared.followedRef levels)
    definition
  have hnone : names.findSome? (brokenLevel? ∘ fun name ↦
      declared.followedRef levels (.named name)) = none := by
    rw [List.findSome?_eq_none_iff]
    intro name _
    rw [Function.comp_apply, declared.brokenLevel?_followedRef]
    rfl
  rw [hnames, List.findSome?_append, List.findSome?_map, List.findSome?_map, hnone, Option.or_none]
  congr 1
  funext type
  exact declared.brokenLevel?_followedRef levels type

/-- The introspection document of a schema has the right shape. -/
theorem conforms_introspection : Conforms (.record .document) declared.introspection := by
  refine declared.writesDocument_introspection.conforms_iff.mpr fun type htype ref href ↦ ?_
  obtain ⟨definition, -, rfl⟩ := List.mem_map.mp htype
  obtain ⟨names, hnames⟩ := declared.exists_references_typeBy
    (declared.followedRef followedWrappers) definition
  rw [hnames, List.mem_append, List.mem_map, List.mem_map] at href
  rcases href with ⟨type, -, rfl⟩ | ⟨name, -, rfl⟩
  · exact declared.isShallow_followedRef type
  · exact declared.isShallow_followedRef (.named name)

section Told

variable {declared}

theorem nodup_told (hnames : (declared.types.map TypeDefinition.name).Nodup) :
    (declared.told.types.map NamedType.name).Nodup := by
  rw [told, schemaBy, List.map_map]
  exact hnames

/-- The introspection document of a schema with distinct names is broken at the first written type
with more wrappers than are followed. -/
theorem failure?_schemaOf_introspection
    (hnames : (declared.types.map TypeDefinition.name).Nodup) :
    failure? (schemaOf declared.introspection) = declared.writtenTypes.findSome? fun type ↦
      type.wrappers[followedWrappers]?.map Malformed.brokenWrapper := by
  rw [declared.writesDocument_introspection.failure?_schemaOf (nodup_told hnames), told, schemaBy,
    List.findSome?_map, writtenTypes, findSome?_flatMap]
  congr 1
  funext definition
  exact declared.findSome?_references followedWrappers definition

theorem failure?_eq_none_iff_length (hnames : (declared.types.map TypeDefinition.name).Nodup) :
    failure? (schemaOf declared.introspection) = none ↔
      ∀ type ∈ declared.writtenTypes, type.wrappers.length ≤ followedWrappers := by
  simp only [failure?_schemaOf_introspection hnames, List.findSome?_eq_none_iff,
    Option.map_eq_none_iff, List.getElem?_eq_none_iff]

/-- Where no written type has more wrappers than are followed, the document of a schema gives the
schema. -/
theorem schemaOf_introspection (hnames : (declared.types.map TypeDefinition.name).Nodup)
    (hlength : ∀ type ∈ declared.writtenTypes, type.wrappers.length ≤ followedWrappers) :
    schemaOf declared.introspection = .ok (declared.schemaBy declared.fullRef) := by
  have hnone := (failure?_eq_none_iff_length hnames).mpr hlength
  rw [declared.writesDocument_introspection.failure?_schemaOf (nodup_told hnames)] at hnone
  rw [← declared.schemaBy_followedRef hlength]
  refine declared.writesDocument_introspection.schemaOf_eq (nodup_told hnames) ?_
  intro type htype ref href
  have hreferences := List.findSome?_eq_none_iff.mp hnone type htype
  exact (brokenLevel?_eq_none_iff ref).mp (List.findSome?_eq_none_iff.mp hreferences ref href)

/-- The document of a schema is broken at the first type that has more wrappers than are followed,
at the one behind those. -/
theorem schemaOf_introspection_eq_error (hnames : (declared.types.map TypeDefinition.name).Nodup)
    {front back : List TypeExpr} {type : TypeExpr} {kind : TypeKind}
    (hwritten : declared.writtenTypes = front ++ type :: back)
    (hfront : ∀ other ∈ front, other.wrappers.length ≤ followedWrappers)
    (hkind : type.wrappers[followedWrappers]? = some kind) :
    schemaOf declared.introspection = .error (.brokenWrapper kind) := by
  rw [← failure?_eq_some_iff, failure?_schemaOf_introspection hnames, List.findSome?_eq_some_iff]
  refine ⟨front, type, back, hwritten, ?_, fun other hother ↦ ?_⟩
  · exact congrArg (Option.map Malformed.brokenWrapper) hkind
  · exact Option.map_eq_none_iff.mpr (List.getElem?_eq_none (hfront other hother))

end Told

/-! ### Kept references -/

/-- A reference consists of all the wrappers of a written type, around the type that it names. -/
structure KeepsRef (ref : TypeRef) (type : TypeExpr) : Prop where
  wrappers_eq : ref.wrappers = type.wrappers
  underlying_eq : ref.underlying = .plain (declared.content type.base).kind (some type.base)
  wellFormed : ref.WellFormed

/-- An argument or input field under its name, with its type. -/
structure KeepsInput (value : InputValue) (definition : InputDefinition) : Prop where
  name_eq : value.name = definition.name
  keepsRef : declared.KeepsRef value.type definition.type

/-- A field under its name, with its type and its arguments in order. -/
structure KeepsField (field : Field) (definition : FieldDefinition) : Prop where
  name_eq : field.name = definition.name
  keepsRef : declared.KeepsRef field.type definition.type
  arguments : List.Forall₂ declared.KeepsInput field.arguments definition.arguments

/-- A type under its name, with its fields or its input fields in order. -/
structure KeepsType (type : NamedType) (definition : TypeDefinition) : Prop where
  name_eq : type.name = definition.name
  kind_eq : type.kind = definition.content.kind
  fields : List.Forall₂ declared.KeepsField (type.body.fields?.getD []) definition.content.fields
  inputFields : List.Forall₂ declared.KeepsInput (type.body.inputFields?.getD [])
    definition.content.inputFields

theorem wellFormed_fullRef (type : TypeExpr) : (declared.fullRef type).WellFormed := by
  rw [← brokenLevel?_eq_none_iff, ← declared.followedRef_eq_fullRef le_rfl,
    brokenLevel?_followedRef, List.getElem?_eq_none le_rfl]
  rfl

theorem keepsRef_fullRef (type : TypeExpr) : declared.KeepsRef (declared.fullRef type) type :=
  ⟨declared.wrappers_fullRef type, declared.underlying_fullRef type,
    declared.wellFormed_fullRef type⟩

theorem keepsInput_valueBy (definition : InputDefinition) :
    declared.KeepsInput (definition.valueBy declared.fullRef) definition :=
  ⟨rfl, declared.keepsRef_fullRef definition.type⟩

theorem forall₂_map_self {Value Written : Type} {keeps : Value → Written → Prop}
    {value : Written → Value} (hkeeps : ∀ definition, keeps (value definition) definition)
    (definitions : List Written) : List.Forall₂ keeps (definitions.map value) definitions := by
  rw [List.forall₂_map_left_iff, List.forall₂_same]
  exact fun definition _ ↦ hkeeps definition

theorem keepsField_fieldBy (definition : FieldDefinition) :
    declared.KeepsField (definition.fieldBy declared.fullRef) definition :=
  ⟨rfl, declared.keepsRef_fullRef definition.type,
    forall₂_map_self declared.keepsInput_valueBy definition.arguments⟩

theorem keepsType_typeBy (definition : TypeDefinition) :
    declared.KeepsType (declared.typeBy declared.fullRef definition) definition := by
  obtain ⟨name, description, directives, content⟩ := definition
  cases content with
  | scalar => exact ⟨rfl, rfl, .nil, .nil⟩
  | object interfaces fields =>
    exact ⟨rfl, rfl, forall₂_map_self declared.keepsField_fieldBy fields, .nil⟩
  | interface interfaces fields =>
    exact ⟨rfl, rfl, forall₂_map_self declared.keepsField_fieldBy fields, .nil⟩
  | union members => exact ⟨rfl, rfl, .nil, .nil⟩
  | enum values => exact ⟨rfl, rfl, .nil, .nil⟩
  | inputObject fields =>
    exact ⟨rfl, rfl, .nil, forall₂_map_self declared.keepsInput_valueBy fields⟩

end Declared

end Sdl

open Sdl

/-! ### Files -/

section Files

variable {path : String} {bytes : List UInt8} {text : List Char} {document : Document}

theorem schemaOfFile_of_declares (hpath : isSdlPath path = true)
    (htext : Text.decodeUtf8 bytes = .ok text) {declared : Declared}
    (hdeclares : Declares text declared) (hvalid : declared.problems = []) :
    schemaOfFile path bytes = ofMalformed (Introspection.schemaOf declared.introspection) := by
  have hintrospect : introspect text = .ok declared.introspection :=
    introspect_eq_ok_iff.mpr ⟨declared, hdeclares, hvalid, rfl⟩
  rw [schemaOfFile, textOfFile, htext]
  show schemaOfText path text = _
  rw [schemaOfText, if_pos hpath, schemaOfSdl, hintrospect]
  show ofMalformed (Introspection.decode _) = _
  rw [Introspection.decode_of_conforms declared.conforms_introspection]

/-- A file in the schema language with a valid document decodes exactly when no type in it has more
than nine wrappers. Then every type of the document is in the schema, with all wrappers of every
type that is written in it. Otherwise the error is about the tenth wrapper of the first type with
so many. -/
theorem schemaOfFile_wrappers (hpath : isSdlPath path = true)
    (htext : Text.decodeUtf8 bytes = .ok text) (hparse : Sdl.parse text = .ok document)
    (hrules : document.problems = []) (hbuilt : document.buildFault? = none)
    (hvalid : document.declared.problems = []) :
    ((∃ schema, schemaOfFile path bytes = .ok schema) ↔
      ∀ type ∈ document.declared.writtenTypes, type.wrappers.length ≤ 9) ∧
    (∀ schema, schemaOfFile path bytes = .ok schema → ∀ definition ∈ document.declaredTypes,
      ∃ type ∈ schema.types, document.declared.KeepsType type definition) ∧
    ∀ front type back kind, document.declared.writtenTypes = front ++ type :: back →
      (∀ other ∈ front, other.wrappers.length ≤ 9) → type.wrappers[9]? = some kind →
      schemaOfFile path bytes = .error (.malformed (.brokenWrapper kind)) := by
  have hnames := nodup_name_declared hrules
  have hfile := schemaOfFile_of_declares hpath htext ⟨document, hparse, hrules, hbuilt, rfl⟩ hvalid
  have hsome : (∃ schema, schemaOfFile path bytes = .ok schema) ↔
      ∀ type ∈ document.declared.writtenTypes, type.wrappers.length ≤ 9 := by
    simp only [hfile, ofMalformed_eq_ok_iff]
    rw [← failure?_eq_none_iff]
    exact Declared.failure?_eq_none_iff_length hnames
  refine ⟨hsome, ?_, ?_⟩
  · intro schema hschema definition hdefinition
    have hlength := hsome.mp ⟨schema, hschema⟩
    rw [hfile, Declared.schemaOf_introspection hnames hlength] at hschema
    cases hschema
    refine ⟨_, List.mem_map_of_mem (mem_declared_types hrules hdefinition), ?_⟩
    exact document.declared.keepsType_typeBy definition
  · intro front type back kind hwritten hfront hkind
    rw [hfile, Declared.schemaOf_introspection_eq_error hnames hwritten hfront hkind]
    rfl

end Files

/-! ### Nine wrappers and ten -/

/-- A text is a valid document that declares a query type with one field, and no written type but
that of the field has more than nine wrappers. -/
def declaresChain (text : List Char) (type : TypeExpr) : Bool :=
  (Sdl.parse text).toOption.any fun document ↦
    document.problems.isEmpty && document.buildFault?.isNone &&
      document.declared.problems.isEmpty &&
      document.declared.writtenTypes.head? = some type &&
      document.declared.writtenTypes.tail.all (fun other ↦ other.wrappers.length ≤ 9) &&
      document.declaredTypes.map (fun definition ↦
        (definition.name, definition.content.fields.map fun field ↦ (field.name, field.type))) =
        [("Query", [("chain", type)])]

theorem of_declaresChain {text : List Char} {type : TypeExpr}
    (hchecked : declaresChain text type = true) :
    ∃ document others, Sdl.parse text = .ok document ∧ document.problems = [] ∧
      document.buildFault? = none ∧ document.declared.problems = [] ∧
      document.declared.writtenTypes = type :: others ∧
      (∀ other ∈ others, other.wrappers.length ≤ 9) ∧
      ∃ definition ∈ document.declaredTypes, definition.name = "Query" ∧
        ∃ field, definition.content.fields = [field] ∧ field.name = "chain" ∧
          field.type = type := by
  obtain ⟨document, hparse, hdocument⟩ := (Option.any_eq_true _ _).mp hchecked
  simp only [Bool.and_eq_true, List.isEmpty_iff, Option.isNone_iff_eq_none, decide_eq_true_eq,
    List.all_eq_true] at hdocument
  obtain ⟨⟨⟨⟨⟨hrules, hbuilt⟩, hvalid⟩, hhead⟩, htail⟩, htypes⟩ := hdocument
  obtain ⟨others, hwritten⟩ := List.head?_eq_some_iff.mp hhead
  rw [hwritten, List.tail_cons] at htail
  obtain ⟨definition, hdefinition, hshown⟩ := List.map_eq_singleton_iff.mp htypes
  rw [Prod.mk.injEq] at hshown
  obtain ⟨field, hfield, hpair⟩ := List.map_eq_singleton_iff.mp hshown.2
  rw [Prod.mk.injEq] at hpair
  refine ⟨document, others, toOption_eq_some_iff.mp hparse, hrules, hbuilt, hvalid, hwritten, htail,
    definition, ?_, hshown.1, field, hfield, hpair⟩
  rw [hdefinition]
  exact List.mem_singleton_self definition

/-- A field whose type is the query type in nine wrappers. -/
def nineText : List Char :=
  "type Query\x7bchain:[[[[Query!]!]!]!]!\x7d".toList

/-- The type of the field. -/
def nineType : TypeExpr :=
  .nonNull (.list (.nonNull (.list (.nonNull (.list (.nonNull (.list
    (.nonNull (.named "Query")))))))))

theorem declaresChain_nineText : declaresChain nineText nineType = true := by
  unfold nineText
  rw [String.toList_ofList]
  decide +kernel

theorem schemaOfFile_wrappers_nineText :
    ∃ schema, schemaOfFile "schema.graphql" (Text.utf8 nineText) = .ok schema ∧
      ∃ type ∈ schema.types, type.name = "Query" ∧
        ∃ field, type.body.fields?.getD [] = [field] ∧ field.name = "chain" ∧
          field.type.wrappers = nineType.wrappers ∧
          field.type.underlying.name? = some "Query" := by
  obtain ⟨document, others, hparse, hrules, hbuilt, hvalid, hwritten, hothers, definition,
    hdefinition, hname, field, hfields, hfield, htype⟩ := of_declaresChain declaresChain_nineText
  have hpath : isSdlPath "schema.graphql" = true := by decide
  obtain ⟨hdecodes, hkeeps, -⟩ := schemaOfFile_wrappers hpath (Text.decodeUtf8_utf8 nineText) hparse
    hrules hbuilt hvalid
  have hlength : ∀ type ∈ document.declared.writtenTypes, type.wrappers.length ≤ 9 := by
    rw [hwritten]
    exact List.forall_mem_cons.mpr ⟨by decide, hothers⟩
  obtain ⟨schema, hschema⟩ := hdecodes.mpr hlength
  obtain ⟨type, hmem, htypeKept⟩ := hkeeps schema hschema definition hdefinition
  have hfieldsKept := htypeKept.fields
  rw [hfields, List.forall₂_cons_right_iff] at hfieldsKept
  obtain ⟨kept, rest, hkept, hrest, hshown⟩ := hfieldsKept
  rw [List.forall₂_nil_right_iff] at hrest
  refine ⟨schema, hschema, type, hmem, htypeKept.name_eq.trans hname, kept, ?_,
    hkept.name_eq.trans hfield, ?_, ?_⟩
  · rw [hshown, hrest]
  · rw [hkept.keepsRef.wrappers_eq, htype]
  · rw [hkept.keepsRef.underlying_eq, htype]
    rfl

/-- A field whose type is a list of the former. -/
def tenText : List Char :=
  "type Query\x7bchain:[[[[[Query!]!]!]!]!]\x7d".toList

theorem declaresChain_tenText : declaresChain tenText (.list nineType) = true := by
  unfold tenText
  rw [String.toList_ofList]
  decide +kernel

/-- There is a valid file whose types are not kept: its one field has a type with ten wrappers, and
it does not decode. -/
theorem schemaOfFile_tenText :
    isSdlPath "schema.graphql" = true ∧
      (∃ document, Sdl.parse tenText = .ok document ∧ document.problems = [] ∧
        document.buildFault? = none ∧ document.declared.problems = [] ∧
        ∃ definition ∈ document.declaredTypes, ∃ field,
          definition.content.fields = [field] ∧ field.type = .list nineType) ∧
      schemaOfFile "schema.graphql" (Text.utf8 tenText) =
        .error (.malformed (.brokenWrapper .nonNull)) := by
  obtain ⟨document, others, hparse, hrules, hbuilt, hvalid, hwritten, -, definition,
    hdefinition, -, field, hfields, -, htype⟩ := of_declaresChain declaresChain_tenText
  have hpath : isSdlPath "schema.graphql" = true := by decide
  refine ⟨hpath, ⟨document, hparse, hrules, hbuilt, hvalid, definition, hdefinition, field,
    hfields, htype⟩, ?_⟩
  have hfirst : document.declared.writtenTypes = [] ++ .list nineType :: others := hwritten
  have herror := Declared.schemaOf_introspection_eq_error (nodup_name_declared hrules) hfirst
    (List.forall_mem_nil _) rfl
  rw [schemaOfFile_of_declares hpath (Text.decodeUtf8_utf8 tenText)
    ⟨document, hparse, hrules, hbuilt, rfl⟩ hvalid, herror]
  rfl

end SchemaBindings
