import SchemaBindings.Input
import SchemaBindings.Proofs.Introspection.Decoded
import SchemaBindings.Proofs.Schema.Reference
/-!
# Documents of a schema

A schema can be written as a document in many ways. `WritesDocument schema document` says that a
document is one of them: each object holds the entries of its part of the schema, under either
spelling of their keys (`Holds`), and beside them anything that no model reads. What is free is said
where it is free. An empty description or list may be null or left out (`WritesText`, `WritesList`),
an absent root too (`WritesRoot`), the payloads that the kind of a type does not use and the
deprecation and default entries are any of the right form (`WritesPayload`, `Fills`).

One pair of lemmas for each kind of object carries the result: reading an object that writes a value
gives the value back, and the object conforms to its model exactly when the guard against endless
references lets the references in it through (`IsShallow`). Both are by induction on the reference
where references nest, and item by item along the lists. `schemaOfDocument_eq_of_writes` puts them
together: a document of a schema whose type names are distinct and whose references are well formed
decodes to that schema, so nothing of it gets lost, unless it is refused for a reference with too
many wrappers.
-/

set_option autoImplicit false
set_option relaxedAutoImplicit false

namespace SchemaBindings

/-! ### The payload of a type -/

namespace TypeBody

/-- The fields of a body whose kind has fields. -/
def fields? : TypeBody → Option (List Field)
  | object fields _ | interface fields _ => some fields
  | scalar | union _ | enum _ | inputObject _ => none

/-- The interfaces of an object. -/
def interfaces? : TypeBody → Option (List TypeRef)
  | object _ interfaces => some interfaces
  | scalar | interface _ _ | union _ | enum _ | inputObject _ => none

/-- The possible types of an interface or a union. -/
def possibleTypes? : TypeBody → Option (List TypeRef)
  | interface _ possibleTypes | union possibleTypes => some possibleTypes
  | scalar | object _ _ | enum _ | inputObject _ => none

/-- The values of an enum. -/
def values? : TypeBody → Option (List EnumValue)
  | enum values => some values
  | scalar | object _ _ | interface _ _ | union _ | inputObject _ => none

/-- The fields of an input object. -/
def inputFields? : TypeBody → Option (List InputValue)
  | inputObject inputFields => some inputFields
  | scalar | object _ _ | interface _ _ | union _ | enum _ => none

end TypeBody

theorem forall_mem_fields_references {holds : TypeRef → Prop} {fields : List Field} :
    (∀ ref ∈ fields.flatMap fun field ↦ field.arguments.map InputValue.type ++ [field.type],
        holds ref) ↔
      ∀ field ∈ fields, (∀ argument ∈ field.arguments, holds argument.type) ∧ holds field.type := by
  simp only [List.forall_mem_flatMap, List.forall_mem_append, List.forall_mem_map,
    List.forall_mem_singleton]

/-- The references of a type are those of the parts that its kind has. -/
theorem NamedType.forall_mem_references_iff {holds : TypeRef → Prop} {type : NamedType} :
    (∀ ref ∈ type.references, holds ref) ↔
      (∀ field ∈ type.body.fields?.getD [],
        (∀ argument ∈ field.arguments, holds argument.type) ∧ holds field.type) ∧
      (∀ value ∈ type.body.inputFields?.getD [], holds value.type) ∧
      (∀ ref ∈ type.body.interfaces?.getD [], holds ref) ∧
      ∀ ref ∈ type.body.possibleTypes?.getD [], holds ref := by
  obtain ⟨name, description, body⟩ := type
  cases body with
  | object fields interfaces =>
    rw [NamedType.references, List.forall_mem_append, forall_mem_fields_references]
    simp [TypeBody.fields?, TypeBody.inputFields?, TypeBody.interfaces?, TypeBody.possibleTypes?]
  | interface fields possibleTypes =>
    rw [NamedType.references, List.forall_mem_append, forall_mem_fields_references]
    simp [TypeBody.fields?, TypeBody.inputFields?, TypeBody.interfaces?, TypeBody.possibleTypes?]
  | _ =>
    simp [NamedType.references, TypeBody.fields?, TypeBody.inputFields?, TypeBody.interfaces?,
      TypeBody.possibleTypes?]

namespace Introspection

/-! ### Entries -/

/-- Null stands under a key, or nothing does. -/
def Omits (members : List (String × Json)) (key : Key) : Prop :=
  Holds members key .null ∨ Lacks members key

/-- A text stands under a key; an empty one may be left out. -/
def WritesText (members : List (String × Json)) (key : Key) (text : String) : Prop :=
  Holds members key (.str text) ∨ text = "" ∧ Omits members key

/-- A name stands under a key if there is one. -/
def WritesName (members : List (String × Json)) (key : Key) : Option String → Prop
  | some name => Holds members key (.str name)
  | none => Omits members key

/-- A list stands under a key, one item for each value; an empty one may be left out. -/
def WritesList {Value : Type} (writes : Value → Json → Prop) (members : List (String × Json))
    (key : Key) (values : List Value) : Prop :=
  (∃ items, Holds members key (.arr items) ∧ List.Forall₂ writes values items) ∨
    values = [] ∧ Omits members key

/-- The payload of a type stands under its key. Under a key that the kind of the type does not use
stands any list of the right model, or none. -/
def WritesPayload {Value : Type} (writes : Value → Json → Prop) (model : Model)
    (members : List (String × Json)) (key : Key) : Option (List Value) → Prop
  | some values => WritesList writes members key values
  | none => Fills (.spare key (.nullableList model)) members

/-! ### Objects -/

/-- An object that writes a reference, level by level. -/
inductive WritesRef : TypeRef → Json → Prop
  | plain {kind : TypeKind} {name : Option String} {members : List (String × Json)}
      (hkind : Holds members .kind (.str kind.label)) (hname : WritesName members .ownName name)
      (hinner : Omits members .inner) : WritesRef (.plain kind name) (.obj members)
  | around {kind : TypeKind} {name : Option String} {inner : TypeRef}
      {members : List (String × Json)} {json : Json}
      (hkind : Holds members .kind (.str kind.label)) (hname : WritesName members .ownName name)
      (hinner : Holds members .inner json) (hwrites : WritesRef inner json) :
      WritesRef (.around kind name inner) (.obj members)

/-- An object whose entries write an argument or input field. -/
inductive WritesInputValue (value : InputValue) : Json → Prop
  | intro {members : List (String × Json)} {json : Json}
      (hname : Holds members .ownName (.str value.name))
      (hdescription : WritesText members .description value.description)
      (htype : Holds members .type json) (hwrites : WritesRef value.type json)
      (hdefault : Fills (.spare .defaultValue .nullableText) members) :
      WritesInputValue value (.obj members)

/-- An object whose entries write a field. -/
inductive WritesField (field : Field) : Json → Prop
  | intro {members : List (String × Json)} {json : Json}
      (hname : Holds members .ownName (.str field.name))
      (hdescription : WritesText members .description field.description)
      (harguments : WritesList WritesInputValue members .arguments field.arguments)
      (htype : Holds members .type json) (hwrites : WritesRef field.type json)
      (hflag : Fills (.spare .isDeprecated .flag) members)
      (hreason : Fills (.spare .deprecationReason .nullableText) members) :
      WritesField field (.obj members)

/-- An object whose entries write a value of an enum. -/
inductive WritesEnumValue (value : EnumValue) : Json → Prop
  | intro {members : List (String × Json)}
      (hname : Holds members .ownName (.str value.name))
      (hdescription : WritesText members .description value.description)
      (hflag : Fills (.spare .isDeprecated .flag) members)
      (hreason : Fills (.spare .deprecationReason .nullableText) members) :
      WritesEnumValue value (.obj members)

/-- An object whose entries write a type. -/
inductive WritesType (type : NamedType) : Json → Prop
  | intro {members : List (String × Json)}
      (hkind : Holds members .kind (.str type.kind.label))
      (hname : Holds members .ownName (.str type.name))
      (hdescription : WritesText members .description type.description)
      (hfields : WritesPayload WritesField .field members .fields type.body.fields?)
      (hinputFields :
        WritesPayload WritesInputValue .inputValue members .inputFields type.body.inputFields?)
      (hinterfaces :
        WritesPayload WritesRef (.typeRef 0) members .interfaces type.body.interfaces?)
      (henumValues :
        WritesPayload WritesEnumValue .enumValue members .enumValues type.body.values?)
      (hpossibleTypes :
        WritesPayload WritesRef (.typeRef 0) members .possibleTypes type.body.possibleTypes?) :
      WritesType type (.obj members)

/-- The name of a root type, if it is declared, stands in an object under a key. -/
inductive WritesRoot (members : List (String × Json)) (key : Key) : Option String → Prop
  | declared {name : String} {inside : List (String × Json)}
      (hroot : Holds members key (.obj inside)) (hname : Holds inside .ownName (.str name)) :
      WritesRoot members key (some name)
  | absent (homits : Omits members key) : WritesRoot members key none

/-- An object that writes a schema. -/
inductive WritesSchema (schema : Schema) : Json → Prop
  | intro {members : List (String × Json)} {items : List Json}
      (hquery : WritesRoot members .query schema.query)
      (hmutation : WritesRoot members .mutation schema.mutation)
      (hsubscription : WritesRoot members .subscription schema.subscription)
      (htypes : Holds members .types (.arr items))
      (hwrites : List.Forall₂ WritesType schema.types items) : WritesSchema schema (.obj members)

/-- A document that holds a schema. -/
inductive WritesDocument (schema : Schema) : Json → Prop
  | intro {members inside : List (String × Json)} {json : Json}
      (hdata : Holds members .data (.obj inside)) (hschema : Holds inside .schema json)
      (hwrites : WritesSchema schema json) : WritesDocument schema (.obj members)

/-! ### Reading entries -/

section Entries

variable {members : List (String × Json)} {key : Key}

theorem Holds.value?_eq {value : Json} (hholds : Holds members key value) :
    key.value? (.obj members) = some value :=
  Key.value?_eq_some_iff.mpr hholds

/-- The value under a key fills an entry when it conforms to the rule. -/
theorem Holds.fills_iff {value : Json} (hholds : Holds members key value) (entry : Entry)
    (hkey : entry.key = key) : Fills entry members ↔ Conforms entry.rule value := by
  subst hkey
  refine ⟨fun hfills ↦ ?_, .holds hholds⟩
  cases hfills with
  | holds hother hvalue => exact hholds.unique hother ▸ hvalue
  | lacks hspare hlacks => exact absurd hlacks hholds.not_lacks

/-- What is left out reads as null or as nothing. -/
theorem Omits.value?_eq (homits : Omits members key) :
    key.value? (.obj members) = some .null ∨ key.value? (.obj members) = none :=
  homits.imp Holds.value?_eq Key.value?_eq_none_iff.mpr

/-- What is left out fills an entry that takes null. -/
theorem Omits.fills (homits : Omits members key) {rule : Rule} (hrule : Conforms rule .null) :
    Fills (.spare key rule) members := by
  rcases homits with hnull | hlacks
  · exact .holds hnull hrule
  · exact .lacks rfl hlacks

theorem WritesText.textOf_eq {text : String} (hwrites : WritesText members key text) :
    textOf (key.value? (.obj members)) = text := by
  rcases hwrites with hholds | ⟨rfl, homits⟩
  · rw [hholds.value?_eq, textOf]
  · rcases homits.value?_eq with hnull | hnone
    · rw [hnull]; rfl
    · rw [hnone]; rfl

theorem WritesText.fills {text : String} (hwrites : WritesText members key text) :
    Fills (.spare key .nullableText) members := by
  rcases hwrites with hholds | ⟨-, homits⟩
  · exact .holds hholds (.nullableText text)
  · exact homits.fills .noText

theorem WritesName.textOf?_eq {name : Option String} (hwrites : WritesName members key name) :
    textOf? (key.value? (.obj members)) = name := by
  cases name with
  | some name => rw [Holds.value?_eq hwrites, textOf?]
  | none =>
    rcases Omits.value?_eq hwrites with hnull | hnone
    · rw [hnull]; rfl
    · rw [hnone]; rfl

theorem WritesName.fills {name : Option String} (hwrites : WritesName members key name) :
    Fills (.spare key .nullableText) members := by
  cases name with
  | some name => exact .holds hwrites (.nullableText name)
  | none => exact Omits.fills hwrites .noText

theorem kindOf_eq {kind : TypeKind} (hkind : Holds members key (.str kind.label)) :
    kindOf (key.value? (.obj members)) = kind := by
  rw [hkind.value?_eq, kindOf, textOf, ofLabel?_label]
  rfl

section Lists

variable {Value : Type} {writes : Value → Json → Prop} {values : List Value} {model : Model}

/-- Items that are read one by one give the values they write. -/
theorem map_eq_of_forall₂ {read : Json → Value} {items : List Json}
    (hitems : List.Forall₂ writes values items)
    (hread : ∀ value json, writes value json → read json = value) : items.map read = values := by
  induction hitems with
  | nil => rfl
  | cons hwrites _ ih => rw [List.map_cons, hread _ _ hwrites, ih]

theorem WritesList.map_itemsOf_eq {read : Json → Value}
    (hwrites : WritesList writes members key values)
    (hread : ∀ value json, writes value json → read json = value) :
    (itemsOf (key.value? (.obj members))).map read = values := by
  rcases hwrites with ⟨items, hholds, hitems⟩ | ⟨rfl, homits⟩
  · rw [hholds.value?_eq, itemsOf, map_eq_of_forall₂ hitems hread]
  · rcases homits.value?_eq with hnull | hnone
    · rw [hnull]; rfl
    · rw [hnone]; rfl

theorem WritesPayload.map_itemsOf_eq {read : Json → Value}
    (hwrites : WritesPayload writes model members key (some values))
    (hread : ∀ value json, writes value json → read json = value) :
    (itemsOf (key.value? (.obj members))).map read = values :=
  WritesList.map_itemsOf_eq hwrites hread

variable {shallow : Value → Prop}

theorem forall_conforms_iff {items : List Json} (hitems : List.Forall₂ writes values items)
    (hconforms : ∀ value json, writes value json →
      (Conforms (.record model) json ↔ shallow value)) :
    (∀ item ∈ items, Conforms (.record model) item) ↔ ∀ value ∈ values, shallow value := by
  induction hitems with
  | nil => exact iff_of_true (List.forall_mem_nil _) (List.forall_mem_nil _)
  | cons hwrites _ ih =>
    rw [List.forall_mem_cons, List.forall_mem_cons, hconforms _ _ hwrites, ih]

theorem WritesList.fills_iff (hwrites : WritesList writes members key values)
    (hconforms : ∀ value json, writes value json →
      (Conforms (.record model) json ↔ shallow value)) :
    Fills (.spare key (.nullableList model)) members ↔ ∀ value ∈ values, shallow value := by
  rcases hwrites with ⟨items, hholds, hitems⟩ | ⟨rfl, homits⟩
  · rw [hholds.fills_iff _ rfl, ← forall_conforms_iff hitems hconforms]
    exact conforms_arr_iff rfl rfl
  · exact iff_of_true (homits.fills (.noList model)) (List.forall_mem_nil _)

/-- Under a key that the kind of the type does not use, nothing is left to ask. -/
theorem WritesPayload.fills_iff {payload : Option (List Value)}
    (hwrites : WritesPayload writes model members key payload)
    (hconforms : ∀ value json, writes value json →
      (Conforms (.record model) json ↔ shallow value)) :
    Fills (.spare key (.nullableList model)) members ↔
      ∀ value ∈ payload.getD [], shallow value := by
  cases payload with
  | some values => exact WritesList.fills_iff hwrites hconforms
  | none => exact iff_of_true hwrites (List.forall_mem_nil _)

end Lists

end Entries

/-! ### Reading references -/

theorem WritesRef.exists_eq_obj {ref : TypeRef} {json : Json} (hwrites : WritesRef ref json) :
    ∃ members, json = .obj members := by
  cases hwrites with
  | plain => exact ⟨_, rfl⟩
  | around => exact ⟨_, rfl⟩

/-- An object that writes a reference reads as that reference, by induction on its levels. -/
theorem WritesRef.typeRefOf_eq {ref : TypeRef} {json : Json} (hwrites : WritesRef ref json) :
    typeRefOf json = ref := by
  induction hwrites with
  | plain hkind hname hinner =>
    rw [typeRefOf, kindOf_eq hkind, hname.textOf?_eq]
    split
    · next inside hinside =>
      rcases hinner.value?_eq with hnull | hnone
      · rw [hnull] at hinside
        cases hinside
      · rw [hnone] at hinside
        cases hinside
    · rfl
  | around hkind hname hinner hwrites ih =>
    rw [typeRefOf, kindOf_eq hkind, hname.textOf?_eq]
    split
    · next inside hinside =>
      rw [hinner.value?_eq, Option.some.injEq] at hinside
      rw [← hinside, ih]
    · next hother =>
      obtain ⟨inside, rfl⟩ := hwrites.exists_eq_obj
      exact absurd hinner.value?_eq (hother inside)

/-- An object is a record of a model when its members fill every entry, unless it is too deep. -/
theorem conforms_record_iff {model : Model} {members : List (String × Json)} :
    Conforms (.record model) (.obj members) ↔
      model.isTooDeep = false ∧ model.entries.Forall (Fills · members) := by
  rw [List.forall_iff_forall_mem]
  refine ⟨fun hconforms ↦ ?_, fun hboth ↦ .record hboth.1 hboth.2⟩
  cases hconforms with
  | record hdepth hentries => exact ⟨hdepth, hentries⟩

theorem conforms_nullableRecord_iff {model : Model} {members : List (String × Json)} :
    Conforms (.nullableRecord model) (.obj members) ↔ Conforms (.record model) (.obj members) := by
  constructor
  · intro hconforms
    cases hconforms with
    | nullableRecord hdepth hentries => exact .record hdepth hentries
  · intro hconforms
    cases hconforms with
    | record hdepth hentries => exact .nullableRecord hdepth hentries

/-- An object whose members fill every entry of a model is a record of the model. -/
theorem Conforms.record_of_forall {model : Model} (hdepth : model.isTooDeep = false)
    {members : List (String × Json)} (hentries : model.entries.Forall (Fills · members)) :
    Conforms (.record model) (.obj members) :=
  conforms_record_iff.mpr ⟨hdepth, hentries⟩

theorem isTooDeep_typeRef_eq_false_iff {level : Nat} :
    (Model.typeRef level).isTooDeep = false ↔ level ≤ maxLevel := by
  rw [Model.isTooDeep, decide_eq_false_iff_not, not_lt]

/-- An object that writes a reference conforms when its innermost level is not too deep, by
induction on its levels. -/
theorem WritesRef.conforms_iff {ref : TypeRef} {json : Json} (hwrites : WritesRef ref json)
    (level : Nat) :
    Conforms (.record (.typeRef level)) json ↔ level + ref.wrappers.length ≤ maxLevel := by
  induction hwrites generalizing level with
  | plain hkind hname hinner =>
    rw [conforms_record_iff, isTooDeep_typeRef_eq_false_iff]
    exact and_iff_left ⟨.holds hkind (.kind _), hname.fills, hinner.fills (.noRecord _)⟩
  | @around kind name inner members json hkind hname hinner hwrites ih =>
    obtain ⟨inside, rfl⟩ := hwrites.exists_eq_obj
    have hfills : Fills (.spare .inner (.nullableRecord (.typeRef (level + 1)))) members ↔
        level + 1 + inner.wrappers.length ≤ maxLevel := by
      rw [hinner.fills_iff _ rfl, ← ih (level + 1)]
      exact conforms_nullableRecord_iff
    have hlength : (TypeRef.around kind name inner).wrappers.length =
        inner.wrappers.length + 1 := rfl
    rw [conforms_record_iff, isTooDeep_typeRef_eq_false_iff, hlength]
    constructor
    · rintro ⟨-, -, -, hentry⟩
      have hinside := hfills.mp hentry
      omega
    · intro hlevels
      exact ⟨by omega, .holds hkind (.kind _), hname.fills, hfills.mpr (by omega)⟩

/-- The guard against endless references lets a reference through. -/
def IsShallow (ref : TypeRef) : Prop :=
  ref.wrappers.length ≤ maxLevel

theorem WritesRef.conforms_iff_isShallow {ref : TypeRef} {json : Json}
    (hwrites : WritesRef ref json) :
    Conforms (.record (.typeRef 0)) json ↔ IsShallow ref := by
  rw [hwrites.conforms_iff, Nat.zero_add, IsShallow]

/-! ### Reading fields and values -/

theorem WritesInputValue.inputValueOf_eq {value : InputValue} {json : Json}
    (hwrites : WritesInputValue value json) : inputValueOf json = value := by
  obtain ⟨hname, hdescription, htype, href, -⟩ := hwrites
  rw [inputValueOf, typeOf, hname.value?_eq, hdescription.textOf_eq, htype.value?_eq,
    Option.getD_some, href.typeRefOf_eq, textOf]

theorem WritesInputValue.conforms_iff {value : InputValue} {json : Json}
    (hwrites : WritesInputValue value json) :
    Conforms (.record .inputValue) json ↔ IsShallow value.type := by
  obtain ⟨hname, hdescription, htype, href, hdefault⟩ := hwrites
  have htype := htype.fills_iff (.needed .type (.record (.typeRef 0))) rfl
  rw [conforms_record_iff, ← href.conforms_iff_isShallow]
  constructor
  · rintro ⟨-, -, -, hfills, -⟩
    exact htype.mp hfills
  · intro hconforms
    exact ⟨rfl, .holds hname (.text _), hdescription.fills, htype.mpr hconforms, hdefault⟩

theorem WritesField.fieldOf_eq {field : Field} {json : Json} (hwrites : WritesField field json) :
    fieldOf json = field := by
  obtain ⟨hname, hdescription, harguments, htype, href, -, -⟩ := hwrites
  rw [fieldOf, typeOf, hname.value?_eq, hdescription.textOf_eq, htype.value?_eq,
    Option.getD_some, href.typeRefOf_eq, textOf,
    harguments.map_itemsOf_eq fun _ _ ↦ WritesInputValue.inputValueOf_eq]

theorem WritesField.conforms_iff {field : Field} {json : Json} (hwrites : WritesField field json) :
    Conforms (.record .field) json ↔
      (∀ argument ∈ field.arguments, IsShallow argument.type) ∧ IsShallow field.type := by
  obtain ⟨hname, hdescription, harguments, htype, href, hflag, hreason⟩ := hwrites
  have harguments := harguments.fills_iff fun _ _ ↦ WritesInputValue.conforms_iff
  have htype := htype.fills_iff (.needed .type (.record (.typeRef 0))) rfl
  rw [conforms_record_iff, ← href.conforms_iff_isShallow, ← harguments]
  constructor
  · rintro ⟨-, -, -, hinputs, hfills, -⟩
    exact ⟨hinputs, htype.mp hfills⟩
  · rintro ⟨hinputs, hconforms⟩
    exact ⟨rfl, .holds hname (.text _), hdescription.fills, hinputs, htype.mpr hconforms, hflag,
      hreason⟩

theorem WritesEnumValue.enumValueOf_eq {value : EnumValue} {json : Json}
    (hwrites : WritesEnumValue value json) : enumValueOf json = value := by
  obtain ⟨hname, hdescription, -, -⟩ := hwrites
  rw [enumValueOf, hname.value?_eq, hdescription.textOf_eq, textOf]

theorem WritesEnumValue.conforms {value : EnumValue} {json : Json}
    (hwrites : WritesEnumValue value json) : Conforms (.record .enumValue) json := by
  obtain ⟨hname, hdescription, hflag, hreason⟩ := hwrites
  exact .record_of_forall rfl ⟨.holds hname (.text _), hdescription.fills, hflag, hreason⟩

/-! ### Reading types -/

/-- The payload of a type is read under the keys that its kind uses. -/
theorem WritesType.bodyOf?_eq {type : NamedType} {json : Json} (hwrites : WritesType type json) :
    bodyOf? json type.kind = some type.body := by
  obtain ⟨-, -, -, hfields, hinputFields, hinterfaces, henumValues, hpossibleTypes⟩ := hwrites
  obtain ⟨name, description, body⟩ := type
  cases body with
  | scalar => rfl
  | object fields interfaces =>
    change some _ = _
    rw [hfields.map_itemsOf_eq fun _ _ ↦ WritesField.fieldOf_eq,
      hinterfaces.map_itemsOf_eq fun _ _ ↦ WritesRef.typeRefOf_eq]
  | interface fields possibleTypes =>
    change some _ = _
    rw [hfields.map_itemsOf_eq fun _ _ ↦ WritesField.fieldOf_eq,
      hpossibleTypes.map_itemsOf_eq fun _ _ ↦ WritesRef.typeRefOf_eq]
  | union possibleTypes =>
    change some _ = _
    rw [hpossibleTypes.map_itemsOf_eq fun _ _ ↦ WritesRef.typeRefOf_eq]
  | enum values =>
    change some _ = _
    rw [henumValues.map_itemsOf_eq fun _ _ ↦ WritesEnumValue.enumValueOf_eq]
  | inputObject inputFields =>
    change some _ = _
    rw [hinputFields.map_itemsOf_eq fun _ _ ↦ WritesInputValue.inputValueOf_eq]

/-- A type whose references obey the rule on wrappers and names is read from what writes it. -/
theorem WritesType.namedTypeOf_eq {type : NamedType} {json : Json} (hwrites : WritesType type json)
    (hreferences : ∀ ref ∈ type.references, ref.WellFormed) : namedTypeOf json = .ok type := by
  have hbody := hwrites.bodyOf?_eq
  obtain ⟨hkind, hname, hdescription, -⟩ := hwrites
  refine namedTypeOf_eq_ok_iff.mpr ⟨?_, hdescription.textOf_eq.symm, ?_, hreferences⟩
  · rw [hname.value?_eq, textOf]
  · rw [kindOf_eq hkind]
    exact hbody

theorem WritesType.conforms_iff {type : NamedType} {json : Json} (hwrites : WritesType type json) :
    Conforms (.record .type) json ↔ ∀ ref ∈ type.references, IsShallow ref := by
  obtain ⟨hkind, hname, hdescription, hfields, hinputFields, hinterfaces, henumValues,
    hpossibleTypes⟩ := hwrites
  have hfields := hfields.fills_iff fun _ _ ↦ WritesField.conforms_iff
  have hinputFields := hinputFields.fills_iff fun _ _ ↦ WritesInputValue.conforms_iff
  have hinterfaces := hinterfaces.fills_iff fun _ _ ↦ WritesRef.conforms_iff_isShallow
  have hpossibleTypes := hpossibleTypes.fills_iff fun _ _ ↦ WritesRef.conforms_iff_isShallow
  have henumValues := (henumValues.fills_iff fun _ _ hvalue ↦
    iff_of_true (WritesEnumValue.conforms hvalue) trivial).mpr fun _ _ ↦ trivial
  rw [conforms_record_iff, NamedType.forall_mem_references_iff, ← hfields, ← hinputFields,
    ← hinterfaces, ← hpossibleTypes]
  constructor
  · rintro ⟨-, -, -, -, hfields, hinputFields, hinterfaces, -, hpossibleTypes⟩
    exact ⟨hfields, hinputFields, hinterfaces, hpossibleTypes⟩
  · rintro ⟨hfields, hinputFields, hinterfaces, hpossibleTypes⟩
    exact ⟨rfl, .holds hkind (.kind _), .holds hname (.text _), hdescription.fills, hfields,
      hinputFields, hinterfaces, henumValues, hpossibleTypes⟩

/-! ### Reading schemas -/

theorem WritesRoot.rootOf_eq {members : List (String × Json)} {key : Key} {root : Option String}
    (hwrites : WritesRoot members key root) : rootOf (key.value? (.obj members)) = root := by
  cases hwrites with
  | declared hroot hname => rw [hroot.value?_eq, rootOf, hname.value?_eq, textOf]
  | absent homits =>
    rcases homits.value?_eq with hnull | hnone
    · rw [hnull]; rfl
    · rw [hnone]; rfl

theorem WritesRoot.fills {members : List (String × Json)} {key : Key} {root : Option String}
    (hwrites : WritesRoot members key root) :
    Fills (.spare key (.nullableRecord .typeName)) members := by
  cases hwrites with
  | declared hroot hname =>
    refine .holds hroot (.nullableRecord rfl (List.forall_iff_forall_mem.mp ?_))
    exact .holds hname (.text _)
  | absent homits => exact homits.fills (.noRecord _)

section Documents

variable {schema : Schema} {document : Json}

theorem WritesSchema.conforms_iff (hwrites : WritesSchema schema document) :
    Conforms (.record .schema) document ↔
      ∀ type ∈ schema.types, ∀ ref ∈ type.references, IsShallow ref := by
  obtain ⟨hquery, hmutation, hsubscription, htypes, hitems⟩ := hwrites
  have hlist := (htypes.fills_iff (.needed .types (.list .type)) rfl).trans
    (conforms_arr_iff rfl rfl)
  rw [forall_conforms_iff hitems fun _ _ ↦ WritesType.conforms_iff] at hlist
  rw [conforms_record_iff, ← hlist]
  constructor
  · rintro ⟨-, -, -, -, hfills⟩
    exact hfills
  · intro hfills
    exact ⟨rfl, hquery.fills, hmutation.fills, hsubscription.fills, hfills⟩

/-- A document that writes a schema has the right shape if the guard against endless references lets
all of them through. -/
theorem WritesDocument.conforms_iff (hwrites : WritesDocument schema document) :
    Conforms (.record .document) document ↔
      ∀ type ∈ schema.types, ∀ ref ∈ type.references, IsShallow ref := by
  obtain ⟨hdata, hschema, hentries⟩ := hwrites
  have hinside := hschema.fills_iff (.needed .schema (.record .schema)) rfl
  have hdocument := hdata.fills_iff (.needed .data (.record .data)) rfl
  rw [← hentries.conforms_iff, conforms_record_iff]
  constructor
  · rintro ⟨-, hfills⟩
    exact hinside.mp (conforms_record_iff.mp (hdocument.mp hfills)).2
  · intro hconforms
    exact ⟨rfl, hdocument.mpr (.record_of_forall rfl (hinside.mpr hconforms))⟩

/-- A document that writes a schema gives that schema, if its names are distinct and its references
obey the rule on wrappers and names. -/
theorem WritesDocument.schemaOf_eq (hwrites : WritesDocument schema document)
    (hnames : (schema.types.map NamedType.name).Nodup)
    (hreferences : ∀ type ∈ schema.types, ∀ ref ∈ type.references, ref.WellFormed) :
    schemaOf document = .ok schema := by
  obtain ⟨hdata, hschema, hentries⟩ := hwrites
  obtain ⟨hquery, hmutation, hsubscription, htypes, hitems⟩ := hentries
  rw [schemaOf_eq_ok_iff, schemaEntry, hdata.value?_eq, Option.getD_some, hschema.value?_eq,
    Option.getD_some, htypes.value?_eq, itemsOf]
  refine ⟨namedTypesOf_eq_ok_iff.mpr ⟨?_, hnames, by simp⟩, hquery.rootOf_eq.symm,
    hmutation.rootOf_eq.symm, hsubscription.rootOf_eq.symm⟩
  have hchecked := (List.forall₂_and_left _ _).mpr ⟨hreferences, hitems⟩
  exact (hchecked.imp fun type json hboth ↦ hboth.2.namedTypeOf_eq hboth.1).flip

end Documents

/-! ### Round trip -/

section RoundTrip

variable {schema : Schema} {document : Json} (hwrites : WritesDocument schema document)
  (hnames : (schema.types.map NamedType.name).Nodup)
  (hreferences : ∀ type ∈ schema.types, ∀ ref ∈ type.references, ref.WellFormed)

include hwrites

include hnames hreferences

/-- A document that writes a schema decodes to it if the guard lets its references through. -/
theorem WritesDocument.decode_eq
    (hshallow : ∀ type ∈ schema.types, ∀ ref ∈ type.references, IsShallow ref) :
    decode document = .ok schema :=
  decode_eq_ok_iff.mpr ⟨hwrites.conforms_iff.mpr hshallow, hwrites.schemaOf_eq hnames hreferences⟩

end RoundTrip

/-- A query type with one field, whose type is a chain of wrappers and whose argument is an enum. -/
def episodeSchema : Schema where
  types :=
    [{ name := "Query"
       body := .object
         [{ name := "hero"
            type := .around .nonNull none (.around .list none (.plain .object (some "Query")))
            arguments := [{ name := "in", type := .plain .enum (some "Episode") }] }] [] },
     { name := "Episode", body := .enum [{ name := "JEDI", description := "Part six." }] }]
  query := some "Query"

/-- An object that refers to a type by its name. -/
def namedObject (kind : TypeKind) (name : String) : Json :=
  .obj [("kind", .str kind.label), ("name", .str name), ("of_type", .null)]

/-- The argument of the field, with a default value. -/
def argumentObject : Json :=
  .obj [("name", .str "in"), ("type", namedObject .enum "Episode"), ("default_value", .str "JEDI")]

/-- The type of the field, with both spellings of the inner key. -/
def wrappedObject : Json :=
  .obj [("kind", .str "NON_NULL"), ("name", .null), ("of_type",
    .obj [("kind", .str "LIST"), ("ofType", namedObject .object "Query")])]

/-- The field, marked as current by a flag text. -/
def fieldObject : Json :=
  .obj [("name", .str "hero"), ("isDeprecated", .str "No"), ("args", .arr [argumentObject]),
    ("type", wrappedObject)]

/-- The query type. Its list of interfaces is absent, and the values it lists are no part of it. -/
def queryObject : Json :=
  .obj [("kind", .str "OBJECT"), ("name", .str "Query"), ("description", .null),
    ("fields", .arr [fieldObject]), ("enum_values", .arr [.obj [("name", .str "unused")]])]

/-- The value of the enum. -/
def valueObject : Json :=
  .obj [("name", .str "JEDI"), ("description", .str "Part six."), ("deprecation_reason", .null)]

/-- The enum, with a key that no model has. -/
def enumObject : Json :=
  .obj [("kind", .str "ENUM"), ("name", .str "Episode"), ("color", .int 7),
    ("enumValues", .arr [valueObject])]

/-- A document that writes the schema. One absent root is null, the other one is left out. -/
def episodeDocument : Json :=
  .obj [("data", .obj [("introspected_schema", .obj
    [("query_type", .obj [("name", .str "Query")]), ("mutationType", .null),
      ("types", .arr [queryObject, enumObject])])])]

theorem writesRef_namedObject (kind : TypeKind) (name : String) :
    WritesRef (.plain kind (some name)) (namedObject kind name) :=
  .plain (.inl rfl) (.inl rfl) (.inl (.inr ⟨rfl, rfl⟩))

theorem writesRef_wrappedObject :
    WritesRef (.around .nonNull none (.around .list none (.plain .object (some "Query"))))
      wrappedObject :=
  .around (.inl rfl) (.inl (.inl rfl)) (.inr ⟨rfl, rfl⟩)
    (.around (.inl rfl) (.inr ⟨rfl, rfl⟩) (.inl rfl) (writesRef_namedObject .object "Query"))

theorem writesInputValue_argumentObject :
    WritesInputValue { name := "in", type := .plain .enum (some "Episode") } argumentObject :=
  .intro (.inl rfl) (.inr ⟨rfl, .inr ⟨rfl, rfl⟩⟩) (.inl rfl) (writesRef_namedObject .enum "Episode")
    (.holds (.inr ⟨rfl, rfl⟩) (.nullableText "JEDI"))

theorem writesDocument_episodeDocument : WritesDocument episodeSchema episodeDocument := by
  have hfield : WritesField { name := "hero", type := _, arguments := [_] } fieldObject :=
    .intro (.inl rfl) (.inr ⟨rfl, .inr ⟨rfl, rfl⟩⟩)
      (.inl ⟨_, .inl rfl, .cons writesInputValue_argumentObject .nil⟩) (.inl rfl)
      writesRef_wrappedObject (.holds (.inl rfl) (.flag (.text (by decide))))
      (.lacks rfl ⟨rfl, rfl⟩)
  have hunused : ∀ item ∈ [Json.obj [("name", .str "unused")]],
      Conforms (.record .enumValue) item := by
    rw [List.forall_mem_singleton]
    exact .record_of_forall rfl ⟨.holds (.inl rfl) (.text "unused"), .lacks rfl ⟨rfl, rfl⟩,
      .lacks rfl ⟨rfl, rfl⟩, .lacks rfl ⟨rfl, rfl⟩⟩
  have hquery : WritesType { name := "Query", body := .object [_] [] } queryObject :=
    .intro (.inl rfl) (.inl rfl) (.inr ⟨rfl, .inl (.inl rfl)⟩)
      (.inl ⟨_, .inl rfl, .cons hfield .nil⟩) (.lacks rfl ⟨rfl, rfl⟩)
      (.inr ⟨rfl, .inr ⟨rfl, rfl⟩⟩) (.holds (.inr ⟨rfl, rfl⟩) (.nullableList hunused))
      (.lacks rfl ⟨rfl, rfl⟩)
  have hvalue : WritesEnumValue { name := "JEDI", description := "Part six." } valueObject :=
    .intro (.inl rfl) (.inl (.inl rfl)) (.lacks rfl ⟨rfl, rfl⟩)
      (.holds (.inr ⟨rfl, rfl⟩) .noText)
  have henum : WritesType { name := "Episode", body := .enum [_] } enumObject :=
    .intro (.inl rfl) (.inl rfl) (.inr ⟨rfl, .inr ⟨rfl, rfl⟩⟩) (.lacks rfl ⟨rfl, rfl⟩)
      (.lacks rfl ⟨rfl, rfl⟩) (.lacks rfl ⟨rfl, rfl⟩)
      (.inl ⟨_, .inl rfl, .cons hvalue .nil⟩) (.lacks rfl ⟨rfl, rfl⟩)
  exact .intro (.inl rfl) (.inr ⟨rfl, rfl⟩)
    (.intro (.declared (.inr ⟨rfl, rfl⟩) (.inl rfl)) (.absent (.inl (.inl rfl)))
      (.absent (.inr ⟨rfl, rfl⟩)) (.inl rfl) (.cons hquery (.cons henum .nil)))

theorem wellFormed_episodeSchema :
    ∀ type ∈ episodeSchema.types, ∀ ref ∈ type.references, ref.WellFormed := by
  simp [episodeSchema, NamedType.references, TypeRef.WellFormed, TypeRef.levelWellFormed,
    TypeKind.isWrapper]

theorem nodup_episodeSchema : (episodeSchema.types.map NamedType.name).Nodup := by
  decide

theorem shallow_episodeSchema :
    ∀ type ∈ episodeSchema.types, ∀ ref ∈ type.references, IsShallow ref := by
  simp [episodeSchema, NamedType.references, IsShallow, TypeRef.wrappers, maxLevel]

end Introspection

end SchemaBindings
