import SchemaBindings.Proofs.Order.Skeleton
/-!
# Wrapped references and the order of types

Layers of lists and of what refuses null may be put around the references of a type
(`NamedType.WrappedAs`). Around the type of a field, of an argument or of an input field they are
looked through. Around a declared interface they are not: an interface behind a layer is no
dependency any more. So types with wrapped references are sorted like the types without the layers
and without the interfaces that got one (`sortTypes_wrapped`), which are the types themselves when
no interface got one; and a type may come before an interface that it declares behind a layer
(`sortTypes_wrappedInterface`).
-/

set_option autoImplicit false
set_option relaxedAutoImplicit false

namespace SchemaBindings

/-! ### Layers -/

/-- The other reference is this one behind layers of lists and of what refuses null. -/
inductive TypeRef.WrappedAs (ref : TypeRef) : TypeRef → Prop where
  | refl : WrappedAs ref ref
  | list {other : TypeRef} : WrappedAs ref other → WrappedAs ref (.around .list none other)
  | nonNull {other : TypeRef} : WrappedAs ref other → WrappedAs ref (.around .nonNull none other)

theorem TypeRef.WrappedAs.underlying_eq {ref other : TypeRef} (hwrapped : ref.WrappedAs other) :
    other.underlying = ref.underlying := by
  induction hwrapped with
  | refl => rfl
  | list _ ih => exact ih
  | nonNull _ ih => exact ih

/-- What is behind a layer is no dependency. -/
theorem TypeRef.WrappedAs.dependency?_eq_none {ref other : TypeRef} (hwrapped : ref.WrappedAs other)
    (hlayer : ref ≠ other) : other.dependency? = none := by
  cases hwrapped with
  | refl => exact absurd rfl hlayer
  | list _ => rfl
  | nonNull _ => rfl

/-- The references of a list that are the same at their places in another list. -/
def TypeRef.sameIn (others refs : List TypeRef) : List TypeRef :=
  ((refs.zip others).filter fun pair ↦ pair.1 == pair.2).map Prod.fst

theorem TypeRef.sameIn_self (refs : List TypeRef) : sameIn refs refs = refs := by
  induction refs with
  | nil => rfl
  | cons ref rest ih =>
    rw [sameIn, List.zip_cons_cons, List.filter_cons, if_pos (beq_self_eq_true ref), List.map_cons]
    exact congrArg (ref :: ·) ih

/-- The other argument or input field differs in layers around the type only. -/
def InputValue.WrappedAs (value other : InputValue) : Prop :=
  ∃ type, value.type.WrappedAs type ∧ other = { value with type := type }

/-- The other field differs in layers around its type and the types of its arguments only. -/
def Field.WrappedAs (field other : Field) : Prop :=
  ∃ type arguments, field.type.WrappedAs type ∧
    List.Forall₂ InputValue.WrappedAs field.arguments arguments ∧
    other = { field with type := type, arguments := arguments }

/-- The other body differs in layers around references that sorting reads only: those of fields,
arguments, input fields and declared interfaces. -/
inductive TypeBody.WrappedAs : TypeBody → TypeBody → Prop where
  | refl (body : TypeBody) : WrappedAs body body
  | object {fields others : List Field} {interfaces wrapped : List TypeRef} :
      List.Forall₂ Field.WrappedAs fields others →
      List.Forall₂ TypeRef.WrappedAs interfaces wrapped →
      WrappedAs (.object fields interfaces) (.object others wrapped)
  | interface {fields others : List Field} (possibleTypes : List TypeRef) :
      List.Forall₂ Field.WrappedAs fields others →
      WrappedAs (.interface fields possibleTypes) (.interface others possibleTypes)
  | inputObject {inputFields others : List InputValue} :
      List.Forall₂ InputValue.WrappedAs inputFields others →
      WrappedAs (.inputObject inputFields) (.inputObject others)

namespace NamedType

/-- The other type differs in layers around references that sorting reads only. -/
def WrappedAs (type other : NamedType) : Prop :=
  ∃ body, type.body.WrappedAs body ∧ other = { type with body := body }

/-- The interfaces that a type declares. -/
def interfaces (type : NamedType) : List TypeRef :=
  match type.body with
  | .object _ interfaces => interfaces
  | _ => []

/-- A type without those of its interfaces that are not the same in another one. -/
def exposedIn (type other : NamedType) : NamedType :=
  match type.body with
  | .object fields interfaces =>
    { type with body := .object fields (TypeRef.sameIn other.interfaces interfaces) }
  | _ => type

/-- The first type is what is left of another one that the second differs from in layers only. -/
def ExposedAs (exposed other : NamedType) : Prop :=
  ∃ type : NamedType, type.WrappedAs other ∧ exposed = type.exposedIn other

end NamedType

/-! ### Dependencies behind layers -/

theorem map_underlying_of_wrappedAs {values others : List InputValue}
    (hwrapped : List.Forall₂ InputValue.WrappedAs values others) :
    (others.map fun value ↦ value.type.underlying) =
      values.map fun value ↦ value.type.underlying := by
  induction hwrapped with
  | nil => rfl
  | cons hvalue _ ih =>
    obtain ⟨type, htype, rfl⟩ := hvalue
    rw [List.map_cons, List.map_cons, ih]
    exact congrArg (· :: _) htype.underlying_eq

theorem flatMap_dependencyRefs_of_wrappedAs {fields others : List Field}
    (hwrapped : List.Forall₂ Field.WrappedAs fields others) :
    others.flatMap Field.dependencyRefs = fields.flatMap Field.dependencyRefs := by
  induction hwrapped with
  | nil => rfl
  | @cons field _ _ _ hfield _ ih =>
    obtain ⟨type, arguments, htype, harguments, rfl⟩ := hfield
    have hrefs : Field.dependencyRefs { field with type := type, arguments := arguments } =
        field.dependencyRefs := by
      rw [Field.dependencyRefs, Field.dependencyRefs, htype.underlying_eq,
        map_underlying_of_wrappedAs harguments]
    rw [List.flatMap_cons, List.flatMap_cons, hrefs, ih]

/-- An interface without a layer stays a dependency, and one behind a layer is none. -/
theorem filterMap_dependency?_of_wrappedAs {interfaces wrapped : List TypeRef}
    (hwrapped : List.Forall₂ TypeRef.WrappedAs interfaces wrapped) :
    wrapped.filterMap TypeRef.dependency? =
      (TypeRef.sameIn wrapped interfaces).filterMap TypeRef.dependency? := by
  unfold TypeRef.sameIn
  induction hwrapped with
  | nil => rfl
  | @cons ref other rest restWrapped hhead _ ih =>
    rw [List.zip_cons_cons, List.filter_cons]
    by_cases hlayer : ref = other
    · rw [if_pos (beq_iff_eq.mpr hlayer), List.map_cons, List.filterMap_cons, List.filterMap_cons,
        hlayer, ih]
    · rw [if_neg (mt beq_iff_eq.mp hlayer),
        List.filterMap_cons_none (hhead.dependency?_eq_none hlayer), ih]

/-- Nothing is taken from a type whose interfaces got no layer. -/
theorem exposedIn_of_interfaces_eq {type other : NamedType}
    (hinterfaces : other.interfaces = type.interfaces) : type.exposedIn other = type := by
  obtain ⟨name, description, body⟩ := type
  unfold NamedType.exposedIn
  rw [hinterfaces]
  cases body with
  | object fields interfaces =>
    exact congrArg (fun kept ↦ NamedType.mk name description (.object fields kept))
      (TypeRef.sameIn_self interfaces)
  | _ => rfl

/-- A type with layers depends on what it depends on without them and without the interfaces that
got one. -/
theorem dependencies_of_wrappedAs {type other : NamedType} (hwrapped : type.WrappedAs other) :
    other.dependencies = (type.exposedIn other).dependencies := by
  obtain ⟨name, description, body⟩ := type
  obtain ⟨wrappedBody, hbody, rfl⟩ := hwrapped
  cases hbody with
  | refl body => rw [exposedIn_of_interfaces_eq rfl]
  | @object fields others interfaces wrapped hfields hinterfaces =>
    show ((others.flatMap Field.dependencyRefs ++ wrapped).filterMap _).eraseDups =
      ((fields.flatMap Field.dependencyRefs ++
        TypeRef.sameIn wrapped interfaces).filterMap _).eraseDups
    rw [flatMap_dependencyRefs_of_wrappedAs hfields, List.filterMap_append, List.filterMap_append,
      filterMap_dependency?_of_wrappedAs hinterfaces]
  | @interface fields others possibleTypes hfields =>
    show ((others.flatMap Field.dependencyRefs).filterMap _).eraseDups =
      ((fields.flatMap Field.dependencyRefs).filterMap _).eraseDups
    rw [flatMap_dependencyRefs_of_wrappedAs hfields]
  | @inputObject inputFields others hinputs =>
    show ((others.map fun input ↦ input.type.underlying).filterMap _).eraseDups =
      ((inputFields.map fun input ↦ input.type.underlying).filterMap _).eraseDups
    rw [map_underlying_of_wrappedAs hinputs]

theorem sameNode_of_exposedAs {exposed other : NamedType} (hexposed : exposed.ExposedAs other) :
    SameNode exposed other := by
  obtain ⟨type, hwrapped, rfl⟩ := hexposed
  refine ⟨?_, ?_, dependencies_of_wrappedAs hwrapped⟩
  · obtain ⟨body, hbody, rfl⟩ := hwrapped
    unfold NamedType.exposedIn
    split
    · rfl
    · rfl
  · obtain ⟨body, hbody, rfl⟩ := hwrapped
    obtain ⟨name, description, original⟩ := type
    cases hbody with
    | refl body => rw [exposedIn_of_interfaces_eq rfl]
    | _ => rfl

theorem forall₂_exposedAs {types wrapped : List NamedType}
    (hwrapped : List.Forall₂ NamedType.WrappedAs types wrapped) :
    List.Forall₂ NamedType.ExposedAs (List.zipWith NamedType.exposedIn types wrapped) wrapped := by
  induction hwrapped with
  | nil => exact .nil
  | cons hhead _ ih => exact .cons ⟨_, hhead, rfl⟩ ih

/-! ### Sorting behind layers -/

/-- Types in which references have got layers are sorted like the types without these layers and
without the interfaces that got one; when no interface got one, like the types themselves. In each
case every type has the same dependencies. -/
theorem sortTypes_wrapped (types wrapped : List NamedType) :
    (List.Forall₂ NamedType.WrappedAs types wrapped →
      let exposed := List.zipWith NamedType.exposedIn types wrapped
      wrapped.map NamedType.dependencies = exposed.map NamedType.dependencies ∧
        SortedAlike NamedType.ExposedAs exposed wrapped) ∧
    (List.Forall₂ (fun type other ↦ type.WrappedAs other ∧ other.interfaces = type.interfaces)
        types wrapped →
      wrapped.map NamedType.dependencies = types.map NamedType.dependencies ∧
        SortedAlike NamedType.WrappedAs types wrapped) := by
  constructor
  · intro hwrapped
    have hexposed := forall₂_exposedAs hwrapped
    exact ⟨map_dependencies_eq (fun _ _ ↦ sameNode_of_exposedAs) hexposed,
      sortedAlike_of_forall₂ (fun _ _ ↦ sameNode_of_exposedAs) hexposed⟩
  · intro hwrapped
    have hnode (type other : NamedType)
        (hpair : type.WrappedAs other ∧ other.interfaces = type.interfaces) :
        SameNode type other :=
      sameNode_of_exposedAs ⟨type, hpair.1, (exposedIn_of_interfaces_eq hpair.2).symm⟩
    exact ⟨map_dependencies_eq hnode hwrapped,
      (sortedAlike_of_forall₂ hnode hwrapped).imp fun _ _ ↦ And.left⟩

/-- A reference to the interface `Node`. -/
def nodeRef : TypeRef :=
  .plain .interface (some "Node")

/-- An object with a field `role(of: Filter): Role`, which declares an interface. -/
def roleUser (role filter interface : TypeRef) : NamedType :=
  { name := "User"
    body := .object
      [{ name := "role", type := role, arguments := [{ name := "of", type := filter }] }]
      [interface] }

/-- The types that the object names. -/
def roleTypes : List NamedType :=
  [{ name := "Node", body := .interface [] [] }, { name := "Filter", body := .inputObject [] },
    { name := "Role", body := .enum [] }]

theorem sortTypes_wrapped_roleUser :
    let role : TypeRef := .plain .enum (some "Role")
    let filter : TypeRef := .plain .inputObject (some "Filter")
    let types := roleUser role filter nodeRef :: roleTypes
    let layered (interface : TypeRef) := roleUser (.around .nonNull none (.around .list none role))
      (.around .list none filter) interface :: roleTypes
    (List.Forall₂ (fun type other ↦ type.WrappedAs other ∧ other.interfaces = type.interfaces)
        types (layered nodeRef) ∧
      (layered nodeRef).map NamedType.dependencies = types.map NamedType.dependencies ∧
        SortedAlike NamedType.WrappedAs types (layered nodeRef)) ∧
    List.Forall₂ NamedType.WrappedAs types (layered (.around .nonNull none nodeRef)) ∧
      SortedAlike NamedType.ExposedAs
        (List.zipWith NamedType.exposedIn types (layered (.around .nonNull none nodeRef)))
        (layered (.around .nonNull none nodeRef)) := by
  intro role filter types layered
  have hfields : List.Forall₂ Field.WrappedAs
      [{ name := "role", type := role, arguments := [{ name := "of", type := filter }] }]
      [{ name := "role", type := .around .nonNull none (.around .list none role),
         arguments := [{ name := "of", type := .around .list none filter }] }] :=
    .cons ⟨_, _, .nonNull (.list .refl), .cons ⟨_, .list .refl, rfl⟩ .nil, rfl⟩ .nil
  have huser {interface : TypeRef} (hinterface : nodeRef.WrappedAs interface) :
      (roleUser role filter nodeRef).WrappedAs (roleUser (.around .nonNull none
        (.around .list none role)) (.around .list none filter) interface) :=
    ⟨_, .object hfields (.cons hinterface .nil), rfl⟩
  have hrest : List.Forall₂
      (fun type other ↦ type.WrappedAs other ∧ other.interfaces = type.interfaces)
      roleTypes roleTypes :=
    List.forall₂_same.mpr fun type _ ↦ ⟨⟨type.body, .refl _, rfl⟩, rfl⟩
  have hsame : List.Forall₂
      (fun type other ↦ type.WrappedAs other ∧ other.interfaces = type.interfaces)
      types (layered nodeRef) := .cons ⟨huser .refl, rfl⟩ hrest
  have hlayered : List.Forall₂ NamedType.WrappedAs types
      (layered (.around .nonNull none nodeRef)) :=
    .cons (huser (.nonNull .refl)) (hrest.imp fun _ _ ↦ And.left)
  exact ⟨⟨hsame, (sortTypes_wrapped _ _).2 hsame⟩, hlayered,
    ((sortTypes_wrapped _ _).1 hlayered).2⟩

/-- An object that declares the interface `Node`, and this interface. -/
def nodeTypes (interface : TypeRef) : List NamedType :=
  [{ name := "User", body := .object [] [interface] }, { name := "Node", body := .interface [] [] }]

/-- A layer around a declared interface hides the dependency, and the order of the types changes:
the object comes before the interface. -/
theorem sortTypes_wrappedInterface :
    List.Forall₂ NamedType.WrappedAs (nodeTypes nodeRef)
        (nodeTypes (.around .nonNull none nodeRef)) ∧
      (nodeTypes nodeRef).map NamedType.dependencies = [["Node"], []] ∧
      (nodeTypes (.around .nonNull none nodeRef)).map NamedType.dependencies = [[], []] ∧
      sortTypes (nodeTypes nodeRef) = .ok (nodeTypes nodeRef).reverse ∧
      sortTypes (nodeTypes (.around .nonNull none nodeRef)) =
        .ok (nodeTypes (.around .nonNull none nodeRef)) := by
  refine ⟨?_, by decide, by decide, by decide, by decide⟩
  exact .cons ⟨_, .object .nil (.cons (.nonNull .refl) .nil), rfl⟩
    (.cons ⟨_, .refl _, rfl⟩ .nil)

end SchemaBindings
