import SchemaBindings.Proofs.Introspection.EntryPoints
import SchemaBindings.Proofs.Introspection.Report
import SchemaBindings.Proofs.Introspection.Sound
import SchemaBindings.Proofs.Introspection.Spot
import SchemaBindings.Proofs.Introspection.Written
/-!
# The first rule that a document breaks

Decoding a document of the right shape fails exactly when the document breaks a rule on types and
references, and then with the cause at the first spot of the first type
(`schemaOfDocument_firstBroken`). One lemma for each part of a document says that decoding the part
finds the first of what is wrong there: references (`isFirst_brokenLevel?`), types
(`isFirst_namedTypeOf`) and the list of types (`isFirst_namedTypesOf`).
-/

set_option autoImplicit false
set_option relaxedAutoImplicit false

namespace SchemaBindings

namespace Introspection

/-! ### References of a type -/

/-- What is found wrong with a reference in a document. -/
def faultIn (reference : Json) : Option Malformed :=
  brokenLevel? (typeRefOf reference)

theorem isFirst_faultIn (reference : Json) :
    IsFirst (WrongReference 0 reference) (faultIn reference) :=
  isFirst_brokenLevel? reference 0

/-- Something is wrong with an argument of a field, or behind all arguments with the field. -/
def WrongField (field : Json) (place : List ℕ) (cause : Malformed) : Prop :=
  Behind 0 (InItems 0 (fun argument ↦ WrongReference 0 (referenceIn argument))
      (itemsOf (Key.arguments.value? field))) place cause ∨
    Behind 1 (WrongReference 0 (referenceIn field)) place cause

theorem isFirst_inputValues (items : List Json) :
    IsFirst (InItems 0 (fun input ↦ WrongReference 0 (referenceIn input)) items)
      (((items.map inputValueOf).map InputValue.type).findSome? brokenLevel?) := by
  rw [List.map_map, List.findSome?_map]
  exact IsFirst.findSome? (fun input _ ↦ isFirst_faultIn (referenceIn input)) 0

theorem isFirst_references (items : List Json) :
    IsFirst (InItems 0 (WrongReference 0) items)
      ((items.map typeRefOf).findSome? brokenLevel?) := by
  rw [List.findSome?_map]
  exact IsFirst.findSome? (fun reference _ ↦ isFirst_faultIn reference) 0

theorem isFirst_fields (items : List Json) :
    IsFirst (InItems 0 WrongField items)
      (((items.map fieldOf).flatMap fun field ↦
        field.arguments.map InputValue.type ++ [field.type]).findSome? brokenLevel?) := by
  rw [findSome?_flatMap, List.findSome?_map]
  refine IsFirst.findSome? (fun field _ ↦ ?_) 0
  have harguments := (isFirst_inputValues (itemsOf (Key.arguments.value? field))).behind 0
  have hfield := (isFirst_faultIn (referenceIn field)).behind 1
  have hparts := harguments.or hfield fun _ _ _ _ hplace hlater ↦ hplace.lt Nat.zero_lt_one hlater
  rw [Function.comp_apply, List.findSome?_append, List.findSome?_singleton]
  exact hparts

/-- Fields, and then references beside them. -/
theorem isFirst_fields_append (fields references : List Json) :
    IsFirst (fun place cause ↦ Behind 2 (InItems 0 WrongField fields) place cause ∨
        Behind 3 (InItems 0 (WrongReference 0) references) place cause)
      ((((fields.map fieldOf).flatMap fun field ↦
        field.arguments.map InputValue.type ++ [field.type]) ++
          references.map typeRefOf).findSome? brokenLevel?) := by
  rw [List.findSome?_append]
  refine ((isFirst_fields fields).behind 2).or ((isFirst_references references).behind 3) ?_
  exact fun _ _ _ _ hplace hlater ↦ hplace.lt (Nat.lt_succ_self 2) hlater

/-- Something is wrong with a reference that a type uses. -/
def WrongUse (json : Json) (place : List ℕ) (cause : Malformed) : Prop :=
  ∃ spot reference depth level, Uses json spot reference ∧ IsLevel reference depth level ∧
    BreaksLevel level cause ∧ place = (spot depth).rank

theorem wrongReference_zero_iff {reference : Json} {place : List ℕ} {cause : Malformed} :
    WrongReference 0 reference place cause ↔
      ∃ depth level, place = [depth] ∧ IsLevel reference depth level ∧ BreaksLevel level cause := by
  simp only [WrongReference, Nat.zero_add]

/-- The uses of a reference, by the payloads that hold it and the kinds that use these. -/
theorem wrongUse_iff {json : Json} {place : List ℕ} {cause : Malformed} :
    WrongUse json place cause ↔
      ((kindIn json = .object ∨ kindIn json = .interface) ∧
        Behind 2 (InItems 0 WrongField (itemsOf (Key.fields.value? json))) place cause) ∨
      (kindIn json = .inputObject ∧
        Behind 2 (InItems 0 (fun input ↦ WrongReference 0 (referenceIn input))
          (itemsOf (Key.inputFields.value? json))) place cause) ∨
      (kindIn json = .object ∧ Behind 3 (InItems 0 (WrongReference 0)
        (itemsOf (Key.interfaces.value? json))) place cause) ∨
      (kindIn json = .interface ∨ kindIn json = .union) ∧ Behind 3 (InItems 0 (WrongReference 0)
        (itemsOf (Key.possibleTypes.value? json))) place cause := by
  simp only [Behind, inItems_zero_iff, WrongField, wrongReference_zero_iff]
  constructor
  · rintro ⟨spot, reference, depth, level, huses, hlevel, hbreaks, rfl⟩
    have hreference : ∃ inside found, [depth] = [inside] ∧ IsLevel reference inside found ∧
        BreaksLevel found cause := ⟨depth, level, rfl, hlevel, hbreaks⟩
    cases huses with
    | @argument number place field argument hkind hfield hargument =>
      exact Or.inl ⟨hkind, _, rfl, number, field, _, hfield, rfl,
        Or.inl ⟨_, rfl, place, argument, _, hargument, rfl, hreference⟩⟩
    | @field place field hkind hfield =>
      exact Or.inl ⟨hkind, _, rfl, place, field, _, hfield, rfl, Or.inr ⟨_, rfl, hreference⟩⟩
    | @inputField place input hkind hinput =>
      exact Or.inr (Or.inl ⟨hkind, _, rfl, place, input, _, hinput, rfl, hreference⟩)
    | @interface place _ hkind hitem =>
      exact Or.inr (Or.inr (Or.inl ⟨hkind, _, rfl, place, reference, _, hitem, rfl, hreference⟩))
    | @possibleType place _ hkind hitem =>
      exact Or.inr (Or.inr (Or.inr ⟨hkind, _, rfl, place, reference, _, hitem, rfl, hreference⟩))
  · rintro (⟨hkind, _, rfl, number, field, _, hfield, rfl, hpart⟩ |
      ⟨hkind, _, rfl, place, input, _, hinput, rfl, depth, level, rfl, hlevel, hbreaks⟩ |
      ⟨hkind, _, rfl, place, reference, _, hitem, rfl, depth, level, rfl, hlevel, hbreaks⟩ |
      ⟨hkind, _, rfl, place, reference, _, hitem, rfl, depth, level, rfl, hlevel, hbreaks⟩)
    · rcases hpart with ⟨_, rfl, place, argument, _, hargument, rfl, depth, level, rfl, hlevel,
        hbreaks⟩ | ⟨_, rfl, depth, level, rfl, hlevel, hbreaks⟩
      · exact ⟨_, _, depth, level, .argument hkind hfield hargument, hlevel, hbreaks, rfl⟩
      · exact ⟨_, _, depth, level, .field hkind hfield, hlevel, hbreaks, rfl⟩
    · exact ⟨_, _, depth, level, .inputField hkind hinput, hlevel, hbreaks, rfl⟩
    · exact ⟨_, _, depth, level, .interface hkind hitem, hlevel, hbreaks, rfl⟩
    · exact ⟨_, _, depth, level, .possibleType hkind hitem, hlevel, hbreaks, rfl⟩

/-! ### Types -/

theorem not_wrongUse {json : Json} (hfields : kindIn json ≠ .object ∧ kindIn json ≠ .interface)
    (hothers : kindIn json ≠ .inputObject ∧ kindIn json ≠ .union) (place : List ℕ)
    (cause : Malformed) : ¬ WrongUse json place cause := by
  rw [wrongUse_iff]
  simp only [hfields, hothers, or_self, false_and, not_false_eq_true]

/-- The references of a type are searched in the order of their spots. -/
theorem isFirst_uses {json : Json} {type : NamedType}
    (hbody : bodyOf? json (kindIn json) = some type.body) :
    IsFirst (WrongUse json) (type.references.findSome? brokenLevel?) := by
  obtain ⟨name, description, body⟩ := type
  cases hkind : kindIn json with
  | scalar =>
    rw [hkind] at hbody
    cases hbody
    exact not_wrongUse (by simp [hkind]) (by simp [hkind])
  | object =>
    rw [hkind] at hbody
    cases hbody
    refine (isFirst_fields_append _ _).congr fun place cause ↦ wrongUse_iff.trans ?_
    simp [hkind]
  | interface =>
    rw [hkind] at hbody
    cases hbody
    refine (isFirst_fields_append _ _).congr fun place cause ↦ wrongUse_iff.trans ?_
    simp [hkind]
  | union =>
    rw [hkind] at hbody
    cases hbody
    have hpossible := (isFirst_references (itemsOf (Key.possibleTypes.value? json))).behind 3
    refine hpossible.congr fun place cause ↦ wrongUse_iff.trans ?_
    simp [hkind]
  | enum =>
    rw [hkind] at hbody
    cases hbody
    exact not_wrongUse (by simp [hkind]) (by simp [hkind])
  | inputObject =>
    rw [hkind] at hbody
    cases hbody
    have hinputs := (isFirst_inputValues (itemsOf (Key.inputFields.value? json))).behind 2
    refine hinputs.congr fun place cause ↦ wrongUse_iff.trans ?_
    simp [hkind]
  | list =>
    rw [hkind] at hbody
    cases hbody
  | nonNull =>
    rw [hkind] at hbody
    cases hbody

/-- A type is of a wrapper kind, or something is wrong with a reference that it uses. -/
def WrongType (json : Json) (place : List ℕ) (cause : Malformed) : Prop :=
  ((kindIn json).isWrapper = true ∧ place = [1] ∧
      cause = .wrapperType (nameIn json) (kindIn json)) ∨
    WrongUse json place cause

theorem bodyOf?_eq_none_iff (json : Json) (kind : TypeKind) :
    bodyOf? json kind = none ↔ kind.isWrapper = true := by
  cases kind <;> simp [bodyOf?, TypeKind.isWrapper]

theorem isFirst_namedTypeOf (json : Json) :
    IsFirst (WrongType json) (failure? (namedTypeOf json)) := by
  rw [namedTypeOf]
  cases hbody : bodyOf? json (kindOf (Key.kind.value? json)) with
  | none =>
    have hkind := (bodyOf?_eq_none_iff json (kindIn json)).mp hbody
    have hne (kind : TypeKind) (hplain : kind.isWrapper = false) : kindIn json ≠ kind := by
      rintro rfl
      rw [hplain] at hkind
      cases hkind
    have huse := not_wrongUse ⟨hne _ rfl, hne _ rfl⟩ ⟨hne _ rfl, hne _ rfl⟩
    refine ⟨[1], Or.inl ⟨hkind, rfl, rfl⟩, fun later cause hlater ↦ Or.inr ?_⟩
    exact (hlater.resolve_right (huse later cause)).2
  | some body =>
    have hkind : ¬ (kindIn json).isWrapper = true := by
      rw [← bodyOf?_eq_none_iff json (kindIn json), kindIn, hbody]
      exact Option.some_ne_none body
    have huses : IsFirst (WrongUse json) (NamedType.references
        { name := textOf (Key.ownName.value? json)
          description := textOf (Key.description.value? json)
          body := body } |>.findSome? brokenLevel?) := isFirst_uses hbody
    refine IsFirst.congr ?_ fun place cause ↦ or_iff_right fun hwrapper ↦ hkind hwrapper.1
    dsimp only
    split
    · next cause hfound =>
      rw [hfound] at huses
      exact huses
    · next hnone =>
      rw [hnone] at huses
      exact huses

theorem lt_of_wrongType {json : Json} {place : List ℕ} {cause : Malformed}
    (hwrong : WrongType json place cause) : [0] < place := by
  rcases hwrong with ⟨-, rfl, -⟩ | ⟨spot, reference, depth, level, huses, -, -, rfl⟩
  · decide
  · cases huses <;> exact List.cons_lt_cons_iff.mpr (Or.inl (by decide))

/-! ### Lists of types -/

/-- The name of a type is taken, or something else is wrong with the type. -/
def WrongItem (taken : Prop) (json : Json) (place : List ℕ) (cause : Malformed) : Prop :=
  (taken ∧ place = [0] ∧ cause = .repeatedType (nameIn json)) ∨ WrongType json place cause

/-- The name of a type is among the names seen before or among those of the types before it. -/
def IsTaken (seen : List String) (types : List Json) (index : ℕ) (json : Json) : Prop :=
  nameIn json ∈ seen ∨
    ∃ earlier other, earlier < index ∧ types[earlier]? = some other ∧ nameIn other = nameIn json

/-- Something is wrong with a type of a list, counted from a start. -/
def WrongTypes (start : ℕ) (seen : List String) (types : List Json) (place : List ℕ)
    (cause : Malformed) : Prop :=
  ∃ index json, types[index]? = some json ∧
    Behind (start + index) (WrongItem (IsTaken seen types index json) json) place cause

theorem isTaken_zero_iff {seen : List String} {types : List Json} {json : Json} :
    IsTaken seen types 0 json ↔ nameIn json ∈ seen := by
  simp [IsTaken]

/-- The name of the first type counts as seen for the types after it. -/
theorem isTaken_succ_iff {seen : List String} {types : List Json} {first json : Json} {index : ℕ} :
    IsTaken seen (first :: types) (index + 1) json ↔
      IsTaken (nameIn first :: seen) types index json := by
  unfold IsTaken
  rw [List.mem_cons]
  constructor
  · rintro (hseen | ⟨earlier, other, hearlier, hother, hname⟩)
    · exact Or.inl (Or.inr hseen)
    · cases earlier with
      | zero =>
        obtain rfl := Option.some.inj hother
        exact Or.inl (Or.inl hname.symm)
      | succ earlier =>
        exact Or.inr ⟨earlier, other, Nat.lt_of_succ_lt_succ hearlier, hother, hname⟩
  · rintro ((hname | hseen) | ⟨earlier, other, hearlier, hother, hname⟩)
    · exact Or.inr ⟨0, first, Nat.succ_pos index, rfl, hname.symm⟩
    · exact Or.inl hseen
    · exact Or.inr ⟨earlier + 1, other, Nat.succ_lt_succ hearlier, hother, hname⟩

theorem wrongTypes_cons_iff {start : ℕ} {seen : List String} {json : Json} {types : List Json}
    {place : List ℕ} {cause : Malformed} :
    WrongTypes start seen (json :: types) place cause ↔
      Behind start (WrongItem (nameIn json ∈ seen) json) place cause ∨
        WrongTypes (start + 1) (nameIn json :: seen) types place cause := by
  constructor
  · rintro ⟨index, found, hfound, hwrong⟩
    cases index with
    | zero =>
      obtain rfl := Option.some.inj hfound
      rw [isTaken_zero_iff] at hwrong
      exact Or.inl hwrong
    | succ index =>
      rw [isTaken_succ_iff, ← Nat.add_assoc, Nat.add_right_comm] at hwrong
      exact Or.inr ⟨index, found, hfound, hwrong⟩
  · rintro (hwrong | ⟨index, found, hfound, hwrong⟩)
    · refine ⟨0, json, rfl, ?_⟩
      rw [isTaken_zero_iff]
      exact hwrong
    · refine ⟨index + 1, found, hfound, ?_⟩
      rw [isTaken_succ_iff, ← Nat.add_assoc, Nat.add_right_comm]
      exact hwrong

theorem failure?_namedTypesOf_cons (seen : List String) (json : Json) (types : List Json) :
    failure? (namedTypesOf seen (json :: types)) =
      ((if nameIn json ∈ seen then some (Malformed.repeatedType (nameIn json)) else none).or
        (failure? (namedTypeOf json))).or
        (failure? (namedTypesOf (nameIn json :: seen) types)) := by
  rw [namedTypesOf, nameIn]
  dsimp only
  simp only [List.contains_iff_mem]
  split_ifs
  · rfl
  · cases namedTypeOf json with
    | error cause => rfl
    | ok type =>
      show failure? (namedTypesOf _ types >>= fun others ↦ pure (type :: others)) =
        failure? (namedTypesOf _ types)
      cases namedTypesOf (textOf (Key.ownName.value? json) :: seen) types with
      | error cause => rfl
      | ok others => rfl

/-- The types are checked one after the other, each name against those before it. -/
theorem isFirst_namedTypesOf (seen : List String) (types : List Json) (start : ℕ) :
    IsFirst (WrongTypes start seen types) (failure? (namedTypesOf seen types)) := by
  induction types generalizing seen start with
  | nil =>
    rintro place cause ⟨index, json, hjson, -⟩
    cases hjson
  | cons json types ih =>
    have hname := IsFirst.ite (nameIn json ∈ seen) [0] (Malformed.repeatedType (nameIn json))
    have hitem : IsFirst (WrongItem (nameIn json ∈ seen) json) _ :=
      hname.or (isFirst_namedTypeOf json) fun place cause later reason hplace hlater ↦
        hplace.2.1 ▸ lt_of_wrongType hlater
    have hrest := ih (nameIn json :: seen) (start + 1)
    rw [failure?_namedTypesOf_cons]
    refine ((hitem.behind start).or hrest ?_).congr fun _ _ ↦ wrongTypes_cons_iff
    rintro place cause later reason hplace ⟨index, found, -, hwrong⟩
    exact hplace.lt (Nat.lt_add_right index (Nat.lt_succ_self start)) hwrong

/-! ### Documents -/

/-- What is wrong in a list of types is what the rules say, with the number of the type before the
rank of the spot. -/
theorem wrongTypes_iff {types : List Json} {place : List ℕ} {cause : Malformed} :
    WrongTypes 0 [] types place cause ↔
      ∃ index spot, place = index :: spot.rank ∧ BreaksRule types index spot cause := by
  simp only [WrongTypes, Nat.zero_add, Behind, WrongItem, IsTaken, List.not_mem_nil, false_or]
  constructor
  · rintro ⟨index, json, hjson, rest, rfl, ⟨⟨earlier, other, hearlier, hother, hname⟩, rfl, rfl⟩ |
      ⟨hkind, rfl, rfl⟩ | ⟨spot, reference, depth, level, huses, hlevel, hbreaks, rfl⟩⟩
    · exact ⟨index, .name, rfl, .repeatedName hjson hearlier hother hname⟩
    · exact ⟨index, .kind, rfl, .wrapperKind hjson hkind⟩
    · exact ⟨index, spot depth, rfl, .reference hjson huses hlevel hbreaks⟩
  · rintro ⟨index, spot, rfl, hbroken⟩
    cases hbroken with
    | @repeatedName earlier json other hjson hearlier hother hname =>
      exact ⟨index, json, hjson, _, rfl, Or.inl ⟨⟨earlier, other, hearlier, hother, hname⟩,
        rfl, rfl⟩⟩
    | @wrapperKind json hjson hkind =>
      exact ⟨index, json, hjson, _, rfl, Or.inr (Or.inl ⟨hkind, rfl, rfl⟩)⟩
    | @reference depth json reference level spot _ hjson huses hlevel hbreaks =>
      exact ⟨index, json, hjson, _, rfl, Or.inr (Or.inr ⟨spot, reference, depth, level, huses,
        hlevel, hbreaks, rfl⟩)⟩

/-- The types of a document, as they stand in it. -/
def typesIn (document : Json) : List Json :=
  itemsOf (Key.types.value? (schemaEntry document))

theorem failure?_schemaOf (document : Json) :
    failure? (schemaOf document) = failure? (namedTypesOf [] (typesIn document)) := by
  rw [schemaOf, ← schemaEntry, ← typesIn]
  cases namedTypesOf [] (typesIn document) with
  | error cause => rfl
  | ok types => rfl

section Documents

variable {document : Json}

theorem isFirst_schemaOf (document : Json) :
    IsFirst (WrongTypes 0 [] (typesIn document)) (failure? (schemaOf document)) := by
  rw [failure?_schemaOf]
  exact isFirst_namedTypesOf [] (typesIn document) 0

theorem exists_schemaOf_eq_ok_iff :
    (∃ schema, schemaOf document = .ok schema) ↔
      ∀ index spot cause, ¬ BreaksRule (typesIn document) index spot cause := by
  rw [← failure?_eq_none_iff, (isFirst_schemaOf document).eq_none_iff]
  constructor
  · intro hnone index spot cause hbroken
    exact hnone _ cause (wrongTypes_iff.mpr ⟨index, spot, rfl, hbroken⟩)
  · intro hnone place cause hwrong
    obtain ⟨index, spot, -, hbroken⟩ := wrongTypes_iff.mp hwrong
    exact hnone index spot cause hbroken

theorem schemaOf_eq_error_iff {cause : Malformed} :
    schemaOf document = .error cause ↔
      ∃ index spot, BreaksRule (typesIn document) index spot cause ∧
        ∀ later other reason, BreaksRule (typesIn document) later other reason →
          index :: spot.rank ≤ later :: other.rank := by
  rw [← failure?_eq_some_iff, (isFirst_schemaOf document).eq_some_iff]
  constructor
  · rintro ⟨place, hwrong, hleast⟩
    obtain ⟨index, spot, rfl, hbroken⟩ := wrongTypes_iff.mp hwrong
    refine ⟨index, spot, hbroken, fun later other reason hlater ↦ ?_⟩
    exact hleast _ reason (wrongTypes_iff.mpr ⟨later, other, rfl, hlater⟩)
  · rintro ⟨index, spot, hbroken, hleast⟩
    refine ⟨index :: spot.rank, wrongTypes_iff.mpr ⟨index, spot, rfl, hbroken⟩, ?_⟩
    intro place reason hwrong
    obtain ⟨later, other, rfl, hlater⟩ := wrongTypes_iff.mp hwrong
    exact hleast later other reason hlater

end Documents

/-! ### Documents that write a schema -/

theorem WritesType.nameIn_eq {type : NamedType} {json : Json} (hwrites : WritesType type json) :
    nameIn json = type.name := by
  obtain ⟨-, hname, -⟩ := hwrites
  rw [nameIn, hname.value?_eq, textOf]

theorem WritesType.failure?_namedTypeOf {type : NamedType} {json : Json}
    (hwrites : WritesType type json) :
    failure? (namedTypeOf json) = type.references.findSome? brokenLevel? := by
  have hbody := hwrites.bodyOf?_eq
  obtain ⟨hkind, hname, hdescription, -⟩ := hwrites
  rw [namedTypeOf, kindOf_eq hkind, hbody, hname.value?_eq, hdescription.textOf_eq]
  dsimp only [textOf]
  cases type.references.findSome? brokenLevel? with
  | none => rfl
  | some cause => rfl

/-- Of types with distinct names only the references can break a rule. -/
theorem failure?_namedTypesOf_of_writes {types : List NamedType} {items : List Json}
    (hwrites : List.Forall₂ WritesType types items) {seen : List String}
    (hnames : (types.map NamedType.name).Nodup) (hseen : ∀ type ∈ types, type.name ∉ seen) :
    failure? (namedTypesOf seen items) =
      types.findSome? fun type ↦ type.references.findSome? brokenLevel? := by
  induction hwrites generalizing seen with
  | nil => rfl
  | @cons type json types items htype _ ih =>
    rw [List.map_cons, List.nodup_cons] at hnames
    rw [List.forall_mem_cons] at hseen
    have hrest : ∀ other ∈ types, other.name ∉ type.name :: seen := by
      intro other hother hmem
      rcases List.mem_cons.mp hmem with hsame | htaken
      · exact hnames.1 (hsame ▸ List.mem_map_of_mem hother)
      · exact hseen.2 other hother htaken
    rw [failure?_namedTypesOf_cons, htype.nameIn_eq, htype.failure?_namedTypeOf,
      if_neg hseen.1, ih hnames.2 hrest, Option.none_or, List.findSome?_cons]
    cases type.references.findSome? brokenLevel? <;> rfl

/-- A document that writes a schema with distinct names fails as its first broken reference does. -/
theorem WritesDocument.failure?_schemaOf {schema : Schema} {document : Json}
    (hwrites : WritesDocument schema document) (hnames : (schema.types.map NamedType.name).Nodup) :
    failure? (schemaOf document) =
      schema.types.findSome? fun type ↦ type.references.findSome? brokenLevel? := by
  obtain ⟨hdata, hschema, hentries⟩ := hwrites
  obtain ⟨-, -, -, htypes, hitems⟩ := hentries
  rw [Introspection.failure?_schemaOf, typesIn, schemaEntry, hdata.value?_eq, Option.getD_some,
    hschema.value?_eq, Option.getD_some, htypes.value?_eq, itemsOf]
  exact failure?_namedTypesOf_of_writes hitems hnames fun _ _ ↦ List.not_mem_nil

end Introspection

open Introspection

theorem ofMalformed_eq_error_iff_exists {α : Type} {result : Except Malformed α}
    {error : InputError} :
    ofMalformed result = .error error ↔
      ∃ cause, error = .malformed cause ∧ result = .error cause := by
  cases result with
  | ok value => simp [ofMalformed]
  | error cause => simp [ofMalformed, eq_comm]

/-- A document of the right shape decodes exactly when it breaks no rule on types and references.
Otherwise the error is the cause at the first spot: of the types in the order of the document, and
in one type of its name, its kind and the references that its kind uses, as `Spot.rank` orders
them. -/
theorem schemaOfDocument_firstBroken {document : Json}
    (hconforms : Conforms (.record .document) document) :
    ((∃ schema, schemaOfDocument document = .ok schema) ↔
      ∀ index spot cause, ¬ BreaksRule (typesIn document) index spot cause) ∧
    ∀ error, schemaOfDocument document = .error error ↔ ∃ index spot cause,
      error = .malformed cause ∧ BreaksRule (typesIn document) index spot cause ∧
        ∀ later other reason, BreaksRule (typesIn document) later other reason →
          index :: spot.rank ≤ later :: other.rank := by
  have hdecode : schemaOfDocument document = ofMalformed (schemaOf document) := by
    rw [schemaOfDocument, decode_of_conforms hconforms]
  constructor
  · simp only [hdecode, ofMalformed_eq_ok_iff]
    exact exists_schemaOf_eq_ok_iff
  · intro error
    rw [hdecode, ofMalformed_eq_error_iff_exists]
    constructor
    · rintro ⟨cause, rfl, hcause⟩
      obtain ⟨index, spot, hbroken, hleast⟩ := schemaOf_eq_error_iff.mp hcause
      exact ⟨index, spot, cause, rfl, hbroken, hleast⟩
    · rintro ⟨index, spot, cause, rfl, hbroken, hleast⟩
      exact ⟨cause, rfl, schemaOf_eq_error_iff.mpr ⟨index, spot, hbroken, hleast⟩⟩

/-- A field or argument of which the reference has a kind and nothing else, and other members. -/
def brokenObject (name : String) (kind : TypeKind) (members : List (String × Json)) : Json :=
  .obj ([("name", .str name), ("type", .obj [("kind", .str kind.label)])] ++ members)

/-- A type that lists fields, whether its kind uses them or not. -/
def typeObject (kind : TypeKind) (name : String) (fields : List Json) : Json :=
  .obj [("kind", .str kind.label), ("name", .str name), ("fields", .arr fields)]

/-- Two enums of one name, of which the first lists a broken field that it does not use, and between
them an object with a broken field that has a broken argument. -/
def faultyTypes : List Json :=
  [typeObject .enum "Color" [brokenObject "unused" .list []],
    typeObject .object "Query"
      [brokenObject "hero" .nonNull [("args", .arr [brokenObject "in" .enum []])]],
    typeObject .enum "Color" []]

/-- The document of these types. -/
def faultyDocument : Json :=
  .obj [("data", .obj [("__schema", .obj [("types", .arr faultyTypes)])])]

theorem conforms_typeObject (kind : TypeKind) (name : String) {fields : List Json}
    (hfields : ∀ field ∈ fields, Conforms (.record .field) field) :
    Conforms (.record .type) (typeObject kind name fields) :=
  .record_of_forall rfl ⟨.holds (.inl rfl) (.kind kind), .holds (.inl rfl) (.text name),
    .lacks rfl ⟨rfl, rfl⟩, .holds (.inl rfl) (.nullableList hfields), .lacks rfl ⟨rfl, rfl⟩,
    .lacks rfl ⟨rfl, rfl⟩, .lacks rfl ⟨rfl, rfl⟩, .lacks rfl ⟨rfl, rfl⟩⟩

theorem conforms_faultyDocument : Conforms (.record .document) faultyDocument := by
  have hreference (kind : TypeKind) :
      Conforms (.record (.typeRef 0)) (.obj [("kind", .str kind.label)]) :=
    .record_of_forall rfl ⟨.holds (.inl rfl) (.kind kind), .lacks rfl ⟨rfl, rfl⟩,
      .lacks rfl ⟨rfl, rfl⟩⟩
  have hargument : Conforms (.record .inputValue) (brokenObject "in" .enum []) :=
    .record_of_forall rfl ⟨.holds (.inl rfl) (.text _), .lacks rfl ⟨rfl, rfl⟩,
      .holds (.inl rfl) (hreference .enum), .lacks rfl ⟨rfl, rfl⟩⟩
  have hunused : Conforms (.record .field) (brokenObject "unused" .list []) :=
    .record_of_forall rfl ⟨.holds (.inl rfl) (.text _), .lacks rfl ⟨rfl, rfl⟩,
      .lacks rfl ⟨rfl, rfl⟩, .holds (.inl rfl) (hreference .list), .lacks rfl ⟨rfl, rfl⟩,
      .lacks rfl ⟨rfl, rfl⟩⟩
  have hfield : Conforms (.record .field)
      (brokenObject "hero" .nonNull [("args", .arr [brokenObject "in" .enum []])]) :=
    .record_of_forall rfl ⟨.holds (.inl rfl) (.text _), .lacks rfl ⟨rfl, rfl⟩,
      .holds (.inl rfl) (.nullableList (List.forall_mem_singleton.mpr hargument)),
      .holds (.inl rfl) (hreference .nonNull), .lacks rfl ⟨rfl, rfl⟩, .lacks rfl ⟨rfl, rfl⟩⟩
  have htypes : ∀ type ∈ faultyTypes, Conforms (.record .type) type :=
    List.forall_mem_cons.mpr
      ⟨conforms_typeObject .enum "Color" (List.forall_mem_singleton.mpr hunused),
        List.forall_mem_cons.mpr
          ⟨conforms_typeObject .object "Query" (List.forall_mem_singleton.mpr hfield),
            List.forall_mem_singleton.mpr
              (conforms_typeObject .enum "Color" (List.forall_mem_nil _))⟩⟩
  have hschema : Conforms (.record .schema) (.obj [("types", .arr faultyTypes)]) :=
    .record_of_forall rfl ⟨.lacks rfl ⟨rfl, rfl⟩, .lacks rfl ⟨rfl, rfl⟩, .lacks rfl ⟨rfl, rfl⟩,
      .holds (.inl rfl) (.list htypes)⟩
  have hdata : Conforms (.record .data) (.obj [("__schema", .obj [("types", .arr faultyTypes)])]) :=
    .record_of_forall rfl (.holds (.inl rfl) hschema)
  exact .record_of_forall rfl (.holds (.inl rfl) hdata)

/-- The enum does not use its broken field, and the argument comes before its field and before the
repeated name. -/
theorem schemaOfDocument_firstBroken_faultyDocument :
    Conforms (.record .document) faultyDocument ∧
      schemaOfDocument faultyDocument = .error (.malformed (.brokenName .enum)) ∧
      BreaksRule (typesIn faultyDocument) 2 .name (.repeatedType "Color") ∧
      ∃ index spot, BreaksRule (typesIn faultyDocument) index spot (.brokenName .enum) ∧
        ∀ later other reason, BreaksRule (typesIn faultyDocument) later other reason →
          index :: spot.rank ≤ later :: other.rank := by
  have herror : schemaOfDocument faultyDocument = .error (.malformed (.brokenName .enum)) := by
    have hschema : schemaOf faultyDocument = .error (.brokenName .enum) := by
      with_unfolding_all rfl
    rw [schemaOfDocument, decode_of_conforms conforms_faultyDocument, hschema]
    rfl
  obtain ⟨index, spot, cause, hcause, hbroken, hleast⟩ :=
    ((schemaOfDocument_firstBroken conforms_faultyDocument).2 _).mp herror
  cases hcause
  have hrepeated : BreaksRule (typesIn faultyDocument) 2 .name
      (.repeatedType (nameIn (typeObject .enum "Color" []))) :=
    .repeatedName rfl Nat.zero_lt_two rfl rfl
  exact ⟨conforms_faultyDocument, herror, hrepeated, index, spot, hbroken, hleast⟩

end SchemaBindings
