import Mathlib.Data.List.Forall2
import SchemaBindings.Introspection.Decode
import SchemaBindings.Proofs.Except
import SchemaBindings.Proofs.Introspection.Conformance
/-!
# When a document decodes

Decoding runs level by level and stops at the first problem. One equivalence for each level says
when it gives a result and which: a reference when no level of it is broken
(`brokenLevel?_eq_none_iff`), a type when its references are well formed
(`namedTypeOf_eq_ok_iff`), the types when no name repeats (`namedTypesOf_eq_ok_iff`), and a document
when it has the shape of its model as well (`decode_eq_ok_iff`).
-/

set_option autoImplicit false
set_option relaxedAutoImplicit false

namespace SchemaBindings

namespace Introspection

/-! ### References -/

/-- The search for a broken level finds none when the reference obeys the rule. -/
theorem brokenLevel?_eq_none_iff (ref : TypeRef) : brokenLevel? ref = none ↔ ref.WellFormed := by
  induction ref with
  | plain kind name =>
    cases hwrapper : kind.isWrapper <;>
      simp [brokenLevel?, TypeRef.WellFormed, TypeRef.levelWellFormed, hwrapper,
        Option.isSome_iff_ne_none]
  | around kind name inner ih =>
    cases hwrapper : kind.isWrapper <;> cases name <;>
      simp [brokenLevel?, TypeRef.WellFormed, TypeRef.levelWellFormed, hwrapper, ih]

/-! ### Types -/

/-- A type decodes when its kind has a body and all its references obey the rule. -/
theorem namedTypeOf_eq_ok_iff {json : Json} {type : NamedType} :
    namedTypeOf json = .ok type ↔
      type.name = textOf (Key.ownName.value? json) ∧
        type.description = textOf (Key.description.value? json) ∧
        bodyOf? json (kindOf (Key.kind.value? json)) = some type.body ∧
        ∀ ref ∈ type.references, ref.WellFormed := by
  have hbroken (other : NamedType) : other.references.findSome? brokenLevel? = none ↔
      ∀ ref ∈ other.references, ref.WellFormed := by
    simp only [List.findSome?_eq_none_iff, brokenLevel?_eq_none_iff]
  rw [namedTypeOf, ← hbroken type]
  obtain ⟨name, description, body⟩ := type
  cases hbody : bodyOf? json (kindOf (Key.kind.value? json)) with
  | none => simp
  | some found =>
    simp only [Option.some.injEq]
    constructor
    · intro hok
      split at hok
      · cases hok
      · next hnone =>
        cases hok
        exact ⟨rfl, rfl, rfl, hnone⟩
    · rintro ⟨rfl, rfl, rfl, hnone⟩
      rw [hnone]

/-- The first type decodes, its name is not taken, and it is taken for the others. -/
theorem namedTypesOf_cons_eq_ok_iff {seen : List String} {json : Json} {rest : List Json}
    {types : List NamedType} :
    namedTypesOf seen (json :: rest) = .ok types ↔
      ∃ type others, namedTypeOf json = .ok type ∧ type.name ∉ seen ∧
        namedTypesOf (type.name :: seen) rest = .ok others ∧ type :: others = types := by
  have hname {type : NamedType} (htype : namedTypeOf json = .ok type) :
      textOf (Key.ownName.value? json) = type.name := (namedTypeOf_eq_ok_iff.mp htype).1.symm
  rw [namedTypesOf]
  by_cases htaken : textOf (Key.ownName.value? json) ∈ seen
  · simp only [List.contains_eq_mem, htaken, decide_true, if_true]
    constructor
    · exact nofun
    · rintro ⟨type, others, htype, hfree, -⟩
      exact absurd (hname htype ▸ htaken) hfree
  · simp only [List.contains_eq_mem, htaken, decide_false, Bool.false_eq_true, if_false,
      bind_eq_ok_iff]
    constructor
    · rintro ⟨type, htype, others, hothers, hok⟩
      cases hok
      rw [hname htype] at htaken hothers
      exact ⟨type, others, htype, htaken, hothers, rfl⟩
    · rintro ⟨type, others, htype, -, hothers, rfl⟩
      exact ⟨type, htype, others, hname htype ▸ hothers, rfl⟩

/-- The types of a document decode when each of them does and no name is taken. -/
theorem namedTypesOf_eq_ok_iff {seen : List String} {items : List Json} {types : List NamedType} :
    namedTypesOf seen items = .ok types ↔
      List.Forall₂ (fun json type ↦ namedTypeOf json = .ok type) items types ∧
        (types.map NamedType.name).Nodup ∧ ∀ type ∈ types, type.name ∉ seen := by
  induction items generalizing seen types with
  | nil =>
    rw [namedTypesOf, List.forall₂_nil_left_iff]
    constructor
    · intro hok
      cases hok
      simp
    · rintro ⟨rfl, -⟩
      rfl
  | cons json rest ih =>
    rw [namedTypesOf_cons_eq_ok_iff]
    simp only [ih, List.mem_cons, not_or]
    constructor
    · rintro ⟨type, others, htype, hfree, ⟨hforall, hnodup, hseen⟩, rfl⟩
      rw [List.map_cons, List.nodup_cons, List.mem_map, List.forall_mem_cons]
      refine ⟨hforall.cons htype, ⟨?_, hnodup⟩, hfree, fun other hother ↦ (hseen other hother).2⟩
      rintro ⟨other, hother, hsame⟩
      exact (hseen other hother).1 hsame
    · rintro ⟨hforall, hnodup, hseen⟩
      obtain ⟨type, others, htype, hothers, rfl⟩ := List.forall₂_cons_left_iff.mp hforall
      rw [List.map_cons, List.nodup_cons, List.mem_map] at hnodup
      rw [List.forall_mem_cons] at hseen
      refine ⟨type, others, htype, hseen.1, ⟨hothers, hnodup.2, fun other hother ↦ ?_⟩, rfl⟩
      exact ⟨fun hsame ↦ hnodup.1 ⟨other, hother, hsame⟩, hseen.2 other hother⟩

/-! ### Documents -/

/-- The object that holds the schema of a document. -/
def schemaEntry (document : Json) : Json :=
  (Key.schema.value? ((Key.data.value? document).getD .null)).getD .null

/-- A document of the right shape gives a schema when its types decode. -/
theorem schemaOf_eq_ok_iff {document : Json} {schema : Schema} :
    schemaOf document = .ok schema ↔
      namedTypesOf [] (itemsOf (Key.types.value? (schemaEntry document))) = .ok schema.types ∧
        schema.query = rootOf (Key.query.value? (schemaEntry document)) ∧
        schema.mutation = rootOf (Key.mutation.value? (schemaEntry document)) ∧
        schema.subscription = rootOf (Key.subscription.value? (schemaEntry document)) := by
  obtain ⟨types, query, mutation, subscription⟩ := schema
  rw [schemaOf, ← schemaEntry, bind_eq_ok_iff]
  constructor
  · rintro ⟨found, hfound, hok⟩
    cases hok
    exact ⟨hfound, rfl, rfl, rfl⟩
  · rintro ⟨htypes, rfl, rfl, rfl⟩
    exact ⟨types, htypes, rfl⟩

/-- A document of the right shape decodes to what is in it. -/
theorem decode_of_conforms {document : Json} (hconforms : Conforms (.record .document) document) :
    decode document = schemaOf document := by
  rw [decode, (problems_eq_nil_iff _ _).mpr hconforms]

/-- A document of the wrong shape is refused with its problems. -/
theorem decode_of_not_conforms {document : Json}
    (hconforms : ¬ Conforms (.record .document) document) :
    decode document = .error (.wrongShape ((Rule.record .document).problems document)) := by
  rw [decode]
  split
  · next hnil => exact absurd ((problems_eq_nil_iff _ _).mp hnil) hconforms
  · rfl

/-- A document decodes when it conforms to its model and gives a schema. -/
theorem decode_eq_ok_iff {document : Json} {schema : Schema} :
    decode document = .ok schema ↔
      Conforms (.record .document) document ∧ schemaOf document = .ok schema := by
  by_cases hconforms : Conforms (.record .document) document
  · rw [decode_of_conforms hconforms, and_iff_right hconforms]
  · rw [decode_of_not_conforms hconforms]
    exact iff_of_false nofun fun hboth ↦ hconforms hboth.1

end Introspection

end SchemaBindings
