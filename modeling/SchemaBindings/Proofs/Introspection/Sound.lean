import SchemaBindings.Proofs.Introspection.Written
import SchemaBindings.Proofs.Schema.Sound
/-!
# Decoded schemas are sound

A document that decodes, loaded or as text, gives a sound schema (`schemaOf_isSound`): the names
of its types were compared while they were read, and every reference that a type keeps was checked
at every level. Filters keep it so, and what follows for references and look-ups is said in
`decoded_schema_guarantees`.
-/

set_option autoImplicit false
set_option relaxedAutoImplicit false

namespace SchemaBindings

open Introspection

theorem schemaOf_isSound {document : Json} {schema : Schema}
    (hschema : schemaOf document = .ok schema) : schema.IsSound := by
  obtain ⟨hforall, hnodup, -⟩ := namedTypesOf_eq_ok_iff.mp (schemaOf_eq_ok_iff.mp hschema).1
  have hchecked : List.Forall₂ (fun (type : NamedType) json ↦
      (∀ ref ∈ type.references, ref.WellFormed) ∧ namedTypeOf json = .ok type) schema.types _ :=
    (hforall.imp fun json type hok ↦ ⟨(namedTypeOf_eq_ok_iff.mp hok).2.2.2, hok⟩).flip
  exact ⟨hnodup, fun type _ ↦ type.isWrapper_kind, ((List.forall₂_and_left _ _).mp hchecked).1⟩

/-- A schema comes from a document that is already loaded, or from the text of one. -/
def IsDecoded (schema : Schema) : Prop :=
  (∃ document, schemaOfDocument document = .ok schema) ∨ ∃ text, schemaOfJson text = .ok schema

theorem ofMalformed_eq_ok_iff {α : Type} {decoded : Except Malformed α} {value : α} :
    ofMalformed decoded = .ok value ↔ decoded = .ok value := by
  cases decoded <;> simp [ofMalformed]

theorem IsDecoded.isSound {schema : Schema} (hdecoded : IsDecoded schema) : schema.IsSound := by
  rcases hdecoded with ⟨document, hdocument⟩ | ⟨text, htext⟩
  · have hdecode := ofMalformed_eq_ok_iff.mp hdocument
    exact schemaOf_isSound (decode_eq_ok_iff.mp hdecode).2
  · have hdecode := ofMalformed_eq_ok_iff.mp htext
    rw [decodeText] at hdecode
    split at hdecode
    · cases hdecode
    · split at hdecode
      · exact schemaOf_isSound hdecode
      · cases hdecode

/-- What holds of the types that are left of a decoded schema after any filters: distinct names, no
wrapper kinds, the rule on wrappers and names at every level of every reference, so that the
innermost level is a name and the end of the search, and look-ups that find every type itself, the
types that sorting gives back included. -/
theorem decoded_schema_guarantees {schema : Schema} (hdecoded : IsDecoded schema) (hooks : Hooks) :
    let kept := hooks.filterSchema schema
    (kept.types.map NamedType.name).Nodup ∧
      (∀ type ∈ kept.types, type.kind.isWrapper = false) ∧
      (∀ type ∈ kept.types, ∀ ref ∈ type.references, ∀ level ∈ ref.levels,
        (level.IsWrapped ∨ level.IsNamed) ∧ level.underlying.IsNamed ∧
          level.underlying.underlying = level.underlying) ∧
      (∀ type ∈ kept.types, kept.get? type.name = some type) ∧
      ∀ sorted, sortTypes kept.types = .ok sorted →
        ∀ type ∈ sorted, kept.get? type.name = some type := by
  intro kept
  have hsound : kept.IsSound := hdecoded.isSound.filterSchema hooks
  refine ⟨hsound.nodup_name, hsound.isWrapper_kind, fun type htype ref href level hlevel ↦ ?_,
    fun type htype ↦ hsound.get?_of_mem htype,
    fun sorted hsorted type htype ↦ hsound.get?_of_mem_sorted hsorted htype⟩
  have hwell := hsound.wellFormed type htype ref href
  refine ⟨(ref.wellFormed_iff_levels).mp hwell level hlevel, ?_, level.underlying_underlying⟩
  rw [TypeRef.underlying_of_mem_levels hlevel]
  exact hwell.isNamed_underlying

/-- The document of a schema, decoded and without its types of names that begin with `E`. A type
with a wrapped reference is left. -/
theorem decoded_schema_guarantees_episodeDocument :
    schemaOfDocument episodeDocument = .ok episodeSchema ∧
      let kept := Hooks.filterSchema { filters := [{ excludedStart := some "E" }] } episodeSchema
      kept.types.map NamedType.name = ["Query"] ∧
        (∀ type ∈ kept.types, ∀ ref ∈ type.references, ∀ level ∈ ref.levels,
          (level.IsWrapped ∨ level.IsNamed) ∧ level.underlying.IsNamed ∧
            level.underlying.underlying = level.underlying) ∧
        ∀ type ∈ kept.types, kept.get? type.name = some type := by
  have hdecode : decode episodeDocument = .ok episodeSchema :=
    writesDocument_episodeDocument.decode_eq nodup_episodeSchema wellFormed_episodeSchema
      shallow_episodeSchema
  have hdocument := ofMalformed_eq_ok_iff.mpr hdecode
  obtain ⟨-, -, hlevels, hfound, -⟩ := decoded_schema_guarantees
    (Or.inl ⟨episodeDocument, hdocument⟩) { filters := [{ excludedStart := some "E" }] }
  exact ⟨hdocument, rfl, hlevels, hfound⟩

end SchemaBindings
