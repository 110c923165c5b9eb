import SchemaBindings.Hook
import SchemaBindings.Proofs.Order.Sorted
import SchemaBindings.Proofs.Schema.Reference
/-!
# Sound schemas

In a sound schema no two types have one name, no type is of a wrapper kind, and every reference
obeys the rule on wrappers and names. Filters keep a schema sound (`IsSound.filterSchema`). A sound
schema finds every type under its own name, and so it does for the types that sorting gives back,
although a look-up takes the first type of a name and sorting the last
(`IsSound.get?_of_mem_sorted`).
-/

set_option autoImplicit false
set_option relaxedAutoImplicit false

namespace SchemaBindings

/-- Distinct names, no wrapper kinds, and references that obey the rule on wrappers and names. -/
structure Schema.IsSound (schema : Schema) : Prop where
  nodup_name : (schema.types.map NamedType.name).Nodup
  isWrapper_kind : ∀ type ∈ schema.types, type.kind.isWrapper = false
  wellFormed : ∀ type ∈ schema.types, ∀ ref ∈ type.references, ref.WellFormed

/-- What a type declares is never a wrapper. -/
theorem NamedType.isWrapper_kind (type : NamedType) : type.kind.isWrapper = false := by
  obtain ⟨name, description, body⟩ := type
  cases body <;> rfl

namespace Schema.IsSound

variable {schema : Schema}

/-! ### Filters -/

/-- A filter drops types and changes none. -/
theorem apply (hsound : schema.IsSound) (filter : TypeFilter) : (filter.apply schema).IsSound where
  nodup_name := hsound.nodup_name.sublist (List.filter_sublist.map NamedType.name)
  isWrapper_kind type htype := hsound.isWrapper_kind type (List.mem_of_mem_filter htype)
  wellFormed type htype := hsound.wellFormed type (List.mem_of_mem_filter htype)

theorem foldl_apply (hsound : schema.IsSound) (filters : List TypeFilter) :
    (filters.foldl (fun schema filter ↦ filter.apply schema) schema).IsSound := by
  induction filters generalizing schema with
  | nil => exact hsound
  | cons filter rest ih => exact ih (hsound.apply filter)

theorem filterSchema (hsound : schema.IsSound) (hooks : Hooks) :
    (hooks.filterSchema schema).IsSound :=
  hsound.foldl_apply hooks.filters

/-! ### Look-up -/

theorem get?_of_mem (hsound : schema.IsSound) {type : NamedType} (htype : type ∈ schema.types) :
    schema.get? type.name = some type :=
  find?_name_eq_some hsound.nodup_name htype

/-- What sorting gives back is found under its name. -/
theorem get?_of_mem_sorted (hsound : schema.IsSound) {sorted : List NamedType}
    (hsorted : sortTypes schema.types = .ok sorted) {type : NamedType} (htype : type ∈ sorted) :
    schema.get? type.name = some type :=
  hsound.get?_of_mem (mem_of_mem_sorted hsorted htype).1

end Schema.IsSound

end SchemaBindings
