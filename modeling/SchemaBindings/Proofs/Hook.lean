import SchemaBindings.Hook
import SchemaBindings.Proofs.Order.Counted
/-!
# What filters leave

Filters that run one after the other leave the types that all of them keep (`filterSchema_eq`), so
their order does not matter (`filterSchema_of_perm`). A custom type is kept or dropped for its name
alone (`keeps_of_isCustom`), so all declarations of a custom name share its fate: the types that
count after the filters are those that counted before them and are kept
(`countedTypes_filter_keeps`).
-/

set_option autoImplicit false
set_option relaxedAutoImplicit false

namespace SchemaBindings

namespace Hooks

/-- Whether a type passes every filter. -/
def keeps (hooks : Hooks) (type : NamedType) : Bool :=
  hooks.filters.all fun filter ↦ filter.keeps type

/-- Whether a custom name passes every filter. -/
def keepsName (hooks : Hooks) (name : String) : Bool :=
  hooks.filters.all fun filter ↦ filter.keepsName name

variable (hooks : Hooks)

theorem filterSchema_eq (schema : Schema) :
    hooks.filterSchema schema = { schema with types := schema.types.filter hooks.keeps } := by
  have hgeneral (filters : List TypeFilter) (start : Schema) :
      filters.foldl (fun schema filter ↦ filter.apply schema) start =
        { start with
          types := start.types.filter fun type ↦ filters.all fun filter ↦ filter.keeps type } := by
    induction filters generalizing start with
    | nil => simp
    | cons filter rest ih =>
      rw [List.foldl_cons, ih]
      simp only [TypeFilter.apply, List.filter_filter, List.all_cons, Bool.and_comm]
  exact hgeneral hooks.filters schema

@[simp] theorem types_filterSchema (schema : Schema) :
    (hooks.filterSchema schema).types = schema.types.filter hooks.keeps := by
  rw [filterSchema_eq]

theorem filterSchema_of_perm {permuted hooks : Hooks}
    (hperm : permuted.filters.Perm hooks.filters) (schema : Schema) :
    permuted.filterSchema schema = hooks.filterSchema schema := by
  have hkeeps : permuted.keeps = hooks.keeps := by
    funext type
    exact hperm.all_eq
  rw [filterSchema_eq, filterSchema_eq, hkeeps]

theorem keeps_of_isCustom {type : NamedType} (hcustom : type.isCustom = true) :
    hooks.keeps type = hooks.keepsName type.name := by
  simp only [keeps, keepsName, TypeFilter.keeps, hcustom, Bool.not_true, Bool.false_or]

end Hooks

/-! ### The types that count -/

/-- Erasing later copies and dropping names can be done in either order. -/
theorem eraseDups_filter (keep : String → Bool) (names : List String) :
    (names.filter keep).eraseDups = names.eraseDups.filter keep := by
  cases names with
  | nil => rfl
  | cons name rest =>
    have hrest := eraseDups_filter keep (rest.filter fun other ↦ !other == name)
    rw [List.eraseDups_cons]
    by_cases hname : keep name = true
    · rw [List.filter_cons_of_pos hname, List.filter_cons_of_pos hname, List.eraseDups_cons,
        ← hrest, List.filter_filter, List.filter_filter]
      simp only [Bool.and_comm]
    · rw [List.filter_cons_of_neg hname, List.filter_cons_of_neg hname, ← hrest, List.filter_filter]
      -- The copies of a dropped name are dropped anyway.
      have hsame : rest.filter keep = rest.filter fun other ↦ keep other && !other == name := by
        refine List.filter_congr fun other _ ↦ ?_
        by_cases heq : other = name
        · subst heq
          simp [hname]
        · simp [heq]
      rw [hsame]
termination_by names.length
decreasing_by
  have hshorter := List.length_filter_le (fun other ↦ !other == name) rest
  simp only [List.length_cons]
  omega

variable (hooks : Hooks) (types : List NamedType)

/-- The custom types that pass are those with names that pass. -/
theorem filter_isCustom_filter_keeps :
    (types.filter hooks.keeps).filter NamedType.isCustom =
      (types.filter NamedType.isCustom).filter fun type ↦ hooks.keepsName type.name := by
  rw [List.filter_filter, List.filter_filter]
  refine List.filter_congr fun type _ ↦ ?_
  cases hcustom : type.isCustom with
  | true => rw [hooks.keeps_of_isCustom hcustom, Bool.true_and, Bool.and_true]
  | false => rw [Bool.false_and, Bool.and_false]

theorem customNames_filter_keeps :
    customNames (types.filter hooks.keeps) = (customNames types).filter hooks.keepsName := by
  unfold customNames
  rw [filter_isCustom_filter_keeps, ← eraseDups_filter, List.filter_map]
  rfl

theorem countedTypes_filter_keeps :
    countedTypes (types.filter hooks.keeps) = (countedTypes types).filter hooks.keeps := by
  have hfound (name : String) (type : NamedType)
      (hfind : ((types.filter NamedType.isCustom).reverse.find? fun other ↦ other.name == name) =
        some type) : hooks.keeps type = hooks.keepsName name := by
    obtain ⟨hlast, rfl⟩ := (find?_reverse_eq_some_iff types name type).mp hfind
    obtain ⟨front, back, -, hcustom, -⟩ := hlast
    exact hooks.keeps_of_isCustom hcustom
  change (customNames (types.filter hooks.keeps)).filterMap _ =
    ((customNames types).filterMap _).filter _
  rw [customNames_filter_keeps, List.filterMap_filter, List.filter_filterMap]
  refine List.filterMap_congr fun name _ ↦ ?_
  rw [filter_isCustom_filter_keeps, ← List.filter_reverse, List.find?_filter]
  by_cases hname : hooks.keepsName name = true
  · have hsame : (fun type : NamedType ↦
        decide (hooks.keepsName type.name = true ∧ (type.name == name) = true)) =
        fun type ↦ type.name == name := by
      funext type
      by_cases heq : type.name = name
      · simp [heq, hname]
      · simp [heq]
    rw [if_pos hname, hsame]
    cases hfind : (types.filter NamedType.isCustom).reverse.find? fun type ↦ type.name == name with
    | none => rfl
    | some type => rw [Option.filter_some, if_pos ((hfound name type hfind).trans hname)]
  · rw [if_neg hname]
    cases hfind : (types.filter NamedType.isCustom).reverse.find? fun type ↦ type.name == name with
    | none => rfl
    | some type => rw [Option.filter_some, if_neg (by rw [hfound name type hfind]; exact hname)]

end SchemaBindings
