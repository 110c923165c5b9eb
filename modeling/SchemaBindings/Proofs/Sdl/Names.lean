import Mathlib.Data.List.Nodup
import SchemaBindings.Sdl.Declared
import SchemaBindings.Sdl.Rules
/-!
# The names of a declared schema

A document that obeys the rules on documents defines each type once
(`nodup_typeNames`). The names that are collected from its types and the standard ones are distinct
then and hold those of the document (`nodup_orderedNames`, `subset_orderedNames`), so the types of
the schema that it declares have distinct names (`nodup_name_declared`), and each type of the
document is among them (`mem_declared_types`).
-/

set_option autoImplicit false
set_option relaxedAutoImplicit false

namespace SchemaBindings.Sdl

/-! ### Definitions -/

/-- What is found under a name has this name. -/
theorem name_of_find? {definitions : List TypeDefinition} {name : String}
    {definition : TypeDefinition}
    (hfound : definitions.find? (fun other ↦ other.name == name) = some definition) :
    definition.name = name := by
  have hname := List.find?_some hfound
  exact beq_iff_eq.mp hname

/-- The types of a document have the names that it defines. -/
theorem map_name_declaredTypes (document : Document) :
    document.declaredTypes.map TypeDefinition.name = document.typeNames := by
  rw [Document.declaredTypes, Document.typeNames, List.map_map]
  refine List.map_congr_left fun definition _ ↦ ?_
  show ((Standard.type? definition.name).getD (document.joined definition)).name = definition.name
  cases hstandard : Standard.type? definition.name with
  | none => rfl
  | some standard => exact name_of_find? hstandard

/-- A definition without problems has a name of its own. -/
theorem notMem_of_typePartProblems {document : Document} {earlier : List Definition}
    {definition : TypeDefinition}
    (hnone : document.typePartProblems earlier false definition = []) :
    definition.name ∉ (earlier.filterMap Definition.type?).map TypeDefinition.name := by
  intro htaken
  obtain ⟨other, hother, hname⟩ := List.mem_map.mp htaken
  have hany : (earlier.filterMap Definition.type?).any
      (fun part ↦ part.name == definition.name) = true :=
    List.any_eq_true.mpr ⟨other, hother, beq_iff_eq.mpr hname⟩
  simp only [Document.typePartProblems, List.append_eq_nil_iff, hany] at hnone
  obtain ⟨⟨⟨⟨⟨⟨htwice, -⟩, -⟩, -⟩, -⟩, -⟩, -⟩ := hnone
  cases htwice

/-- A definition under a taken name is a problem, so without problems the names stay distinct. -/
theorem nodup_of_problemsFrom {document : Document} {earlier rest : List Definition}
    (hnone : document.problemsFrom earlier rest = [])
    (hearlier : ((earlier.filterMap Definition.type?).map TypeDefinition.name).Nodup) :
    (((earlier ++ rest).filterMap Definition.type?).map TypeDefinition.name).Nodup := by
  induction rest generalizing earlier with
  | nil =>
    rw [List.append_nil]
    exact hearlier
  | cons definition rest ih =>
    rw [Document.problemsFrom, List.append_eq_nil_iff] at hnone
    obtain ⟨hdefinition, hrest⟩ := hnone
    have hnext := ih hrest
    rw [List.append_assoc, List.singleton_append] at hnext
    refine hnext ?_
    rw [List.filterMap_append, List.map_append]
    cases definition with
    | type definition =>
      have hname : definition.name ∉ (earlier.filterMap Definition.type?).map TypeDefinition.name :=
        notMem_of_typePartProblems hdefinition
      exact List.nodup_append_comm.mp (List.nodup_cons.mpr ⟨hname, hearlier⟩)
    | _ => exact (List.append_nil _).symm ▸ hearlier

theorem nodup_typeNames {document : Document} (hrules : document.problems = []) :
    document.typeNames.Nodup :=
  nodup_of_problemsFrom hrules List.nodup_nil

/-! ### Collected names -/

section Collected

variable {table : List TypeDefinition}

theorem nodup_foldl {step : List String → String → List String}
    (hstep : ∀ seen name, seen.Nodup → (step seen name).Nodup) {seen : List String}
    (hseen : seen.Nodup) (names : List String) : (names.foldl step seen).Nodup := by
  induction names generalizing seen with
  | nil => exact hseen
  | cons name names ih => exact ih (hstep seen name hseen)

theorem subset_foldl {step : List String → String → List String}
    (hstep : ∀ seen name, seen ⊆ step seen name) (seen names : List String) :
    seen ⊆ names.foldl step seen := by
  induction names generalizing seen with
  | nil => exact List.Subset.refl seen
  | cons name names ih => exact List.Subset.trans (hstep seen name) (ih _)

theorem nodup_collect (fuel : ℕ) {seen : List String} (hseen : seen.Nodup) (name : String) :
    (collect table fuel seen name).Nodup := by
  induction fuel generalizing seen name with
  | zero => exact hseen
  | succ fuel ih =>
    rw [collect]
    split_ifs with htaken
    · exact hseen
    · refine nodup_foldl (fun _ name hseen ↦ ih hseen name) ?_ _
      rw [List.nodup_append_comm]
      exact List.nodup_cons.mpr ⟨mt List.contains_iff_mem.mpr htaken, hseen⟩

theorem subset_collect (fuel : ℕ) (seen : List String) (name : String) :
    seen ⊆ collect table fuel seen name := by
  induction fuel generalizing seen name with
  | zero => exact List.Subset.refl seen
  | succ fuel ih =>
    rw [collect]
    split_ifs
    · exact List.Subset.refl seen
    · exact List.Subset.trans (List.subset_append_left seen [name]) (subset_foldl ih _ _)

theorem mem_collect (fuel : ℕ) (seen : List String) (name : String) :
    name ∈ collect table (fuel + 1) seen name := by
  rw [collect]
  split_ifs with htaken
  · exact List.contains_iff_mem.mp htaken
  · exact subset_foldl (subset_collect fuel) _ _
      (List.mem_append_right seen (List.mem_singleton_self name))

/-- A declared name that is taken out comes back in at once, and the others stay. -/
theorem subset_collect_erase (fuel : ℕ) (seen : List String) (name : String) :
    seen ⊆ collect table (fuel + 1) (seen.erase name) name := by
  intro other hother
  by_cases hsame : other = name
  · rw [hsame]
    exact mem_collect fuel _ name
  · exact subset_collect _ _ _ ((List.mem_erase_of_ne hsame).mpr hother)

theorem nodup_orderedNames {declared : List String} (hdeclared : declared.Nodup)
    (mentioned : List String) : (orderedNames table declared mentioned).Nodup := by
  refine nodup_foldl (fun _ name hseen ↦ nodup_collect _ hseen name) ?_ mentioned
  exact nodup_foldl (fun _ name hseen ↦ nodup_collect _ (hseen.erase name) name) hdeclared declared

theorem subset_orderedNames (declared mentioned : List String) :
    declared ⊆ orderedNames table declared mentioned :=
  List.Subset.trans (subset_foldl (subset_collect_erase table.length) declared declared)
    (subset_foldl (subset_collect (table.length + 1)) _ mentioned)

end Collected

/-! ### Types -/

/-- What is found under names has these names. -/
theorem map_name_filterMap_find?_sublist (table : List TypeDefinition) (names : List String) :
    ((names.filterMap fun name ↦ table.find? fun type ↦ type.name == name).map
      TypeDefinition.name).Sublist names := by
  induction names with
  | nil => exact List.Sublist.slnil
  | cons name names ih =>
    rw [List.filterMap_cons]
    split
    · exact ih.cons name
    · next definition hfound =>
      rw [List.map_cons, name_of_find? hfound]
      exact ih.cons_cons name

/-- Of definitions with distinct names, a look-up by name finds the one of that name. -/
theorem find?_definition_eq_some {definitions : List TypeDefinition}
    (hnodup : (definitions.map TypeDefinition.name).Nodup) {definition : TypeDefinition}
    (hmem : definition ∈ definitions) :
    definitions.find? (fun other ↦ other.name == definition.name) = some definition := by
  cases hfound : definitions.find? (fun other ↦ other.name == definition.name) with
  | none => exact absurd (beq_self_eq_true definition.name) (List.find?_eq_none.mp hfound _ hmem)
  | some other =>
    rw [List.inj_on_of_nodup_map hnodup (List.mem_of_find?_eq_some hfound) hmem
      (name_of_find? hfound)]

theorem nodup_name_declared {document : Document} (hrules : document.problems = []) :
    (document.declared.types.map TypeDefinition.name).Nodup := by
  have hnames : (document.declaredTypes.map TypeDefinition.name).Nodup := by
    rw [map_name_declaredTypes]
    exact nodup_typeNames hrules
  exact (map_name_filterMap_find?_sublist _ _).nodup (nodup_orderedNames hnames _)

/-- Each type of a document is a type of the schema that the document declares. -/
theorem mem_declared_types {document : Document} (hrules : document.problems = [])
    {definition : TypeDefinition} (hdefinition : definition ∈ document.declaredTypes) :
    definition ∈ document.declared.types := by
  have hnodup : (document.declaredTypes.map TypeDefinition.name).Nodup := by
    rw [map_name_declaredTypes]
    exact nodup_typeNames hrules
  have hname : definition.name ∈ document.declaredTypes.map TypeDefinition.name :=
    List.mem_map_of_mem hdefinition
  refine List.mem_filterMap.mpr ⟨definition.name, subset_orderedNames _ _ hname, ?_⟩
  rw [List.find?_append, find?_definition_eq_some hnodup hdefinition]
  rfl

end SchemaBindings.Sdl
