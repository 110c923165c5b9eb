import Mathlib.Data.List.Basic
import Mathlib.Data.List.Nodup
import SchemaBindings.Order.Graph
/-!
# The types that count

A list of types may declare a custom name several times. `countedTypes` keeps one type for each
name. Its names are the custom names of the list in the order of their first declarations
(`map_name_countedTypes`), and the type kept under a name is the last one declared under it
(`mem_countedTypes_iff`).
-/

set_option autoImplicit false
set_option relaxedAutoImplicit false

namespace SchemaBindings

/-! ### Look-up by name in a list without repeated names -/

/-- Erasing later copies leaves no repetition. -/
theorem nodup_eraseDups (names : List String) : names.eraseDups.Nodup := by
  cases names with
  | nil => simp
  | cons name rest =>
    rw [List.eraseDups_cons]
    refine List.nodup_cons.mpr ⟨?_, nodup_eraseDups _⟩
    simp [List.mem_eraseDups]
termination_by names.length
decreasing_by
  have hshorter := List.length_filter_le (fun other ↦ !other == name) rest
  simp only [List.length_cons]
  omega

/-- Of types with pairwise distinct names, a look-up by name finds the one of that name. -/
theorem find?_name_eq_some {types : List NamedType} (hnodup : (types.map NamedType.name).Nodup)
    {type : NamedType} (hmem : type ∈ types) :
    types.find? (fun other ↦ other.name == type.name) = some type := by
  induction types with
  | nil => simp at hmem
  | cons first rest ih =>
    rw [List.map_cons, List.nodup_cons] at hnodup
    by_cases hfirst : first = type
    · subst hfirst
      simp
    · have hrest : type ∈ rest := (List.mem_cons.mp hmem).resolve_left (Ne.symm hfirst)
      have hname : (first.name == type.name) = false := by
        rw [beq_eq_false_iff_ne]
        exact fun heq ↦ hnodup.1 (heq ▸ List.mem_map_of_mem hrest)
      rw [List.find?_cons, hname]
      exact ih hnodup.2 hrest

/-- Types with pairwise distinct names are determined by their names. -/
theorem eq_of_name_eq {types : List NamedType} (hnodup : (types.map NamedType.name).Nodup)
    {first second : NamedType} (hfirst : first ∈ types) (hsecond : second ∈ types)
    (hname : first.name = second.name) : first = second :=
  List.inj_on_of_nodup_map hnodup hfirst hsecond hname

/-- Two lists of types, taken from types with pairwise distinct names, are equal when their names
are. -/
theorem eq_of_map_name_eq {types : List NamedType} (hnodup : (types.map NamedType.name).Nodup)
    {first second : List NamedType} (hfirst : ∀ type ∈ first, type ∈ types)
    (hsecond : ∀ type ∈ second, type ∈ types)
    (hnames : first.map NamedType.name = second.map NamedType.name) : first = second := by
  induction first generalizing second with
  | nil => exact (List.map_eq_nil_iff.mp hnames.symm).symm
  | cons type rest ih =>
    obtain ⟨other, others, rfl, hname, hrest⟩ := List.map_eq_cons_iff.mp hnames.symm
    rw [eq_of_name_eq hnodup (hfirst type List.mem_cons_self) (hsecond other List.mem_cons_self)
      hname.symm, ih (fun type htype ↦ hfirst type (List.mem_cons_of_mem _ htype))
      (fun type htype ↦ hsecond type (List.mem_cons_of_mem _ htype)) hrest.symm]

/-- In a table with one entry for each type, a look-up gives the entry of the type it finds. -/
theorem lookup_map_name {Entry : Type} (entry : NamedType → Entry) (types : List NamedType)
    (name : String) :
    (types.map fun type ↦ (type.name, entry type)).lookup name =
      (types.find? fun type ↦ type.name == name).map entry := by
  induction types with
  | nil => rfl
  | cons first rest ih =>
    rw [List.map_cons, List.lookup_cons, List.find?_cons, Bool.beq_comm]
    cases first.name == name with
    | true => rfl
    | false => exact ih

/-! ### Names and last declarations -/

/-- The custom names of a list, in the order of their first declarations. -/
def customNames (types : List NamedType) : List String :=
  ((types.filter NamedType.isCustom).map NamedType.name).eraseDups

/-- A type is custom and no custom type after it has its name. -/
def IsLastDeclaration (types : List NamedType) (type : NamedType) : Prop :=
  ∃ front back, types = front ++ type :: back ∧ type.isCustom = true ∧
    ∀ other ∈ back, other.isCustom = true → other.name ≠ type.name

theorem mem_customNames_iff (types : List NamedType) (name : String) :
    name ∈ customNames types ↔ ∃ type ∈ types, type.isCustom = true ∧ type.name = name := by
  simp [customNames, List.mem_eraseDups, and_assoc]

/-- The search from the end finds the last declaration of a name. -/
theorem find?_reverse_eq_some_iff (types : List NamedType) (name : String) (type : NamedType) :
    ((types.filter NamedType.isCustom).reverse.find? fun other ↦ other.name == name) = some type ↔
      IsLastDeclaration types type ∧ type.name = name := by
  rw [List.find?_eq_some_iff_append]
  constructor
  · rintro ⟨hname, after, before, hsplit, hafter⟩
    have hname : type.name = name := by simpa using hname
    have hfilter : types.filter NamedType.isCustom = before.reverse ++ type :: after.reverse := by
      have hreverse := congrArg List.reverse hsplit
      simpa using hreverse
    obtain ⟨front, rest, htypes, -, hrest⟩ := List.filter_eq_append_iff.mp hfilter
    obtain ⟨skipped, back, hrestEq, -, hcustom, hback⟩ := List.filter_eq_cons_iff.mp hrest
    refine ⟨⟨front ++ skipped, back, ?_, hcustom, ?_⟩, hname⟩
    · rw [htypes, hrestEq, List.append_assoc]
    · intro other hother hotherCustom hsame
      have hmem : other ∈ after := by
        rw [← List.mem_reverse, ← hback]
        exact List.mem_filter.mpr ⟨hother, hotherCustom⟩
      have hne := hafter other hmem
      simp [hsame, hname] at hne
  · rintro ⟨⟨front, back, htypes, hcustom, hback⟩, hname⟩
    refine ⟨by simpa using hname, (back.filter NamedType.isCustom).reverse,
      (front.filter NamedType.isCustom).reverse, ?_, ?_⟩
    · rw [htypes, List.filter_append, List.filter_cons_of_pos hcustom]
      simp
    · intro other hother
      rw [List.mem_reverse, List.mem_filter] at hother
      have hne := hback other hother.1 hother.2
      rw [hname] at hne
      simpa using hne

/-- Every custom name has a last declaration. -/
theorem exists_isLastDeclaration {types : List NamedType} {name : String}
    (hname : name ∈ customNames types) :
    ∃ type, IsLastDeclaration types type ∧ type.name = name := by
  obtain ⟨type, hmem, hcustom, hnamed⟩ := (mem_customNames_iff types name).mp hname
  have hsome : ((types.filter NamedType.isCustom).reverse.find?
      fun other ↦ other.name == name).isSome = true := by
    rw [List.find?_isSome]
    exact ⟨type, by simp [hmem, hcustom], by simpa using hnamed⟩
  obtain ⟨last, hlast⟩ := Option.isSome_iff_exists.mp hsome
  exact ⟨last, (find?_reverse_eq_some_iff types name last).mp hlast⟩

theorem IsLastDeclaration.name_mem_customNames {types : List NamedType} {type : NamedType}
    (hlast : IsLastDeclaration types type) : type.name ∈ customNames types := by
  obtain ⟨front, back, htypes, hcustom, -⟩ := hlast
  exact (mem_customNames_iff types type.name).mpr ⟨type, by simp [htypes], hcustom, rfl⟩

/-- The types that count stand under the custom names, in the order of first declarations. -/
theorem map_name_countedTypes (types : List NamedType) :
    (countedTypes types).map NamedType.name = customNames types := by
  have hgeneral (names : List String) (hnames : ∀ name ∈ names, name ∈ customNames types) :
      (names.filterMap fun name ↦ (types.filter NamedType.isCustom).reverse.find?
        fun type ↦ type.name == name).map NamedType.name = names := by
    induction names with
    | nil => rfl
    | cons name rest ih =>
      obtain ⟨type, hlast, hname⟩ := exists_isLastDeclaration (hnames name List.mem_cons_self)
      have hfind := (find?_reverse_eq_some_iff types name type).mpr ⟨hlast, hname⟩
      rw [List.filterMap_cons, hfind, List.map_cons, hname,
        ih fun other hother ↦ hnames other (List.mem_cons_of_mem _ hother)]
  exact hgeneral (customNames types) fun _ hname ↦ hname

theorem nodup_name_countedTypes (types : List NamedType) :
    ((countedTypes types).map NamedType.name).Nodup := by
  rw [map_name_countedTypes]
  exact nodup_eraseDups _

/-- The types that count are the last declarations of the custom names. -/
theorem mem_countedTypes_iff (types : List NamedType) (type : NamedType) :
    type ∈ countedTypes types ↔ IsLastDeclaration types type := by
  change type ∈ (customNames types).filterMap (fun name ↦
    (types.filter NamedType.isCustom).reverse.find? fun other ↦ other.name == name) ↔ _
  rw [List.mem_filterMap]
  constructor
  · rintro ⟨name, -, hfind⟩
    exact ((find?_reverse_eq_some_iff types name type).mp hfind).1
  · intro hlast
    exact ⟨type.name, hlast.name_mem_customNames,
      (find?_reverse_eq_some_iff types type.name type).mpr ⟨hlast, rfl⟩⟩

/-- A name belongs to a type that counts when it is a custom name of the list. -/
theorem mem_map_name_countedTypes_iff (types : List NamedType) (name : String) :
    name ∈ (countedTypes types).map NamedType.name ↔
      ∃ type ∈ types, type.isCustom = true ∧ type.name = name := by
  rw [map_name_countedTypes, mem_customNames_iff]

end SchemaBindings
