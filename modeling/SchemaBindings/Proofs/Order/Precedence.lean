import Mathlib.Data.List.Basic
import Mathlib.Data.List.Nodup
import SchemaBindings.Order.Dependency
/-!
# Dependency order

A list of types is in dependency order when everything that a type depends on is the name of a type
before it. Such a list holds all the names its types depend on, and when its names are pairwise
distinct the place of a name is after the places of its dependencies (`IsDependencyOrder.idxOf_lt`).
-/

set_option autoImplicit false
set_option relaxedAutoImplicit false

namespace SchemaBindings

/-- Everything that a type of the list depends on is the name of a type before it. -/
def IsDependencyOrder (sorted : List NamedType) : Prop :=
  ∀ before type after, sorted = before ++ type :: after →
    ∀ name ∈ type.dependencies, name ∈ before.map NamedType.name

theorem IsDependencyOrder.append_singleton {sorted : List NamedType}
    (hsorted : IsDependencyOrder sorted) {type : NamedType}
    (htype : ∀ name ∈ type.dependencies, name ∈ sorted.map NamedType.name) :
    IsDependencyOrder (sorted ++ [type]) := by
  intro before other after hsplit name hname
  rcases List.eq_nil_or_concat after with rfl | ⟨rest, last, rfl⟩
  · obtain ⟨hbefore, hlast⟩ := List.append_inj' hsplit rfl
    rw [List.singleton_inj] at hlast
    rw [← hbefore]
    exact htype name (hlast ▸ hname)
  · have hrest : sorted ++ [type] = (before ++ other :: rest) ++ [last] := by
      rw [hsplit]
      simp
    obtain ⟨hbefore, -⟩ := List.append_inj' hrest rfl
    exact hsorted before other rest hbefore name hname

/-- In a dependency order everything that a type depends on is the name of a type. -/
theorem IsDependencyOrder.mem_of_dependency {sorted : List NamedType}
    (hsorted : IsDependencyOrder sorted) {type : NamedType} (hmem : type ∈ sorted) {name : String}
    (hname : name ∈ type.dependencies) : name ∈ sorted.map NamedType.name := by
  obtain ⟨before, after, hsplit⟩ := List.append_of_mem hmem
  rw [hsplit, List.map_append]
  exact List.mem_append_left _ (hsorted before type after hsplit name hname)

/-- In a dependency order the place of a name is after the places of its dependencies. -/
theorem IsDependencyOrder.idxOf_lt {sorted : List NamedType} (hsorted : IsDependencyOrder sorted)
    (hnodup : (sorted.map NamedType.name).Nodup) {type : NamedType} (hmem : type ∈ sorted)
    {name : String} (hname : name ∈ type.dependencies) :
    (sorted.map NamedType.name).idxOf name < (sorted.map NamedType.name).idxOf type.name := by
  obtain ⟨before, after, rfl⟩ := List.append_of_mem hmem
  have hbefore := hsorted before type after rfl name hname
  have htype : type.name ∉ before.map NamedType.name := by
    rw [List.map_append, List.nodup_append] at hnodup
    exact fun hin ↦ hnodup.2.2 _ hin type.name (by simp) rfl
  rw [List.map_append, List.idxOf_append_of_mem hbefore, List.idxOf_append_of_notMem htype]
  exact Nat.lt_of_lt_of_le (List.idxOf_lt_length_of_mem hbefore) (Nat.le_add_right _ _)

/-- Types with pairwise distinct names stand in a list in the order of the places of their names. -/
theorem rel_of_idxOf_lt {sorted : List NamedType} (hnodup : (sorted.map NamedType.name).Nodup)
    {relation : NamedType → NamedType → Prop} (hpairwise : sorted.Pairwise relation)
    {first second : NamedType} (hfirst : first ∈ sorted) (hsecond : second ∈ sorted)
    (hlt : (sorted.map NamedType.name).idxOf first.name <
      (sorted.map NamedType.name).idxOf second.name) : relation first second := by
  obtain ⟨before, after, rfl⟩ := List.append_of_mem hsecond
  rw [List.map_append, List.map_cons] at hlt hnodup
  have hsecondNotIn : second.name ∉ before.map NamedType.name := fun hin ↦
    (List.nodup_append.mp hnodup).2.2 _ hin second.name List.mem_cons_self rfl
  rw [List.idxOf_append_of_notMem hsecondNotIn, List.idxOf_cons_self] at hlt
  have hbefore : first.name ∈ before.map NamedType.name := by
    by_contra hnotIn
    rw [List.idxOf_append_of_notMem hnotIn] at hlt
    omega
  obtain ⟨other, hother, hname⟩ := List.mem_map.mp hbefore
  have hsame : other = first := List.inj_on_of_nodup_map (by rwa [List.map_append, List.map_cons])
    (List.mem_append_left _ hother) hfirst hname
  exact (List.pairwise_append.mp hpairwise).2.2 first (hsame ▸ hother) second List.mem_cons_self

end SchemaBindings
