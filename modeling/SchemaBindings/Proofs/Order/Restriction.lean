import SchemaBindings.Proofs.Hook
import SchemaBindings.Proofs.Order.Cycle
import SchemaBindings.Proofs.Order.Level
/-!
# Sorting what filters leave

When some types of a sorted list are dropped and nothing that is kept depends on them, sorting what
is kept gives the same list without the dropped types. The queue runs differently, because dropped
types release nothing; but the order of arrival compares places in a list, and dropping elements
changes no such comparison between kept ones (`arrivesBefore_filter_iff`). As there is only one
arrangement in its own order of arrival, the rest of the old list is the new one
(`sortTypes_filter_of_closed`). When a kept type depends on a dropped one, its name is unknown, and
that is the only way to fail: dropping types makes no cycle (`sortTypes_filterSchema`).
-/

set_option autoImplicit false
set_option relaxedAutoImplicit false

namespace SchemaBindings

open Relation

/-! ### Comparing places -/

/-- Dropping elements changes no comparison between the places of kept ones. -/
theorem idxOf_filter_lt_iff {keep : String → Bool} {first second : String}
    (hfirst : keep first = true) (hsecond : keep second = true) (names : List String) :
    (names.filter keep).idxOf first < (names.filter keep).idxOf second ↔
      names.idxOf first < names.idxOf second := by
  induction names with
  | nil => simp
  | cons name rest ih =>
    by_cases hname : keep name = true
    · rw [List.filter_cons_of_pos hname]
      simp only [List.idxOf_cons]
      cases hbeFirst : name == first <;> cases hbeSecond : name == second <;> simp [ih]
    · have hneFirst : (name == first) = false :=
        beq_eq_false_iff_ne.mpr fun heq ↦ hname (heq ▸ hfirst)
      have hneSecond : (name == second) = false :=
        beq_eq_false_iff_ne.mpr fun heq ↦ hname (heq ▸ hsecond)
      rw [List.filter_cons_of_neg hname, ih]
      simp only [List.idxOf_cons, hneFirst, hneSecond, cond_false, Nat.add_lt_add_iff_right]

/-- The last dependency of a type stands before that of another one when some dependency of the
other stands behind all of its own. -/
theorem lastDependencyPlace_lt_iff (order : List String) (first second : NamedType) :
    lastDependencyPlace order first < lastDependencyPlace order second ↔
      ∃ last ∈ second.dependencies, ∀ name ∈ first.dependencies,
        order.idxOf name < order.idxOf last := by
  have hbelow (bound : Nat) : lastDependencyPlace order first < bound ↔
      ∀ name ∈ first.dependencies, order.idxOf name < bound := by
    rw [← Int.le_sub_one_iff, lastDependencyPlace_le_iff]
    constructor
    · intro hle name hname
      have := hle.2 name hname
      omega
    · intro hlt
      refine ⟨by omega, fun name hname ↦ ?_⟩
      have := hlt name hname
      omega
  simp only [← hbelow]
  constructor
  · intro hlt
    have hstart : -1 ≤ lastDependencyPlace order first :=
      ((lastDependencyPlace_le_iff order first _).mp le_rfl).1
    obtain ⟨last, hlast, hplace⟩ :=
      exists_idxOf_eq_lastDependencyPlace order second (by omega)
    exact ⟨last, hlast, hplace ▸ hlt⟩
  · rintro ⟨last, hlast, hlt⟩
    exact hlt.trans_le (idxOf_le_lastDependencyPlace order hlast)

/-- Dropping names keeps the order of arrival of types that are kept with all they depend on. -/
theorem arrivesBefore_filter_iff {keep : String → Bool} {first second : NamedType}
    (hfirst : keep first.name = true) (hsecond : keep second.name = true)
    (hfirstNeeds : ∀ name ∈ first.dependencies, keep name = true)
    (hsecondNeeds : ∀ name ∈ second.dependencies, keep name = true)
    (document order : List String) :
    ArrivesBefore (document.filter keep) (order.filter keep) first second ↔
      ArrivesBefore document order first second := by
  have hplace {third fourth : NamedType} (hthird : ∀ name ∈ third.dependencies, keep name = true)
      (hfourth : ∀ name ∈ fourth.dependencies, keep name = true) :
      lastDependencyPlace (order.filter keep) third <
          lastDependencyPlace (order.filter keep) fourth ↔
        lastDependencyPlace order third < lastDependencyPlace order fourth := by
    rw [lastDependencyPlace_lt_iff, lastDependencyPlace_lt_iff]
    refine exists_congr fun last ↦ and_congr_right fun hlast ↦ forall₂_congr fun name hname ↦ ?_
    exact idxOf_filter_lt_iff (hthird name hname) (hfourth last hlast) order
  have hforward := hplace hfirstNeeds hsecondNeeds
  have hbackward := hplace hsecondNeeds hfirstNeeds
  have hdocument := idxOf_filter_lt_iff hfirst hsecond document
  unfold ArrivesBefore
  omega

/-! ### Kept and dropped types -/

variable {types sorted : List NamedType} (hooks : Hooks)

/-- What depends on what among the types that are left did so before. -/
theorem DependsOn.of_filter_keeps {name dependency : String}
    (hdepends : DependsOn (types.filter hooks.keeps) name dependency) :
    DependsOn types name dependency := by
  obtain ⟨type, hdeclared, hname, hdependency⟩ := hdepends
  refine ⟨type, ?_, hname, hdependency⟩
  rw [← mem_countedTypes_iff, countedTypes_filter_keeps] at hdeclared
  exact (mem_countedTypes_iff types type).mp (List.mem_of_mem_filter hdeclared)

section Sorted

variable (hsorted : sortTypes types = .ok sorted)

include hsorted

/-- What counts after the filters is what is kept of the sorted types. -/
theorem mem_countedTypes_filter_iff (type : NamedType) :
    type ∈ countedTypes (types.filter hooks.keeps) ↔ type ∈ sorted.filter hooks.keeps := by
  rw [countedTypes_filter_keeps, List.mem_filter, List.mem_filter, mem_sorted_iff hsorted]

/-- Everything that a sorted type depends on is the name of a sorted type. -/
theorem exists_sorted_of_dependency {type : NamedType} (htype : type ∈ sorted) {name : String}
    (hname : name ∈ type.dependencies) : ∃ other ∈ sorted, other.name = name :=
  List.mem_map.mp ((isDependencyOrder_sorted hsorted).mem_of_dependency htype hname)

theorem keeps_of_mem_sorted {type : NamedType} (htype : type ∈ sorted) :
    hooks.keeps type = hooks.keepsName type.name :=
  hooks.keeps_of_isCustom (mem_of_mem_sorted hsorted htype).2

theorem map_name_filter_keeps :
    (sorted.filter hooks.keeps).map NamedType.name =
      (sorted.map NamedType.name).filter hooks.keepsName := by
  rw [List.filter_map]
  refine congrArg (List.map NamedType.name) (List.filter_congr fun type htype ↦ ?_)
  exact keeps_of_mem_sorted hooks hsorted htype

/-- The kept types are closed when none of them depends on a dropped one. -/
theorem isClosed_filter_iff :
    IsClosed (countedTypes (types.filter hooks.keeps)) ↔
      ∀ type ∈ sorted.filter hooks.keeps, ∀ name ∈ type.dependencies,
        hooks.keepsName name = true := by
  unfold IsClosed
  simp only [mem_countedTypes_filter_iff hooks hsorted]
  refine forall₂_congr fun type htype ↦ forall₂_congr fun name hname ↦ ?_
  obtain ⟨other, hother, rfl⟩ :=
    exists_sorted_of_dependency hsorted (List.mem_of_mem_filter htype) hname
  rw [map_name_countedTypes, customNames_filter_keeps, List.mem_filter]
  refine and_iff_right ?_
  rw [← map_name_countedTypes]
  exact List.mem_map_of_mem ((mem_sorted_iff hsorted other).mp hother)

/-- Dropping types makes no cycle. -/
theorem not_exists_cycle_filter :
    ¬∃ name, TransGen (DependsOn (types.filter hooks.keeps)) name name := by
  rintro ⟨name, hcycle⟩
  refine (exists_sorted_iff.mp ⟨sorted, hsorted⟩).2 ⟨name, ?_⟩
  exact TransGen.mono (fun _ _ hdepends ↦ hdepends.of_filter_keeps) _ _ hcycle

/-- The kept types stand in their own order of arrival. -/
theorem pairwise_arrivesBefore_filter
    (hneeds : ∀ type ∈ sorted.filter hooks.keeps, ∀ name ∈ type.dependencies,
      hooks.keepsName name = true) :
    (sorted.filter hooks.keeps).Pairwise (ArrivesBefore (customNames (types.filter hooks.keeps))
      ((sorted.filter hooks.keeps).map NamedType.name)) := by
  have hkept (type : NamedType) (htype : type ∈ sorted.filter hooks.keeps) :
      hooks.keepsName type.name = true := by
    obtain ⟨hmem, hkeeps⟩ := List.mem_filter.mp htype
    rwa [keeps_of_mem_sorted hooks hsorted hmem] at hkeeps
  rw [customNames_filter_keeps, map_name_filter_keeps hooks hsorted]
  refine List.Pairwise.imp_of_mem (fun {first second} hfirst hsecond harrives ↦ ?_)
    ((pairwise_arrivesBefore_sorted hsorted).filter hooks.keeps)
  exact (arrivesBefore_filter_iff (hkept first hfirst) (hkept second hsecond)
    (hneeds first hfirst) (hneeds second hsecond) _ _).mpr harrives

/-- Sorting what is kept gives what is kept of the sorted types. -/
theorem sortTypes_filter_of_closed
    (hneeds : ∀ type ∈ sorted.filter hooks.keeps, ∀ name ∈ type.dependencies,
      hooks.keepsName name = true) :
    sortTypes (types.filter hooks.keeps) = .ok (sorted.filter hooks.keeps) := by
  obtain ⟨resorted, hresorted⟩ := exists_sorted_iff.mpr
    ⟨(isClosed_filter_iff hooks hsorted).mpr hneeds, not_exists_cycle_filter hooks hsorted⟩
  have hmem (type : NamedType) : type ∈ resorted ↔ type ∈ sorted.filter hooks.keeps := by
    rw [mem_sorted_iff hresorted, mem_countedTypes_filter_iff hooks hsorted]
  have hperm : resorted.Perm (sorted.filter hooks.keeps) :=
    (List.perm_ext_iff_of_nodup (nodup_name_sorted hresorted).of_map
      ((nodup_name_sorted hsorted).of_map.filter _)).mpr hmem
  have hsame : resorted = sorted.filter hooks.keeps :=
    eq_of_perm_of_arrivesBefore [] hperm (isDependencyOrder_sorted hresorted)
      (pairwise_arrivesBefore_sorted hresorted)
      (pairwise_arrivesBefore_filter hooks hsorted hneeds)
  rw [hresorted, hsame]

/-- A kept type needs nothing dropped exactly when all that it depends on is kept. -/
theorem needs_kept_iff :
    (∀ type ∈ sorted.filter hooks.keeps, ∀ name ∈ type.dependencies,
        hooks.keepsName name = true) ↔
      ∀ type ∈ sorted.filter hooks.keeps, ∀ other ∈ sorted.filter fun type ↦ !hooks.keeps type,
        other.name ∉ type.dependencies := by
  constructor
  · intro hneeds type htype other hother hname
    obtain ⟨hmem, hdropped⟩ := List.mem_filter.mp hother
    rw [keeps_of_mem_sorted hooks hsorted hmem, hneeds type htype other.name hname] at hdropped
    cases hdropped
  · intro hneeds type htype name hname
    obtain ⟨other, hother, rfl⟩ :=
      exists_sorted_of_dependency hsorted (List.mem_of_mem_filter htype) hname
    by_contra hdropped
    refine hneeds type htype other (List.mem_filter.mpr ⟨hother, ?_⟩) hname
    rw [keeps_of_mem_sorted hooks hsorted hother, Bool.eq_false_iff.mpr hdropped]
    rfl

/-- When a kept type depends on a dropped one, such a type and such a dependency are reported. -/
theorem sortTypes_filter_of_dropped {type other : NamedType}
    (htype : type ∈ sorted.filter hooks.keeps)
    (hother : other ∈ sorted.filter fun type ↦ !hooks.keeps type)
    (hname : other.name ∈ type.dependencies) :
    ∃ type ∈ sorted.filter hooks.keeps, ∃ other ∈ sorted.filter fun type ↦ !hooks.keeps type,
      other.name ∈ type.dependencies ∧
        sortTypes (types.filter hooks.keeps) = .error (.unknownType type.name other.name) := by
  have hopen : ¬IsClosed (countedTypes (types.filter hooks.keeps)) := by
    rw [isClosed_filter_iff hooks hsorted, needs_kept_iff hooks hsorted]
    exact fun hneeds ↦ hneeds type htype other hother hname
  obtain ⟨typeName, dependency, hunknown⟩ :=
    (DependencyGraph.isClosed_or_exists_isFirstUnknown _).resolve_left hopen
  have hresult := sortTypes_of_isFirstUnknown hunknown
  obtain ⟨before, first, after, hsplit, rfl, -, front, back, hdependencies, -, hmissing⟩ := hunknown
  have hfirst : first ∈ sorted.filter hooks.keeps := by
    rw [← mem_countedTypes_filter_iff hooks hsorted, hsplit]
    exact List.mem_append_right _ List.mem_cons_self
  have hdependency : dependency ∈ first.dependencies := by
    rw [hdependencies]
    exact List.mem_append_right _ List.mem_cons_self
  obtain ⟨last, hlast, rfl⟩ :=
    exists_sorted_of_dependency hsorted (List.mem_of_mem_filter hfirst) hdependency
  refine ⟨first, hfirst, last, List.mem_filter.mpr ⟨hlast, ?_⟩, hdependency, hresult⟩
  -- A kept type of this name would be one of those that count.
  by_contra hkept
  rw [Bool.not_eq_true', Bool.not_eq_false] at hkept
  have hcounted := (mem_countedTypes_filter_iff hooks hsorted last).mpr
    (List.mem_filter.mpr ⟨hlast, hkept⟩)
  exact hmissing (List.mem_map_of_mem hcounted)

end Sorted

/-! ### Filters and sorting -/

/-- Filters commute with sorting. If no kept type depends on a dropped one, sorting the types that
are left gives the sorted types without the dropped ones, in the same order. If some kept type does,
such a type and a dropped type on which it depends are reported. No cycle is ever reported, and the
order in which the filters run does not matter. -/
theorem sortTypes_filterSchema {schema : Schema} {sorted : List NamedType}
    (hsorted : sortTypes schema.types = .ok sorted) (hooks : Hooks) :
    let kept := sorted.filter hooks.keeps
    let dropped := sorted.filter fun type ↦ !hooks.keeps type
    let resorted := sortTypes (hooks.filterSchema schema).types
    ((∀ type ∈ kept, ∀ other ∈ dropped, other.name ∉ type.dependencies) → resorted = .ok kept) ∧
      ((∃ type ∈ kept, ∃ other ∈ dropped, other.name ∈ type.dependencies) →
        ∃ type ∈ kept, ∃ other ∈ dropped, other.name ∈ type.dependencies ∧
          resorted = .error (.unknownType type.name other.name)) ∧
      (∀ names, resorted ≠ .error (.circular names)) ∧
      ∀ permuted : Hooks, permuted.filters.Perm hooks.filters →
        permuted.filterSchema schema = hooks.filterSchema schema := by
  intro kept dropped resorted
  have hfiltered : resorted = sortTypes (schema.types.filter hooks.keeps) :=
    congrArg sortTypes (hooks.types_filterSchema schema)
  refine ⟨fun hneeds ↦ ?_, ?_, fun names hcircular ↦ ?_, fun permuted hperm ↦ ?_⟩
  · rw [hfiltered]
    exact sortTypes_filter_of_closed hooks hsorted ((needs_kept_iff hooks hsorted).mpr hneeds)
  · rintro ⟨type, htype, other, hother, hname⟩
    rw [hfiltered]
    exact sortTypes_filter_of_dropped hooks hsorted htype hother hname
  · rw [hfiltered, sortTypes_eq_circular_iff] at hcircular
    exact not_exists_cycle_filter hooks hsorted hcircular.2.1
  · exact Hooks.filterSchema_of_perm hperm schema

/-- The type and the kind of the meta schema, between the types of a schema of one's own. -/
def metaTypes : List NamedType :=
  [{ name := "Query"
     body := .object [{ name := "hero", type := .plain .enum (some "Episode") }] [] },
   { name := "__Type"
     body := .object
       [{ name := "kind", type := .around .nonNull none (.plain .enum (some "__TypeKind")) }] [] },
   { name := "__TypeKind", body := .enum [{ name := "SCALAR" }] },
   { name := "Episode", body := .enum [{ name := "JEDI" }] }]

/-- Without the meta types the others are sorted as before, and without the meta kind alone its type
is left with an unknown dependency. -/
theorem sortTypes_filterSchema_metaTypes :
    ∃ sorted, sortTypes metaTypes = .ok sorted ∧
      sorted.map NamedType.name = ["__TypeKind", "Episode", "__Type", "Query"] ∧
      (∃ kept, sortTypes (Hooks.filterSchema
          { filters := [{ excludedStart := some "__" }, { excludedEnd := some "Input" }] }
          { types := metaTypes }).types = .ok kept ∧
        kept.map NamedType.name = ["Episode", "Query"]) ∧
      sortTypes (Hooks.filterSchema { filters := [{ excludedEnd := some "Kind" }] }
        { types := metaTypes }).types = .error (.unknownType "__Type" "__TypeKind") := by
  have hsorted : sortTypes metaTypes = .ok
      [{ name := "__TypeKind", body := .enum [{ name := "SCALAR" }] },
       { name := "Episode", body := .enum [{ name := "JEDI" }] },
       { name := "__Type"
         body := .object
           [{ name := "kind", type := .around .nonNull none (.plain .enum (some "__TypeKind")) }]
           [] },
       { name := "Query"
         body := .object [{ name := "hero", type := .plain .enum (some "Episode") }] [] }] := by
    rfl
  obtain ⟨hkept, -⟩ := @sortTypes_filterSchema { types := metaTypes } _ hsorted
    { filters := [{ excludedStart := some "__" }, { excludedEnd := some "Input" }] }
  obtain ⟨-, hdropped, -⟩ := @sortTypes_filterSchema { types := metaTypes } _ hsorted
    { filters := [{ excludedEnd := some "Kind" }] }
  refine ⟨_, hsorted, rfl, ⟨_, hkept (by decide), by decide⟩, ?_⟩
  obtain ⟨type, htype, other, hother, hname, hunknown⟩ := hdropped (by decide)
  have hpair : type.name = "__Type" ∧ other.name = "__TypeKind" := by
    clear hunknown
    revert type other
    decide
  rwa [hpair.1, hpair.2] at hunknown

end SchemaBindings
