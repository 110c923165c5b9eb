import Mathlib.Data.List.Induction
import SchemaBindings.Proofs.Order.Graph
/-!
# Arrivals at the queue

Which types have joined the queue is a function of the names emitted so far. The types that depend
on nothing come first; an emitted name releases the types that depend on it and on nothing that is
not emitted yet, in the order of the list. `arrivals` lists them all, those that have left the
queue again included: a type has arrived when its dependencies are all emitted (`mem_arrivals_iff`),
and it arrives once (`nodup_arrivals`).
-/

set_option autoImplicit false
set_option relaxedAutoImplicit false

namespace SchemaBindings

/-- The types of a list that depend on nothing. -/
def sources (types : List NamedType) : List NamedType :=
  types.filter fun type ↦ type.dependencies.isEmpty

/-- The types that an emitted name releases, when the names in `before` are emitted before it. -/
def released (types : List NamedType) (before : List String) (name : String) : List NamedType :=
  types.filter fun type ↦
    type.dependencies.contains name && type.dependencies.all fun other ↦
      (before ++ [name]).contains other

/-- The types released by some names, one after the other, after the names in `before`. -/
def releasedAfter (types : List NamedType) : (before names : List String) → List NamedType
  | _, [] => []
  | before, name :: names =>
    released types before name ++ releasedAfter types (before ++ [name]) names

/-- The types that have joined the queue when the names in `done` are emitted, in the order in
which they joined. -/
def arrivals (types : List NamedType) (done : List String) : List NamedType :=
  sources types ++ releasedAfter types [] done

theorem mem_sources_iff (types : List NamedType) (type : NamedType) :
    type ∈ sources types ↔ type ∈ types ∧ type.dependencies = [] := by
  simp [sources, List.isEmpty_iff]

theorem mem_released_iff (types : List NamedType) (before : List String) (name : String)
    (type : NamedType) :
    type ∈ released types before name ↔ type ∈ types ∧ name ∈ type.dependencies ∧
      ∀ other ∈ type.dependencies, other ∈ before ++ [name] := by
  simp only [released, List.mem_filter, Bool.and_eq_true, List.contains_iff_mem, List.all_eq_true]

/-- A released type depends on something. -/
theorem dependencies_ne_nil_of_mem_releasedAfter {types : List NamedType}
    {before names : List String} {type : NamedType}
    (hmem : type ∈ releasedAfter types before names) :
    type.dependencies ≠ [] := by
  induction names generalizing before with
  | nil => simp [releasedAfter] at hmem
  | cons name names ih =>
    rcases List.mem_append.mp hmem with hreleased | hlater
    · exact List.ne_nil_of_mem ((mem_released_iff types before name type).mp hreleased).2.1
    · exact ih hlater

@[simp] theorem arrivals_nil (types : List NamedType) : arrivals types [] = sources types := by
  simp [arrivals, releasedAfter]

theorem releasedAfter_append_singleton (types : List NamedType) (before names : List String)
    (name : String) :
    releasedAfter types before (names ++ [name]) =
      releasedAfter types before names ++ released types (before ++ names) name := by
  induction names generalizing before with
  | nil => simp [releasedAfter]
  | cons first rest ih =>
    rw [List.cons_append, releasedAfter, ih, releasedAfter, List.append_assoc, List.append_assoc,
      List.singleton_append]

/-- One more emitted name adds the types that it releases. -/
theorem arrivals_append_singleton (types : List NamedType) (done : List String) (name : String) :
    arrivals types (done ++ [name]) = arrivals types done ++ released types done name := by
  rw [arrivals, releasedAfter_append_singleton, List.nil_append, ← List.append_assoc]
  rfl

/-- A type has arrived when everything it depends on is emitted. -/
theorem mem_arrivals_iff (types : List NamedType) (done : List String) (type : NamedType) :
    type ∈ arrivals types done ↔ type ∈ types ∧ ∀ name ∈ type.dependencies, name ∈ done := by
  induction done using List.reverseRecOn with
  | nil =>
    rw [arrivals_nil, mem_sources_iff, List.eq_nil_iff_forall_not_mem]
    simp only [List.not_mem_nil, imp_false]
  | append_singleton done last ih =>
    rw [arrivals_append_singleton, List.mem_append, ih, mem_released_iff]
    constructor
    · rintro (⟨hmem, hdone⟩ | ⟨hmem, -, hdone⟩)
      · exact ⟨hmem, fun name hname ↦ List.mem_append_left _ (hdone name hname)⟩
      · exact ⟨hmem, hdone⟩
    · rintro ⟨hmem, hdone⟩
      by_cases hlast : last ∈ type.dependencies
      · exact Or.inr ⟨hmem, hlast, hdone⟩
      · refine Or.inl ⟨hmem, fun name hname ↦ ?_⟩
        rcases List.mem_append.mp (hdone name hname) with hbefore | hsame
        · exact hbefore
        · exact absurd (List.mem_singleton.mp hsame ▸ hname) hlast

/-- No type arrives twice. -/
theorem nodup_arrivals {types : List NamedType} (htypes : types.Nodup) {done : List String}
    (hdone : done.Nodup) : (arrivals types done).Nodup := by
  induction done using List.reverseRecOn with
  | nil =>
    rw [arrivals_nil]
    exact htypes.filter _
  | append_singleton done last ih =>
    obtain ⟨hbefore, -, hlast⟩ := List.nodup_append.mp hdone
    rw [arrivals_append_singleton, List.nodup_append]
    refine ⟨ih hbefore, htypes.filter _, fun first hfirst second hsecond heq ↦ ?_⟩
    obtain ⟨-, hdependencies⟩ := (mem_arrivals_iff types done first).mp hfirst
    obtain ⟨-, hreleased, -⟩ := (mem_released_iff types done last second).mp hsecond
    rw [heq] at hdependencies
    exact hlast last (hdependencies last hreleased) last (List.mem_singleton_self last) rfl

/-- The names of the arrivals are pairwise distinct when those of the list are. -/
theorem nodup_name_arrivals {types : List NamedType}
    (htypes : (types.map NamedType.name).Nodup) {done : List String} (hdone : done.Nodup) :
    ((arrivals types done).map NamedType.name).Nodup := by
  refine List.Nodup.map_on (fun first hfirst second hsecond hname ↦ ?_)
    (nodup_arrivals htypes.of_map hdone)
  exact eq_of_name_eq htypes ((mem_arrivals_iff types done first).mp hfirst).1
    ((mem_arrivals_iff types done second).mp hsecond).1 hname

end SchemaBindings
