import Mathlib.Data.List.Basic
import SchemaBindings.Order.Queue
import SchemaBindings.Proofs.Except
/-!
# What sorting does not read

Sorting reads the name of a type, whether it is custom and what it depends on. A change of types
that keeps these three (`KeepsGraph`) commutes with sorting: the graph of the changed types is the
changed graph (`ofTypes_map`), a step from a changed state is the changed step (`step_map`), and so
for a run (`run_map`). Types that a change makes equal are therefore sorted alike
(`sortTypes_eq_of_map_eq`).
-/

set_option autoImplicit false
set_option relaxedAutoImplicit false

namespace SchemaBindings

/-- A change of types that shows neither in the names of the nodes nor in the edges between them. -/
structure KeepsGraph (change : NamedType → NamedType) : Prop where
  name : ∀ type, (change type).name = type.name
  isCustom : ∀ type, (change type).isCustom = type.isCustom
  dependencies : ∀ type, (change type).dependencies = type.dependencies

namespace KeepsGraph

variable {change : NamedType → NamedType} (hkeeps : KeepsGraph change)

include hkeeps

/-! ### The graph -/

theorem map_name (types : List NamedType) :
    (types.map change).map NamedType.name = types.map NamedType.name := by
  rw [List.map_map]
  exact List.map_congr_left fun type _ ↦ hkeeps.name type

/-- The first changed type of a name is the change of the first type of the name. -/
theorem find?_name_map (types : List NamedType) (name : String) :
    (types.map change).find? (fun type ↦ type.name == name) =
      (types.find? fun type ↦ type.name == name).map change := by
  rw [List.find?_map]
  simp only [Function.comp_def, hkeeps.name]

theorem any_name_map (types : List NamedType) (name : String) :
    (types.map change).any (fun type ↦ type.name == name) =
      types.any fun type ↦ type.name == name := by
  rw [List.any_map]
  simp only [Function.comp_def, hkeeps.name]

theorem countedTypes_map (types : List NamedType) :
    countedTypes (types.map change) = (countedTypes types).map change := by
  have hcustom : (types.map change).filter NamedType.isCustom =
      (types.filter NamedType.isCustom).map change := by
    rw [List.filter_map]
    simp only [Function.comp_def, hkeeps.isCustom]
  simp only [countedTypes, hcustom, ← List.map_reverse, hkeeps.map_name, hkeeps.find?_name_map,
    List.map_filterMap]

theorem firstUnknown_map (types : List NamedType) :
    DependencyGraph.firstUnknown (types.map change) = DependencyGraph.firstUnknown types := by
  unfold DependencyGraph.firstUnknown
  rw [List.findSome?_map]
  simp only [Function.comp_def, hkeeps.name, hkeeps.dependencies, hkeeps.any_name_map]

theorem dependentsOf_map (types : List NamedType) (name : String) :
    DependencyGraph.dependentsOf (types.map change) name =
      DependencyGraph.dependentsOf types name := by
  unfold DependencyGraph.dependentsOf
  rw [List.filter_map, hkeeps.map_name]
  simp only [Function.comp_def, hkeeps.dependencies]

end KeepsGraph

/-- A graph with each of its types changed. -/
def DependencyGraph.change (change : NamedType → NamedType) (graph : DependencyGraph) :
    DependencyGraph :=
  { graph with types := graph.types.map change }

/-- A state with each of its emitted types changed. -/
def Progress.change (change : NamedType → NamedType) (state : Progress) : Progress :=
  { state with emitted := state.emitted.map change }

namespace KeepsGraph

variable {change : NamedType → NamedType} (hkeeps : KeepsGraph change)

include hkeeps

theorem ofTypes_map (types : List NamedType) :
    DependencyGraph.ofTypes (types.map change) =
      (DependencyGraph.ofTypes types).map (DependencyGraph.change change) := by
  unfold DependencyGraph.ofTypes
  simp only [hkeeps.countedTypes_map, hkeeps.firstUnknown_map]
  cases DependencyGraph.firstUnknown (countedTypes types) with
  | some unknown => rfl
  | none =>
    refine congrArg Except.ok ?_
    simp only [DependencyGraph.change, List.map_map, Function.comp_def, hkeeps.name,
      hkeeps.dependencies, hkeeps.dependentsOf_map]

/-! ### The loop -/

/-- A step looks at names only: from a changed state it is the changed step. -/
theorem step_map (graph : DependencyGraph) (state : Progress) :
    Progress.step (graph.change change) (state.change change) =
      (Progress.step graph state).map (Progress.change change) := by
  obtain ⟨outstanding, queue, emitted⟩ := state
  cases queue with
  | nil => rfl
  | cons name queue =>
    have htype : (graph.change change).type? name = (graph.type? name).map change :=
      hkeeps.find?_name_map graph.types name
    have hdependents : (graph.change change).dependents = graph.dependents := rfl
    simp only [Progress.step, Progress.change, htype, hdependents]
    cases graph.type? name with
    | none => rfl
    | some type =>
      cases graph.dependents.lookup name with
      | none => rfl
      | some dependents =>
        simp only [Option.map_some, Option.bind_eq_bind, Option.bind_some]
        cases dependents.foldlM (Progress.strike name) (outstanding, queue) with
        | none => rfl
        | some struck =>
          simp only [Option.bind_some]
          cases struck.1.lookup name with
          | none => rfl
          | some _ => simp [Progress.change]

theorem run_map (graph : DependencyGraph) (steps : Nat) (state : Progress) :
    Progress.run (graph.change change) steps (state.change change) =
      (Progress.run graph steps state).change change := by
  induction steps generalizing state with
  | zero => rfl
  | succ steps ih =>
    simp only [Progress.run, hkeeps.step_map]
    cases Progress.step graph state with
    | none => rfl
    | some next => exact ih next

theorem sorted_map (graph : DependencyGraph) :
    (graph.change change).sorted = graph.sorted.map (List.map change) := by
  have hfinish : Progress.finish (graph.change change) =
      (Progress.finish graph).change change := by
    have hlength : (graph.change change).types.length = graph.types.length := List.length_map _
    rw [Progress.finish, hlength]
    exact hkeeps.run_map graph graph.types.length (Progress.start graph)
  unfold DependencyGraph.sorted
  rw [hfinish]
  by_cases hempty : (Progress.finish graph).outstanding.isEmpty = true
  · simp only [Progress.change, hempty, if_true]
    rfl
  · simp only [Progress.change, hempty]
    rfl

/-- Sorting changed types gives the changed order, or the same error. -/
theorem sortTypes_map (types : List NamedType) :
    sortTypes (types.map change) = (sortTypes types).map (List.map change) := by
  unfold sortTypes
  rw [hkeeps.ofTypes_map]
  cases DependencyGraph.ofTypes types with
  | error error => rfl
  | ok graph => exact hkeeps.sorted_map graph

/-- Types that a change makes equal are sorted alike, or fail alike. -/
theorem sortTypes_eq_of_map_eq {first second : List NamedType}
    (hsame : first.map change = second.map change) :
    (∃ error, sortTypes first = .error error ∧ sortTypes second = .error error) ∨
      ∃ sorted other, sortTypes first = .ok sorted ∧ sortTypes second = .ok other ∧
        sorted.map change = other.map change := by
  have hsort : (sortTypes first).map (List.map change) =
      (sortTypes second).map (List.map change) := by
    rw [← hkeeps.sortTypes_map, ← hkeeps.sortTypes_map, hsame]
  exact of_map_eq_map hsort

end KeepsGraph

end SchemaBindings
