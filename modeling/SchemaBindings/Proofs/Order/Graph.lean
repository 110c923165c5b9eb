import SchemaBindings.Proofs.Order.Counted
/-!
# The graph of the types that count

A list has a dependency graph exactly when every dependency of a type that counts is the name of a
type that counts (`ofTypes_eq_ok_iff`). Otherwise the refusal names the first type that has a
dependency outside the list, and its first such dependency (`firstUnknown_eq_some_iff`).
-/

set_option autoImplicit false
set_option relaxedAutoImplicit false

namespace SchemaBindings

/-- Every dependency of a type of the list is the name of a type of the list. -/
def IsClosed (types : List NamedType) : Prop :=
  ∀ type ∈ types, ∀ name ∈ type.dependencies, name ∈ types.map NamedType.name

/-- A type of the list with one of its dependencies, outside the names of the list, such that no
type before it and no dependency before this one is so. -/
def IsFirstUnknown (types : List NamedType) (typeName dependency : String) : Prop :=
  ∃ before type after, types = before ++ type :: after ∧ type.name = typeName ∧
    (∀ other ∈ before, ∀ name ∈ other.dependencies, name ∈ types.map NamedType.name) ∧
    ∃ front back, type.dependencies = front ++ dependency :: back ∧
      (∀ name ∈ front, name ∈ types.map NamedType.name) ∧
      dependency ∉ types.map NamedType.name

namespace DependencyGraph

/-- The graph on given nodes. -/
def onNodes (types : List NamedType) : DependencyGraph where
  types := types
  dependencies := types.map fun type ↦ (type.name, type.dependencies)
  dependents := types.map fun type ↦ (type.name, dependentsOf types type.name)

theorem any_name_eq_false_iff (types : List NamedType) (name : String) :
    (types.any fun other ↦ other.name == name) = false ↔ name ∉ types.map NamedType.name := by
  simp [List.any_eq_false]

theorem any_name_eq_true_iff (types : List NamedType) (name : String) :
    (types.any fun other ↦ other.name == name) = true ↔ name ∈ types.map NamedType.name := by
  simp [List.any_eq_true]

/-- The search for an unknown name finds none when the list is closed. -/
theorem firstUnknown_eq_none_iff (types : List NamedType) :
    firstUnknown types = none ↔ IsClosed types := by
  unfold firstUnknown IsClosed
  rw [List.findSome?_eq_none_iff]
  refine forall₂_congr fun type _ ↦ ?_
  rw [Option.map_eq_none_iff, List.find?_eq_none]
  refine forall₂_congr fun name _ ↦ ?_
  rw [Bool.not_eq_true', any_name_eq_false_iff, not_not]

/-- The search for an unknown name finds the first type that has one, and its first. -/
theorem firstUnknown_eq_some_iff (types : List NamedType) (typeName dependency : String) :
    firstUnknown types = some (typeName, dependency) ↔
      IsFirstUnknown types typeName dependency := by
  have hfind (type : NamedType) :
      (type.dependencies.find? fun name ↦ !types.any fun other ↦ other.name == name) = none ↔
        ∀ name ∈ type.dependencies, name ∈ types.map NamedType.name := by
    simp only [List.find?_eq_none, Bool.not_eq_true', any_name_eq_false_iff, not_not]
  unfold firstUnknown IsFirstUnknown
  rw [List.findSome?_eq_some_iff]
  constructor
  · rintro ⟨before, type, after, htypes, hsome, hbefore⟩
    obtain ⟨unknown, hunknown, hpair⟩ := Option.map_eq_some_iff.mp hsome
    obtain ⟨rfl, rfl⟩ := Prod.mk.inj hpair
    obtain ⟨hnone, front, back, hsplit, hfront⟩ := List.find?_eq_some_iff_append.mp hunknown
    refine ⟨before, type, after, htypes, rfl, fun other hother ↦ ?_, front, back, hsplit,
      fun name hname ↦ ?_, ?_⟩
    · exact (hfind other).mp (Option.map_eq_none_iff.mp (hbefore other hother))
    · have hany := hfront name hname
      rw [Bool.not_not] at hany
      exact (any_name_eq_true_iff types name).mp hany
    · rw [Bool.not_eq_true'] at hnone
      exact (any_name_eq_false_iff types unknown).mp hnone
  · rintro ⟨before, type, after, htypes, rfl, hbefore, front, back, hsplit, hfront, hunknown⟩
    refine ⟨before, type, after, htypes, ?_, fun other hother ↦ ?_⟩
    · refine Option.map_eq_some_iff.mpr ⟨dependency, ?_, rfl⟩
      refine List.find?_eq_some_iff_append.mpr ⟨?_, front, back, hsplit, fun name hname ↦ ?_⟩
      · rw [(any_name_eq_false_iff types dependency).mpr hunknown]
        rfl
      · rw [(any_name_eq_true_iff types name).mpr (hfront name hname)]
        rfl
    · exact Option.map_eq_none_iff.mpr ((hfind other).mpr (hbefore other hother))

/-- A closed list has a graph, on the types that count. -/
theorem ofTypes_eq_ok {types : List NamedType} (hclosed : IsClosed (countedTypes types)) :
    ofTypes types = .ok (onNodes (countedTypes types)) := by
  simp only [ofTypes, (firstUnknown_eq_none_iff _).mpr hclosed]
  rfl

/-- A list with an unknown name has none, and the refusal gives the first place. -/
theorem ofTypes_eq_error {types : List NamedType} {typeName dependency : String}
    (hunknown : IsFirstUnknown (countedTypes types) typeName dependency) :
    ofTypes types = .error (.unknownType typeName dependency) := by
  simp only [ofTypes, (firstUnknown_eq_some_iff _ _ _).mpr hunknown]

/-- A list of types either is closed or has a first unknown name. -/
theorem isClosed_or_exists_isFirstUnknown (types : List NamedType) :
    IsClosed types ∨ ∃ typeName dependency, IsFirstUnknown types typeName dependency := by
  cases hfirst : firstUnknown types with
  | none => exact Or.inl ((firstUnknown_eq_none_iff types).mp hfirst)
  | some found =>
    exact Or.inr ⟨found.1, found.2, (firstUnknown_eq_some_iff types _ _).mp hfirst⟩

/-- A graph comes from a closed list only, and is the one on the types that count. -/
theorem ofTypes_eq_ok_iff {types : List NamedType} {graph : DependencyGraph} :
    ofTypes types = .ok graph ↔
      IsClosed (countedTypes types) ∧ graph = onNodes (countedTypes types) := by
  constructor
  · intro hgraph
    rcases isClosed_or_exists_isFirstUnknown (countedTypes types) with hclosed | ⟨_, _, hunknown⟩
    · rw [ofTypes_eq_ok hclosed] at hgraph
      exact ⟨hclosed, (Except.ok.inj hgraph).symm⟩
    · rw [ofTypes_eq_error hunknown] at hgraph
      cases hgraph
  · rintro ⟨hclosed, rfl⟩
    exact ofTypes_eq_ok hclosed

/-! ### Look-ups in the graph -/

theorem mem_dependentsOf_iff (types : List NamedType) (name source : String) :
    source ∈ dependentsOf types name ↔
      ∃ type ∈ types, type.name = source ∧ name ∈ type.dependencies := by
  simp only [dependentsOf, List.mem_map, List.mem_filter, List.contains_iff_mem]
  exact exists_congr fun type ↦ by rw [and_assoc, and_comm (a := type.name = source)]

@[simp] theorem onNodes_types (types : List NamedType) : (onNodes types).types = types := rfl

theorem onNodes_type? {types : List NamedType} (hnodup : (types.map NamedType.name).Nodup)
    {type : NamedType} (hmem : type ∈ types) : (onNodes types).type? type.name = some type :=
  find?_name_eq_some hnodup hmem

theorem onNodes_dependents_lookup {types : List NamedType}
    (hnodup : (types.map NamedType.name).Nodup) {type : NamedType} (hmem : type ∈ types) :
    (onNodes types).dependents.lookup type.name = some (dependentsOf types type.name) := by
  rw [onNodes, lookup_map_name, find?_name_eq_some hnodup hmem]
  rfl

end DependencyGraph

end SchemaBindings
