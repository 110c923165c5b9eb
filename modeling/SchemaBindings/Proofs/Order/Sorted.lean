import SchemaBindings.Proofs.Order.Progress
/-!
# What sorting gives back

`lastState` is the state in which the queue of the types that count has run empty. Sorting gives
the types emitted in it when the list is closed and nothing waits (`sortTypes_eq_ok_iff`); then the
result holds the last declaration of each custom name once, each after everything it depends on
(`sortTypes_dependency_order`).
-/

set_option autoImplicit false
set_option relaxedAutoImplicit false

namespace SchemaBindings

open DependencyGraph

/-- The state in which the queue of the types that count has run empty. -/
def lastState (types : List NamedType) : Progress :=
  Progress.finish (onNodes (countedTypes types))

variable {types sorted : List NamedType}

theorem lastState_consistent (types : List NamedType) :
    Progress.Consistent (countedTypes types) (lastState types) :=
  Progress.finish_consistent (nodup_name_countedTypes types)

/-- The names emitted in the end are those of the arrivals. -/
theorem lastState_emitted (types : List NamedType) :
    (lastState types).emitted = arrivals (countedTypes types) (lastState types).done :=
  Progress.finish_emitted (nodup_name_countedTypes types)

/-- The names that wait in the end are the custom names that are not emitted, in the order of the
types that count. -/
theorem map_fst_outstanding_lastState (types : List NamedType) :
    (lastState types).outstanding.map Prod.fst =
      ((countedTypes types).filter fun type ↦ !(lastState types).done.contains type.name).map
        NamedType.name := by
  rw [(lastState_consistent types).outstanding_eq, Progress.waiting, Progress.table, List.map_map]
  rfl

theorem outstanding_lastState_eq_nil_iff (types : List NamedType) :
    (lastState types).outstanding = [] ↔
      ∀ type ∈ countedTypes types, type.name ∈ (lastState types).done := by
  rw [← List.map_eq_nil_iff (f := Prod.fst), map_fst_outstanding_lastState, List.map_eq_nil_iff,
    List.filter_eq_nil_iff]
  simp only [Bool.not_eq_true', List.contains_eq_mem, decide_eq_false_iff_not, not_not]

/-! ### The three outcomes -/

theorem sortTypes_of_isFirstUnknown {typeName dependency : String}
    (hunknown : IsFirstUnknown (countedTypes types) typeName dependency) :
    sortTypes types = .error (.unknownType typeName dependency) := by
  rw [sortTypes, ofTypes_eq_error hunknown]
  rfl

theorem sortTypes_of_waiting (hclosed : IsClosed (countedTypes types))
    (hwaiting : (lastState types).outstanding ≠ []) :
    sortTypes types =
      .error (.circular (sortNames ((lastState types).outstanding.map Prod.fst))) := by
  have hempty : (lastState types).outstanding.isEmpty = false := by
    simpa [List.isEmpty_eq_false_iff] using hwaiting
  rw [sortTypes, ofTypes_eq_ok hclosed]
  change (if (lastState types).outstanding.isEmpty = true then _ else _) = _
  rw [hempty]
  rfl

theorem sortTypes_of_finished (hclosed : IsClosed (countedTypes types))
    (hfinished : (lastState types).outstanding = []) :
    sortTypes types = .ok (lastState types).emitted := by
  rw [sortTypes, ofTypes_eq_ok hclosed]
  change (if (lastState types).outstanding.isEmpty = true then _ else _) = _
  rw [hfinished]
  rfl

/-- One of the three outcomes, with what it comes from. -/
theorem sortTypes_cases (types : List NamedType) :
    (∃ typeName dependency, IsFirstUnknown (countedTypes types) typeName dependency ∧
        sortTypes types = .error (.unknownType typeName dependency)) ∨
      (IsClosed (countedTypes types) ∧ (lastState types).outstanding ≠ [] ∧
        sortTypes types =
          .error (.circular (sortNames ((lastState types).outstanding.map Prod.fst)))) ∨
      (IsClosed (countedTypes types) ∧ (lastState types).outstanding = [] ∧
        sortTypes types = .ok (lastState types).emitted) := by
  rcases isClosed_or_exists_isFirstUnknown (countedTypes types) with hclosed | hunknown
  · by_cases hwaiting : (lastState types).outstanding = []
    · exact Or.inr (Or.inr ⟨hclosed, hwaiting, sortTypes_of_finished hclosed hwaiting⟩)
    · exact Or.inr (Or.inl ⟨hclosed, hwaiting, sortTypes_of_waiting hclosed hwaiting⟩)
  · obtain ⟨typeName, dependency, hfirst⟩ := hunknown
    exact Or.inl ⟨typeName, dependency, hfirst, sortTypes_of_isFirstUnknown hfirst⟩

/-- Sorting succeeds when every dependency is known and nothing waits in the end. -/
theorem sortTypes_eq_ok_iff :
    sortTypes types = .ok sorted ↔ IsClosed (countedTypes types) ∧
      (lastState types).outstanding = [] ∧ sorted = (lastState types).emitted := by
  constructor
  · intro hsorted
    rcases sortTypes_cases types with ⟨_, _, -, heq⟩ | ⟨-, -, heq⟩ | ⟨hclosed, hfinished, heq⟩
    · rw [heq] at hsorted
      cases hsorted
    · rw [heq] at hsorted
      cases hsorted
    · rw [heq] at hsorted
      exact ⟨hclosed, hfinished, (Except.ok.inj hsorted).symm⟩
  · rintro ⟨hclosed, hfinished, rfl⟩
    exact sortTypes_of_finished hclosed hfinished

/-! ### The order of a result -/

/-- The sorted types are the arrivals after all of them are emitted. -/
theorem sorted_eq_arrivals (hsorted : sortTypes types = .ok sorted) :
    sorted = arrivals (countedTypes types) (sorted.map NamedType.name) := by
  obtain ⟨-, -, rfl⟩ := sortTypes_eq_ok_iff.mp hsorted
  exact lastState_emitted types

/-- The sorted types are those that count. -/
theorem mem_sorted_iff (hsorted : sortTypes types = .ok sorted) (type : NamedType) :
    type ∈ sorted ↔ type ∈ countedTypes types := by
  obtain ⟨-, hfinished, rfl⟩ := sortTypes_eq_ok_iff.mp hsorted
  have hlast := lastState_consistent types
  refine ⟨hlast.emitted_mem type, fun hmem ↦ ?_⟩
  exact hlast.mem_emitted (nodup_name_countedTypes types) hmem
    ((outstanding_lastState_eq_nil_iff types).mp hfinished type hmem)

/-- Sorting gives back custom types of the list. -/
theorem mem_of_mem_sorted (hsorted : sortTypes types = .ok sorted) {type : NamedType}
    (htype : type ∈ sorted) : type ∈ types ∧ type.isCustom = true := by
  obtain ⟨front, back, rfl, hcustom, -⟩ :=
    (mem_countedTypes_iff types type).mp ((mem_sorted_iff hsorted type).mp htype)
  exact ⟨List.mem_append_right _ List.mem_cons_self, hcustom⟩

/-- When no name repeats, sorting gives back all custom types. -/
theorem mem_sorted_iff_of_nodup (hnodup : (types.map NamedType.name).Nodup)
    (hsorted : sortTypes types = .ok sorted) (type : NamedType) :
    type ∈ sorted ↔ type ∈ types ∧ type.isCustom = true := by
  refine ⟨mem_of_mem_sorted hsorted, fun ⟨htype, hcustom⟩ ↦ ?_⟩
  have hname := (mem_map_name_countedTypes_iff types type.name).mpr ⟨type, htype, hcustom, rfl⟩
  obtain ⟨other, hother, hsame⟩ := List.mem_map.mp hname
  have hemitted := (mem_sorted_iff hsorted other).mpr hother
  rwa [eq_of_name_eq hnodup (mem_of_mem_sorted hsorted hemitted).1 htype hsame] at hemitted

theorem nodup_name_sorted (hsorted : sortTypes types = .ok sorted) :
    (sorted.map NamedType.name).Nodup := by
  obtain ⟨-, -, rfl⟩ := sortTypes_eq_ok_iff.mp hsorted
  exact (lastState_consistent types).nodup_done

theorem isDependencyOrder_sorted (hsorted : sortTypes types = .ok sorted) :
    IsDependencyOrder sorted := by
  obtain ⟨-, -, rfl⟩ := sortTypes_eq_ok_iff.mp hsorted
  exact (lastState_consistent types).ordered

/-- Sorting loses, invents and repeats no custom name, keeps the last declaration of each, and puts
every type after all that it depends on. -/
theorem sortTypes_dependency_order (hsorted : sortTypes types = .ok sorted) :
    (sorted.map NamedType.name).Nodup ∧
      (∀ name, name ∈ sorted.map NamedType.name ↔
        ∃ type ∈ types, type.isCustom = true ∧ type.name = name) ∧
      (∀ type ∈ sorted, IsLastDeclaration types type) ∧ IsDependencyOrder sorted := by
  refine ⟨nodup_name_sorted hsorted, fun name ↦ ?_, fun type htype ↦ ?_,
    isDependencyOrder_sorted hsorted⟩
  · rw [← mem_map_name_countedTypes_iff, List.mem_map, List.mem_map]
    simp only [mem_sorted_iff hsorted]
  · exact (mem_countedTypes_iff types type).mp ((mem_sorted_iff hsorted type).mp htype)

/-- A query type whose field refers to an interface and whose argument refers to an enum that is
declared twice, and as a scalar in between. -/
def repeatedEnum : List NamedType :=
  [{ name := "Query"
     body := .object
       [{ name := "hero", type := .around .nonNull none (.plain .interface (some "Character"))
          arguments := [{ name := "episode", type := .plain .enum (some "Episode") }] }] [] },
   { name := "Episode", body := .enum [{ name := "JEDI" }] },
   { name := "Episode", body := .scalar },
   { name := "Character", body := .interface [] [] },
   { name := "Episode", body := .enum [{ name := "NEWHOPE" }, { name := "EMPIRE" }] }]

theorem sortTypes_dependency_order_repeatedEnum :
    ∃ sorted, sortTypes repeatedEnum = .ok sorted ∧
      sorted.map NamedType.name = ["Episode", "Character", "Query"] ∧
      (∀ type ∈ sorted, IsLastDeclaration repeatedEnum type) ∧ IsDependencyOrder sorted := by
  have hsorted : sortTypes repeatedEnum = .ok
      [{ name := "Episode", body := .enum [{ name := "NEWHOPE" }, { name := "EMPIRE" }] },
       { name := "Character", body := .interface [] [] },
       { name := "Query"
         body := .object
           [{ name := "hero", type := .around .nonNull none (.plain .interface (some "Character"))
              arguments := [{ name := "episode", type := .plain .enum (some "Episode") }] }]
           [] }] := by
    rfl
  obtain ⟨-, -, hlast, hordered⟩ := sortTypes_dependency_order hsorted
  exact ⟨_, hsorted, rfl, hlast, hordered⟩

end SchemaBindings
