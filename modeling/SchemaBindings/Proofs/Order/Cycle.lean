import Mathlib.Data.Fintype.Pigeonhole
import Mathlib.Data.List.Sort
import Mathlib.Data.Set.Finite.Basic
import Mathlib.Logic.Relation
import SchemaBindings.Proofs.Order.Sorted
/-!
# When sorting fails

The names that wait in the end are exactly those from which a dependency cycle can be reached
(`mem_waiting_lastState_iff`). An emitted name depends only on names emitted before it, so it
reaches no cycle; a waiting name depends on a waiting name, and among finitely many names such a
chain closes. `sortTypes_outcome` decides all three outcomes by it.
-/

set_option autoImplicit false
set_option relaxedAutoImplicit false

namespace SchemaBindings

open DependencyGraph Relation

/-! ### Cycles of a relation -/

/-- If every element of a finite set has a successor in the set, a cycle can be reached from each
of them. -/
theorem exists_cycle_of_successors {Node : Type} {edge : Node → Node → Prop} (nodes : Set Node)
    (hfinite : nodes.Finite) (hedge : ∀ node ∈ nodes, ∃ next ∈ nodes, edge node next)
    {start : Node} (hstart : start ∈ nodes) :
    ∃ node, ReflTransGen edge start node ∧ TransGen edge node node := by
  have : Finite nodes := hfinite
  choose! next hnext hstep using hedge
  have hmem (count : ℕ) : next^[count] start ∈ nodes := by
    induction count with
    | zero => exact hstart
    | succ count ih =>
      rw [Function.iterate_succ_apply']
      exact hnext _ ih
  have hreach (first extra : ℕ) :
      ReflTransGen edge (next^[first] start) (next^[first + extra] start) := by
    induction extra with
    | zero => exact ReflTransGen.refl
    | succ extra ih =>
      rw [← Nat.add_assoc, Function.iterate_succ_apply']
      exact ih.tail (hstep _ (hmem _))
  -- The walk visits finitely many nodes, so it visits one of them twice.
  obtain ⟨first, second, hne, hsame⟩ :=
    Finite.exists_ne_map_eq_of_infinite fun count ↦ (⟨next^[count] start, hmem count⟩ : nodes)
  replace hsame : next^[first] start = next^[second] start := congrArg Subtype.val hsame
  wlog hlt : first < second generalizing first second
  · exact this second first hne.symm hsame.symm (by omega)
  refine ⟨next^[first] start, by simpa using hreach 0 first, ?_⟩
  have hloop := hreach (first + 1) (second - (first + 1))
  rw [Nat.add_sub_of_le hlt, ← hsame, Function.iterate_succ_apply'] at hloop
  exact TransGen.head' (hstep _ (hmem first)) hloop

/-- Along a relation that lowers a rank on a set it does not leave, no cycle can be reached from
the set. -/
theorem not_exists_cycle_of_rank {Node : Type} {edge : Node → Node → Prop} (nodes : Set Node)
    (rank : Node → ℕ)
    (hedge : ∀ node ∈ nodes, ∀ next, edge node next → next ∈ nodes ∧ rank next < rank node)
    {start : Node} (hstart : start ∈ nodes) :
    ¬∃ node, ReflTransGen edge start node ∧ TransGen edge node node := by
  rintro ⟨node, hreach, hcycle⟩
  have hnode : node ∈ nodes := by
    clear hcycle
    induction hreach with
    | refl => exact hstart
    | tail _ hlast ih => exact (hedge _ ih _ hlast).1
  have hlower : ∀ last, TransGen edge node last → last ∈ nodes ∧ rank last < rank node := by
    intro last hpath
    induction hpath with
    | single hfirst => exact hedge _ hnode _ hfirst
    | tail _ hlast ih =>
      obtain ⟨hmem, hrank⟩ := hedge _ ih.1 _ hlast
      exact ⟨hmem, hrank.trans ih.2⟩
  exact (hlower node hcycle).2.false

/-! ### Dependencies between names -/

/-- The last declaration of a name depends on another name. -/
def DependsOn (types : List NamedType) (name dependency : String) : Prop :=
  ∃ type, IsLastDeclaration types type ∧ type.name = name ∧ dependency ∈ type.dependencies

/-- Following dependencies from a name, one can come to a name that depends on itself, at once or
through others. -/
def ReachesCycle (types : List NamedType) (name : String) : Prop :=
  ∃ other, ReflTransGen (DependsOn types) name other ∧ TransGen (DependsOn types) other other

variable {types : List NamedType}

/-- No cycle can be reached from an emitted name. -/
theorem not_reachesCycle_of_done {name : String} (hname : name ∈ (lastState types).done) :
    ¬ReachesCycle types name := by
  have hlast := lastState_consistent types
  refine not_exists_cycle_of_rank {name | name ∈ (lastState types).done}
    (fun name ↦ (lastState types).done.idxOf name) ?_ hname
  rintro name hdone next ⟨type, hdeclared, rfl, hnext⟩
  have hemitted := hlast.mem_emitted (nodup_name_countedTypes types)
    ((mem_countedTypes_iff types type).mpr hdeclared) hdone
  exact ⟨hlast.ordered.mem_of_dependency hemitted hnext,
    hlast.ordered.idxOf_lt hlast.nodup_done hemitted hnext⟩

/-- A type that is not emitted in the end depends on a name that is not emitted. -/
theorem exists_dependency_not_done {type : NamedType} (hmem : type ∈ countedTypes types)
    (hnotDone : type.name ∉ (lastState types).done) :
    ∃ name ∈ type.dependencies, name ∉ (lastState types).done := by
  by_contra hall
  push Not at hall
  have harrived := (mem_arrivals_iff _ _ type).mpr ⟨hmem, hall⟩
  rw [← lastState_emitted] at harrived
  exact hnotDone (List.mem_map_of_mem harrived)

/-- From a custom name that is not emitted in the end a cycle can be reached. -/
theorem reachesCycle_of_not_done (hclosed : IsClosed (countedTypes types)) {name : String}
    (hname : name ∈ customNames types) (hnotDone : name ∉ (lastState types).done) :
    ReachesCycle types name := by
  refine exists_cycle_of_successors
    {name | name ∈ customNames types ∧ name ∉ (lastState types).done} ?_ ?_
    ⟨hname, hnotDone⟩
  · exact (List.finite_toSet (customNames types)).subset fun _ hin ↦ hin.1
  · rintro name ⟨hcustom, hwaits⟩
    obtain ⟨type, hdeclared, rfl⟩ := exists_isLastDeclaration hcustom
    have hmem := (mem_countedTypes_iff types type).mpr hdeclared
    obtain ⟨next, hnext, hnextWaits⟩ := exists_dependency_not_done hmem hwaits
    have hnextName := hclosed type hmem next hnext
    rw [map_name_countedTypes] at hnextName
    exact ⟨next, ⟨hnextName, hnextWaits⟩, type, hdeclared, rfl, hnext⟩

/-- The names that wait in the end are those from which a cycle can be reached. -/
theorem mem_waiting_lastState_iff (hclosed : IsClosed (countedTypes types)) (name : String) :
    name ∈ (lastState types).outstanding.map Prod.fst ↔ ReachesCycle types name := by
  have hwaiting : name ∈ (lastState types).outstanding.map Prod.fst ↔
      name ∈ customNames types ∧ name ∉ (lastState types).done := by
    rw [map_fst_outstanding_lastState, ← map_name_countedTypes]
    simp only [List.mem_map, List.mem_filter, Bool.not_eq_true', List.contains_eq_mem,
      decide_eq_false_iff_not]
    constructor
    · rintro ⟨type, ⟨hmem, hwaits⟩, rfl⟩
      exact ⟨⟨type, hmem, rfl⟩, hwaits⟩
    · rintro ⟨⟨type, hmem, rfl⟩, hwaits⟩
      exact ⟨type, ⟨hmem, hwaits⟩, rfl⟩
  rw [hwaiting]
  constructor
  · rintro ⟨hname, hnotDone⟩
    exact reachesCycle_of_not_done hclosed hname hnotDone
  · intro hcycle
    refine ⟨?_, fun hdone ↦ not_reachesCycle_of_done hdone hcycle⟩
    -- A name from which a cycle can be reached has a dependency, so it is declared.
    obtain ⟨other, hreach, hloop⟩ := hcycle
    obtain ⟨next, ⟨type, hdeclared, rfl, -⟩, -⟩ := TransGen.head'_iff.mp (hloop.trans_right hreach)
    exact hdeclared.name_mem_customNames

/-! ### The outcome of sorting -/

/-- Sorted names without repetition increase strictly. -/
theorem pairwise_lt_sortNames {names : List String} (hnodup : names.Nodup) :
    (sortNames names).Pairwise (· < ·) := by
  have htrans (a b c : String) (hab : decide (a ≤ b) = true) (hbc : decide (b ≤ c) = true) :
      decide (a ≤ c) = true :=
    decide_eq_true (String.le_trans (of_decide_eq_true hab) (of_decide_eq_true hbc))
  have htotal (a b : String) : (decide (a ≤ b) || decide (b ≤ a)) = true := by
    rw [Bool.or_eq_true, decide_eq_true_eq, decide_eq_true_eq]
    exact String.le_total a b
  have hsorted : (sortNames names).Pairwise fun a b ↦ decide (a ≤ b) = true :=
    List.pairwise_mergeSort htrans htotal names
  have hdistinct : (sortNames names).Nodup := (List.mergeSort_perm names _).nodup_iff.mpr hnodup
  refine List.Pairwise.imp₂ (fun a b hle hne ↦ ?_) hsorted hdistinct
  by_contra hlt
  exact hne (String.le_antisymm (of_decide_eq_true hle) hlt)

theorem mem_sortNames_iff (names : List String) (name : String) :
    name ∈ sortNames names ↔ name ∈ names :=
  List.mem_mergeSort

/-- Something waits in the end exactly when there is a cycle. -/
theorem outstanding_lastState_ne_nil_iff (hclosed : IsClosed (countedTypes types)) :
    (lastState types).outstanding ≠ [] ↔ ∃ name, TransGen (DependsOn types) name name := by
  rw [← not_iff_not, not_not, not_exists, ← List.map_eq_nil_iff (f := Prod.fst),
    List.eq_nil_iff_forall_not_mem]
  simp only [mem_waiting_lastState_iff hclosed]
  constructor
  · exact fun hnone name hcycle ↦ hnone name ⟨name, ReflTransGen.refl, hcycle⟩
  · rintro hnone name ⟨other, -, hcycle⟩
    exact hnone other hcycle

theorem sortTypes_eq_unknownType_iff {typeName dependency : String} :
    sortTypes types = .error (.unknownType typeName dependency) ↔
      IsFirstUnknown (countedTypes types) typeName dependency := by
  refine ⟨fun hsorted ↦ ?_, sortTypes_of_isFirstUnknown⟩
  rcases sortTypes_cases types with ⟨_, _, hfirst, heq⟩ | ⟨-, -, heq⟩ | ⟨-, -, heq⟩
  · rw [heq] at hsorted
    cases hsorted
    exact hfirst
  · rw [heq] at hsorted
    cases hsorted
  · rw [heq] at hsorted
    cases hsorted

theorem sortTypes_eq_circular_iff {names : List String} :
    sortTypes types = .error (.circular names) ↔
      IsClosed (countedTypes types) ∧ (∃ name, TransGen (DependsOn types) name name) ∧
        names.Pairwise (· < ·) ∧ ∀ name, name ∈ names ↔ ReachesCycle types name := by
  have hreported (hclosed : IsClosed (countedTypes types)) :
      (sortNames ((lastState types).outstanding.map Prod.fst)).Pairwise (· < ·) ∧
        ∀ name, name ∈ sortNames ((lastState types).outstanding.map Prod.fst) ↔
          ReachesCycle types name := by
    refine ⟨pairwise_lt_sortNames ?_, fun name ↦ ?_⟩
    · rw [map_fst_outstanding_lastState]
      exact (nodup_name_countedTypes types).sublist (List.filter_sublist.map _)
    · rw [mem_sortNames_iff, mem_waiting_lastState_iff hclosed]
  constructor
  · intro hsorted
    rcases sortTypes_cases types with ⟨_, _, -, heq⟩ | ⟨hclosed, hwaiting, heq⟩ | ⟨-, -, heq⟩
    · rw [heq] at hsorted
      cases hsorted
    · rw [heq] at hsorted
      cases hsorted
      exact ⟨hclosed, (outstanding_lastState_ne_nil_iff hclosed).mp hwaiting, hreported hclosed⟩
    · rw [heq] at hsorted
      cases hsorted
  · rintro ⟨hclosed, hcycle, hsorted, hnames⟩
    rw [sortTypes_of_waiting hclosed ((outstanding_lastState_ne_nil_iff hclosed).mpr hcycle)]
    congr 2
    refine (hreported hclosed).1.eq_of_mem_iff hsorted fun name ↦ ?_
    rw [hnames, (hreported hclosed).2]

theorem exists_sorted_iff :
    (∃ sorted, sortTypes types = .ok sorted) ↔
      IsClosed (countedTypes types) ∧ ¬∃ name, TransGen (DependsOn types) name name := by
  simp only [sortTypes_eq_ok_iff, exists_and_left, exists_eq, and_true]
  refine and_congr_right fun hclosed ↦ ?_
  rw [← outstanding_lastState_ne_nil_iff hclosed, not_not]

/-- The outcome of sorting. The types that count stand in the order of the first declarations of
the custom names, each the last declaration of its name. The first of them with a dependency that
no custom type is named, and its first such dependency, are reported before any cycle; then a
cycle is reported by the sorted names from which one can be reached; and only otherwise there is a
result. -/
theorem sortTypes_outcome (types : List NamedType) :
    ((countedTypes types).map NamedType.name = customNames types ∧
      ∀ type ∈ countedTypes types, IsLastDeclaration types type) ∧
    (∀ typeName dependency, sortTypes types = .error (.unknownType typeName dependency) ↔
      IsFirstUnknown (countedTypes types) typeName dependency) ∧
    (∀ names, sortTypes types = .error (.circular names) ↔
      IsClosed (countedTypes types) ∧ (∃ name, TransGen (DependsOn types) name name) ∧
        names.Pairwise (· < ·) ∧ ∀ name, name ∈ names ↔ ReachesCycle types name) ∧
    ((∃ sorted, sortTypes types = .ok sorted) ↔
      IsClosed (countedTypes types) ∧ ¬∃ name, TransGen (DependsOn types) name name) := by
  exact ⟨⟨map_name_countedTypes types, fun type ↦ (mem_countedTypes_iff types type).mp⟩,
    fun _ _ ↦ sortTypes_eq_unknownType_iff, fun _ ↦ sortTypes_eq_circular_iff, exists_sorted_iff⟩

/-- `Outer` stands on no cycle and is reported all the same, because a cycle can be reached from
it. -/
example :
    sortTypes
      [{ name := "Outer"
         body := .inputObject [{ name := "inner", type := .plain .inputObject (some "Loop") }] },
       { name := "Loop"
         body := .inputObject [{ name := "again", type := .plain .inputObject (some "Loop") }] }] =
      .error (.circular ["Loop", "Outer"]) := by
  cbv

end SchemaBindings
