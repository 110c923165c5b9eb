import SchemaBindings.Proofs.Order.Edges
/-!
# The graph and the loop that consumes it

The two tables of a graph have the nodes as their keys and say the same edges from either end
(`DependencyGraph.IsPaired`). `Progress.Reaches` counts the steps of the loop. In every state that
it reaches, each node that is not emitted waits for what it depends on without the emitted names,
and the queue holds the nodes that wait for nothing (`Progress.InStep`). So a step finds all its
keys, a name joins the queue at most once, and the queue is empty after at most as many steps as
there are nodes (`ofTypes_reaches`).
-/

set_option autoImplicit false
set_option relaxedAutoImplicit false

namespace SchemaBindings

/-! ### The two tables -/

namespace DependencyGraph

/-- The first name has the second among its entries in a table. -/
def Lists (table : List (String × List String)) (key name : String) : Prop :=
  ∃ names, table.lookup key = some names ∧ name ∈ names

/-- The keys of a graph are distinct, its tables have them in the same order and say the same edges
from either end, and each list of dependents follows the keys without repetition. -/
structure IsPaired (graph : DependencyGraph) : Prop where
  nodup_keys : (graph.types.map NamedType.name).Nodup
  dependencies_keys : graph.dependencies.map Prod.fst = graph.types.map NamedType.name
  dependents_keys : graph.dependents.map Prod.fst = graph.types.map NamedType.name
  lists_iff : ∀ source target,
    Lists graph.dependencies source target ↔ Lists graph.dependents target source
  sublist_dependents : ∀ name dependents, graph.dependents.lookup name = some dependents →
    dependents.Sublist (graph.types.map NamedType.name)
  nodup_dependents : ∀ name dependents, graph.dependents.lookup name = some dependents →
    dependents.Nodup

variable {types : List NamedType}

theorem lists_dependencies_onNodes_iff (hnodup : (types.map NamedType.name).Nodup)
    (source target : String) :
    Lists (onNodes types).dependencies source target ↔
      ∃ type ∈ types, type.name = source ∧ target ∈ type.dependencies := by
  have hlookup (names : List String) := Progress.lookup_table_eq_some_iff hnodup
    NamedType.dependencies source names
  constructor
  · rintro ⟨names, hnames, htarget⟩
    obtain ⟨type, hmem, hname, rfl⟩ := (hlookup names).mp hnames
    exact ⟨type, hmem, hname, htarget⟩
  · rintro ⟨type, hmem, hname, htarget⟩
    exact ⟨type.dependencies, (hlookup _).mpr ⟨type, hmem, hname, rfl⟩, htarget⟩

theorem lists_dependents_onNodes_iff (hnodup : (types.map NamedType.name).Nodup)
    (hclosed : IsClosed types) (source target : String) :
    Lists (onNodes types).dependents target source ↔
      ∃ type ∈ types, type.name = source ∧ target ∈ type.dependencies := by
  have hlookup (names : List String) := Progress.lookup_table_eq_some_iff hnodup
    (fun type ↦ dependentsOf types type.name) target names
  rw [← mem_dependentsOf_iff]
  constructor
  · rintro ⟨names, hnames, hsource⟩
    obtain ⟨type, -, rfl, rfl⟩ := (hlookup names).mp hnames
    exact hsource
  · intro hsource
    obtain ⟨type, hmem, -, htarget⟩ := (mem_dependentsOf_iff types target source).mp hsource
    obtain ⟨node, hnode, rfl⟩ := List.mem_map.mp (hclosed type hmem target htarget)
    exact ⟨_, (hlookup _).mpr ⟨node, hnode, rfl, rfl⟩, hsource⟩

theorem isPaired_onNodes (hnodup : (types.map NamedType.name).Nodup) (hclosed : IsClosed types) :
    (onNodes types).IsPaired := by
  have hsublist : ∀ name dependents, (onNodes types).dependents.lookup name = some dependents →
      dependents.Sublist (types.map NamedType.name) := by
    intro name dependents hlookup
    obtain ⟨type, -, -, rfl⟩ := (Progress.lookup_table_eq_some_iff hnodup
      (fun type ↦ dependentsOf types type.name) name dependents).mp hlookup
    exact List.filter_sublist.map _
  exact
    { nodup_keys := hnodup
      dependencies_keys := by simp [onNodes]
      dependents_keys := by simp [onNodes]
      lists_iff := fun source target ↦ by
        rw [lists_dependencies_onNodes_iff hnodup, lists_dependents_onNodes_iff hnodup hclosed]
      sublist_dependents := hsublist
      nodup_dependents := fun name dependents hlookup ↦
        hnodup.sublist (hsublist name dependents hlookup) }

end DependencyGraph

open DependencyGraph

namespace Progress

/-! ### States that the loop reaches -/

/-- The states of the loop on a graph, each with the number of steps taken before. -/
inductive Reaches (graph : DependencyGraph) : Nat → Progress → Prop
  | initial : Reaches graph 0 (start graph)
  | next {count : Nat} {state next : Progress} (hstate : Reaches graph count state)
      (hstep : step graph state = some next) : Reaches graph (count + 1) next

/-- What the loop keeps: each key that is not emitted waits for its original dependencies without
the emitted names, the queue holds the keys that wait for nothing, and the names that have joined
the queue so far are distinct. -/
structure InStep (graph : DependencyGraph) (state : Progress) : Prop where
  outstanding_eq : state.outstanding =
    (graph.dependencies.filter fun entry ↦ !state.done.contains entry.1).map fun entry ↦
      (entry.1, entry.2.filter fun name ↦ !state.done.contains name)
  mem_queue_iff : ∀ name, name ∈ state.queue ↔ state.outstanding.lookup name = some []
  nodup_joined : (state.done ++ state.queue).Nodup

/-- In a state whose queue starts with `name` a step finds all its keys: the type, its dependents,
what each of them waits for, and the entry of the name itself. It emits the name, and names can only
join the end of the queue. -/
structure FindsKeys (graph : DependencyGraph) (state : Progress) (name : String)
    (rest : List String) : Prop where
  type : ∃ type, graph.type? name = some type
  dependents : ∃ dependents, graph.dependents.lookup name = some dependents ∧
    ∀ dependent ∈ dependents, dependent ≠ name ∧
      ∃ waiting, state.outstanding.lookup dependent = some waiting
  self : ∃ waiting, state.outstanding.lookup name = some waiting
  step : ∃ next joined, Progress.step graph state = some next ∧
    next.done = state.done ++ [name] ∧ next.queue = rest ++ joined

variable {types : List NamedType} {state next : Progress}

/-- All that a step can do between two consistent states. -/
theorem step_cases (hstate : Consistent types state) (htypes : (types.map NamedType.name).Nodup)
    (hstep : step (onNodes types) state = some next) :
    ∃ type ∈ types, ∃ rest, state.queue = type.name :: rest ∧
      next = emit types state type rest := by
  cases hqueue : state.queue with
  | nil =>
    rw [step, hqueue] at hstep
    cases hstep
  | cons name rest =>
    obtain ⟨type, hmem, rfl, -⟩ := hstate.front htypes hqueue
    rw [step_eq_some hstate htypes hmem hqueue] at hstep
    exact ⟨type, hmem, rest, rfl, (Option.some.inj hstep).symm⟩

theorem Reaches.consistent (htypes : (types.map NamedType.name).Nodup) {count : Nat}
    (hreaches : Reaches (onNodes types) count state) :
    Consistent types state ∧ state.emitted.length = count := by
  induction hreaches with
  | initial => exact ⟨start_consistent types, rfl⟩
  | next hbefore hstep ih =>
    obtain ⟨hstate, hcount⟩ := ih
    obtain ⟨type, hmem, rest, hqueue, rfl⟩ := step_cases hstate htypes hstep
    exact ⟨hstate.emit htypes hmem hqueue, by simp [emit, hcount]⟩

/-- The steps of a run are steps of the loop. -/
theorem Reaches.run {graph : DependencyGraph} {count : Nat} (hreaches : Reaches graph count state)
    (steps : Nat) : ∃ total, Reaches graph total (run graph steps state) := by
  induction steps generalizing count state with
  | zero => exact ⟨count, hreaches⟩
  | succ steps ih =>
    cases hstep : step graph state with
    | none => exact ⟨count, by simpa only [Progress.run, hstep] using hreaches⟩
    | some next => simpa only [Progress.run, hstep] using ih (hreaches.next hstep)

/-! ### What the loop keeps -/

/-- What a name waits for is what its type depends on without the emitted names. -/
theorem Consistent.lookup_outstanding_eq_some_iff (hstate : Consistent types state)
    (htypes : (types.map NamedType.name).Nodup) (name : String) (names : List String) :
    state.outstanding.lookup name = some names ↔
      ∃ type ∈ types, type.name = name ∧ name ∉ state.done ∧
        (type.dependencies.filter fun other ↦ !state.done.contains other) = names := by
  rw [hstate.outstanding_eq, waiting,
    lookup_table_eq_some_iff (htypes.sublist (List.filter_sublist.map _))]
  simp only [List.mem_filter, Bool.not_eq_true', List.contains_eq_mem, decide_eq_false_iff_not]
  constructor
  · rintro ⟨type, ⟨hmem, hdone⟩, rfl, hnames⟩
    exact ⟨type, hmem, rfl, hdone, hnames⟩
  · rintro ⟨type, hmem, rfl, hdone, hnames⟩
    exact ⟨type, ⟨hmem, hdone⟩, rfl, hnames⟩

/-- The queue holds the names of the arrivals that are not emitted. -/
theorem Consistent.mem_queue_iff (hstate : Consistent types state)
    (htypes : (types.map NamedType.name).Nodup) (name : String) :
    name ∈ state.queue ↔ state.outstanding.lookup name = some [] := by
  have hjoined : name ∈ state.done ++ state.queue ↔ ∃ type ∈ types, type.name = name ∧
      ∀ other ∈ type.dependencies, other ∈ state.done := by
    rw [hstate.schedule, List.mem_map]
    simp only [mem_arrivals_iff]
    exact exists_congr fun type ↦ by rw [and_assoc, and_comm (b := type.name = name)]
  have hdisjoint : name ∈ state.queue → name ∉ state.done := fun hqueue hdone ↦
    (List.nodup_append.mp (hstate.nodup_schedule htypes)).2.2 name hdone name hqueue rfl
  rw [hstate.lookup_outstanding_eq_some_iff htypes]
  simp only [List.filter_eq_nil_iff, Bool.not_eq_true', List.contains_eq_mem,
    decide_eq_false_iff_not, not_not]
  constructor
  · intro hqueue
    obtain ⟨type, hmem, hname, harrived⟩ := hjoined.mp (List.mem_append_right _ hqueue)
    exact ⟨type, hmem, hname, hdisjoint hqueue, harrived⟩
  · rintro ⟨type, hmem, hname, hdone, harrived⟩
    exact (List.mem_append.mp (hjoined.mpr ⟨type, hmem, hname, harrived⟩)).resolve_left hdone

theorem Consistent.inStep (hstate : Consistent types state)
    (htypes : (types.map NamedType.name).Nodup) : InStep (onNodes types) state where
  outstanding_eq := by
    rw [hstate.outstanding_eq, waiting, table, onNodes, List.filter_map, List.map_map]
    rfl
  mem_queue_iff := hstate.mem_queue_iff htypes
  nodup_joined := hstate.nodup_schedule htypes

theorem Consistent.findsKeys (hstate : Consistent types state)
    (htypes : (types.map NamedType.name).Nodup) {name : String} {rest : List String}
    (hqueue : state.queue = name :: rest) : FindsKeys (onNodes types) state name rest := by
  obtain ⟨type, hmem, rfl, hdone, hdependencies⟩ := hstate.front htypes hqueue
  have hentry {other : NamedType} (hother : other ∈ types) (hnotDone : other.name ∉ state.done) :
      ∃ waiting, state.outstanding.lookup other.name = some waiting :=
    ⟨_, (hstate.lookup_outstanding_eq_some_iff htypes _ _).mpr ⟨other, hother, rfl, hnotDone, rfl⟩⟩
  refine ⟨⟨type, onNodes_type? htypes hmem⟩,
    ⟨_, onNodes_dependents_lookup htypes hmem, fun dependent hdependent ↦ ?_⟩, hentry hmem hdone,
    ⟨_, _, step_eq_some hstate htypes hmem hqueue, done_emit types state type rest, rfl⟩⟩
  obtain ⟨other, hother, rfl⟩ := List.mem_map.mp hdependent
  obtain ⟨hmemOther, hcontains⟩ := List.mem_filter.mp hother
  have hdepends : type.name ∈ other.dependencies := List.contains_iff_mem.mp hcontains
  constructor
  · intro hname
    rw [eq_of_name_eq htypes hmemOther hmem hname] at hdepends
    exact hdone (hdependencies _ hdepends)
  · exact hentry hmemOther fun hotherDone ↦
      hdone (hstate.dependency_done htypes hmemOther hotherDone hdepends)

end Progress

/-! ### The loop on the graph of a list -/

/-- When a list of types has a graph, its tables are those that its edges build, and say the same
edges from either end. The loop on it keeps what it says of each state, finds every key while its
queue holds a name, and ends with an empty queue after at most one step for each custom name. -/
theorem ofTypes_reaches {types : List NamedType} {graph : DependencyGraph}
    (hgraph : ofTypes types = .ok graph) :
    graph.types.map NamedType.name = customNames types ∧
      (edges graph.types).foldlM enterEdge (blank graph.types) =
        some (graph.dependencies, graph.dependents) ∧
      graph.IsPaired ∧
      (∀ count state, Progress.Reaches graph count state →
        Progress.InStep graph state ∧ count ≤ (customNames types).length ∧
          ∀ name rest, state.queue = name :: rest →
            Progress.FindsKeys graph state name rest) ∧
      ∃ count, Progress.Reaches graph count (Progress.finish graph) ∧
        (Progress.finish graph).queue = [] := by
  obtain ⟨hclosed, rfl⟩ := ofTypes_eq_ok_iff.mp hgraph
  have hnodup := nodup_name_countedTypes types
  have hnames := map_name_countedTypes types
  refine ⟨hnames, foldlM_enterEdge_edges hnodup hclosed, isPaired_onNodes hnodup hclosed,
    fun count state hreaches ↦ ?_, ?_⟩
  · obtain ⟨hstate, hcount⟩ := hreaches.consistent hnodup
    refine ⟨hstate.inStep hnodup, ?_, fun name rest hqueue ↦ hstate.findsKeys hnodup hqueue⟩
    have hlength := hstate.length_le hnodup
    rw [← hnames, List.length_map]
    omega
  · have hstart : Progress.Reaches (onNodes (countedTypes types)) 0 _ := .initial
    obtain ⟨count, hfinish⟩ := hstart.run (countedTypes types).length
    exact ⟨count, hfinish, Progress.finish_queue hnodup⟩

/-- An input object with a field of its own type, beside one that refers to an enum. -/
def loopedInputs : List NamedType :=
  [{ name := "Filter"
     body := .inputObject [{ name := "other", type := .plain .inputObject (some "Filter") }] },
   { name := "Page"
     body := .inputObject [{ name := "order", type := .plain .enum (some "Order") }] },
   { name := "Order", body := .enum [{ name := "ASC" }] }]

theorem ofTypes_reaches_loopedInputs :
    let graph : DependencyGraph :=
      { types := loopedInputs
        dependencies := [("Filter", ["Filter"]), ("Page", ["Order"]), ("Order", [])]
        dependents := [("Filter", ["Filter"]), ("Page", []), ("Order", ["Page"])] }
    ofTypes loopedInputs = .ok graph ∧ graph.IsPaired ∧
      (∀ count state, Progress.Reaches graph count state →
        Progress.InStep graph state ∧ count ≤ 3) ∧
      (Progress.finish graph).queue = [] ∧ (Progress.finish graph).done = ["Order", "Page"] ∧
      (Progress.finish graph).outstanding = [("Filter", ["Filter"])] := by
  intro graph
  have hgraph : ofTypes loopedInputs = .ok graph := by
    rfl
  obtain ⟨-, -, hpaired, hreaches, _, -, hqueue⟩ := ofTypes_reaches hgraph
  refine ⟨hgraph, hpaired, fun count state hstate ↦ ?_, hqueue, rfl, rfl⟩
  obtain ⟨hstep, hcount, -⟩ := hreaches count state hstate
  exact ⟨hstep, hcount⟩

end SchemaBindings
