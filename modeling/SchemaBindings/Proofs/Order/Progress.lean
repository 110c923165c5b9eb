import SchemaBindings.Order.Queue
import SchemaBindings.Proofs.Order.Arrival
import SchemaBindings.Proofs.Order.Precedence
/-!
# The loop over the queue

`Progress.Consistent` is what holds between two steps: the emitted types are in dependency order,
what a remaining type waits for is what it depends on without the emitted names, and the emitted
names followed by the queue are the arrivals. A step from such a state never fails while the queue
holds a name, and its result is described in full (`step_eq_some`), so the loop ends with an empty
queue in such a state (`finish_consistent`, `finish_queue`).
-/

set_option autoImplicit false
set_option relaxedAutoImplicit false

namespace SchemaBindings

namespace Progress

/-! ### Tables of what types wait for -/

/-- A table with one entry for each type. -/
def table (nodes : List NamedType) (entry : NamedType → List String) :
    List (String × List String) :=
  nodes.map fun type ↦ (type.name, entry type)

/-- The entries after a name is struck from those of some types. -/
def struck (name : String) (dependents : List NamedType) (entry : NamedType → List String)
    (type : NamedType) : List String :=
  if type ∈ dependents then (entry type).filter fun other ↦ other != name else entry type

theorem lookup_table_eq_some_iff {nodes : List NamedType}
    (hnodup : (nodes.map NamedType.name).Nodup) (entry : NamedType → List String) (name : String)
    (names : List String) :
    (table nodes entry).lookup name = some names ↔
      ∃ type ∈ nodes, type.name = name ∧ entry type = names := by
  rw [table, lookup_map_name, Option.map_eq_some_iff]
  constructor
  · rintro ⟨type, hfound, hentry⟩
    exact ⟨type, List.mem_of_find?_eq_some hfound, by simpa using List.find?_some hfound, hentry⟩
  · rintro ⟨type, hmem, rfl, hentry⟩
    exact ⟨type, find?_name_eq_some hnodup hmem, hentry⟩

/-- Replacing the entry of one type. -/
theorem setOutstanding_table {nodes : List NamedType} (hnodup : (nodes.map NamedType.name).Nodup)
    {changed : NamedType} (hmem : changed ∈ nodes) (names : List String)
    (entry : NamedType → List String) :
    setOutstanding changed.name names (table nodes entry) =
      table nodes (Function.update entry changed names) := by
  rw [setOutstanding, table, table, List.map_map]
  refine List.map_congr_left fun type htype ↦ ?_
  by_cases hsame : type = changed
  · subst hsame
    simp
  · have hname : type.name ≠ changed.name := fun heq ↦
      hsame (eq_of_name_eq hnodup htype hmem heq)
    simp [hname, hsame]

theorem update_eq_struck (name : String) (dependent : NamedType)
    (entry : NamedType → List String) :
    Function.update entry dependent ((entry dependent).filter fun other ↦ other != name) =
      struck name [dependent] entry := by
  funext type
  by_cases hsame : type = dependent
  · subst hsame
    simp [struck]
  · simp [struck, hsame]

/-- Striking a name from the entry of one type. -/
theorem strike_table {nodes : List NamedType} (hnodup : (nodes.map NamedType.name).Nodup)
    {dependent : NamedType} (hmem : dependent ∈ nodes) (name : String)
    (entry : NamedType → List String) (queue : List String) :
    strike name (table nodes entry, queue) dependent.name =
      some (table nodes (struck name [dependent] entry),
        if ((entry dependent).filter fun other ↦ other != name).isEmpty
          then queue ++ [dependent.name] else queue) := by
  have hlookup : (table nodes entry).lookup dependent.name = some (entry dependent) :=
    (lookup_table_eq_some_iff hnodup entry _ _).mpr ⟨dependent, hmem, rfl, rfl⟩
  simp only [strike, hlookup, Option.bind_eq_bind, Option.bind_some,
    setOutstanding_table hnodup hmem, update_eq_struck, Option.pure_def]

/-- Striking a name from the entries of several types: those whose entries become empty join the
queue, in the order of the types. -/
theorem foldlM_strike {nodes : List NamedType} (hnodup : (nodes.map NamedType.name).Nodup)
    (name : String) (dependents : List NamedType) (hdependents : dependents.Nodup)
    (hmem : ∀ dependent ∈ dependents, dependent ∈ nodes) (entry : NamedType → List String)
    (queue : List String) :
    (dependents.map NamedType.name).foldlM (strike name) (table nodes entry, queue) =
      some (table nodes (struck name dependents entry),
        queue ++ (dependents.filter fun dependent ↦
          ((entry dependent).filter fun other ↦ other != name).isEmpty).map NamedType.name) := by
  induction dependents generalizing entry queue with
  | nil => simp [struck, table]
  | cons first rest ih =>
    obtain ⟨hfirst, hrest⟩ := List.nodup_cons.mp hdependents
    have hentry : struck name rest (struck name [first] entry) =
        struck name (first :: rest) entry := by
      funext type
      by_cases hsame : type = first
      · subst hsame
        simp [struck, hfirst]
      · simp [struck, hsame]
    have hready : (rest.filter fun dependent ↦ ((struck name [first] entry dependent).filter
          fun other ↦ other != name).isEmpty) =
        rest.filter fun dependent ↦ ((entry dependent).filter
          fun other ↦ other != name).isEmpty := by
      refine List.filter_congr fun dependent hdependent ↦ ?_
      have hne : dependent ≠ first := fun heq ↦ hfirst (heq ▸ hdependent)
      simp [struck, hne]
    rw [List.map_cons, List.foldlM_cons, strike_table hnodup (hmem first List.mem_cons_self),
      Option.bind_eq_bind, Option.bind_some,
      ih hrest fun dependent hdependent ↦ hmem dependent (List.mem_cons_of_mem _ hdependent),
      hentry, hready, List.filter_cons]
    split <;> simp

/-! ### The invariant -/

/-- The names emitted so far. -/
def done (state : Progress) : List String :=
  state.emitted.map NamedType.name

/-- What the types whose names are not in `done` wait for: what they depend on without `done`. -/
def waiting (types : List NamedType) (done : List String) : List (String × List String) :=
  table (types.filter fun type ↦ !done.contains type.name) fun type ↦
    type.dependencies.filter fun name ↦ !done.contains name

/-- What holds between two steps. -/
structure Consistent (types : List NamedType) (state : Progress) : Prop where
  emitted_mem : ∀ type ∈ state.emitted, type ∈ types
  nodup_done : state.done.Nodup
  ordered : IsDependencyOrder state.emitted
  schedule : state.done ++ state.queue = (arrivals types state.done).map NamedType.name
  outstanding_eq : state.outstanding = waiting types state.done

/-- Before the first step the types without dependencies are in the queue and nothing is struck. -/
theorem start_consistent (types : List NamedType) :
    Consistent types (start (DependencyGraph.onNodes types)) where
  emitted_mem := by simp [start]
  nodup_done := List.nodup_nil
  ordered := by
    intro before type after hsplit
    simp [start] at hsplit
  schedule := by
    change (List.filter _ (types.map _)).map Prod.fst = (arrivals types []).map NamedType.name
    rw [arrivals_nil, List.filter_map, List.map_map]
    rfl
  outstanding_eq := by
    change types.map _ = _
    simp [waiting, table, done, start]

variable {types : List NamedType} {state : Progress}

/-- The emitted names and the queue have no repetition. -/
theorem Consistent.nodup_schedule (hstate : Consistent types state)
    (htypes : (types.map NamedType.name).Nodup) : (state.done ++ state.queue).Nodup := by
  rw [hstate.schedule]
  exact nodup_name_arrivals htypes hstate.nodup_done

/-- A type of the list whose name is emitted is emitted itself. -/
theorem Consistent.mem_emitted (hstate : Consistent types state)
    (htypes : (types.map NamedType.name).Nodup) {type : NamedType} (hmem : type ∈ types)
    (hname : type.name ∈ state.done) : type ∈ state.emitted := by
  obtain ⟨other, hother, hsame⟩ := List.mem_map.mp hname
  rwa [← eq_of_name_eq htypes (hstate.emitted_mem other hother) hmem hsame]

/-- Everything that a type with an emitted name depends on is emitted. -/
theorem Consistent.dependency_done (hstate : Consistent types state)
    (htypes : (types.map NamedType.name).Nodup) {type : NamedType} (hmem : type ∈ types)
    (htype : type.name ∈ state.done) {name : String} (hname : name ∈ type.dependencies) :
    name ∈ state.done :=
  hstate.ordered.mem_of_dependency (hstate.mem_emitted htypes hmem htype) hname

/-- The name at the front of the queue is that of a type which is not emitted and depends only on
emitted names. -/
theorem Consistent.front (hstate : Consistent types state)
    (htypes : (types.map NamedType.name).Nodup) {name : String} {rest : List String}
    (hqueue : state.queue = name :: rest) :
    ∃ type ∈ types, type.name = name ∧ name ∉ state.done ∧
      ∀ other ∈ type.dependencies, other ∈ state.done := by
  have hmem : name ∈ state.done ++ state.queue := by simp [hqueue]
  rw [hstate.schedule] at hmem
  obtain ⟨type, harrived, hname⟩ := List.mem_map.mp hmem
  obtain ⟨htype, hdependencies⟩ := (mem_arrivals_iff types state.done type).mp harrived
  refine ⟨type, htype, hname, fun hdone ↦ ?_, hdependencies⟩
  have hnodup := hstate.nodup_schedule htypes
  rw [hqueue, List.nodup_append] at hnodup
  exact hnodup.2.2 name hdone name List.mem_cons_self rfl

/-! ### One step -/

/-- The types that depend on an emitted name and now wait for nothing are the released ones. -/
theorem filter_released (types : List NamedType) (done : List String) (name : String) :
    ((types.filter fun type ↦ type.dependencies.contains name).filter fun type ↦
      ((type.dependencies.filter fun other ↦ !done.contains other).filter
        fun other ↦ other != name).isEmpty) = released types done name := by
  rw [List.filter_filter, released]
  refine List.filter_congr fun type _ ↦ ?_
  rw [Bool.and_comm]
  congr 1
  rw [Bool.eq_iff_iff]
  simp only [List.isEmpty_iff, List.filter_eq_nil_iff, List.mem_filter, List.all_eq_true,
    List.mem_append, List.mem_singleton, Bool.not_eq_true', bne_iff_ne, List.contains_eq_mem,
    decide_eq_false_iff_not, decide_eq_true_eq, ne_eq, not_not]
  refine ⟨fun h other hother ↦ ?_, fun h other hother ↦ (h other hother.1).resolve_left hother.2⟩
  by_cases hdone : other ∈ done
  · exact Or.inl hdone
  · exact Or.inr (h other ⟨hother, hdone⟩)

/-- A name outside one more emitted name is another name outside those before. -/
theorem not_contains_append_singleton (done : List String) (name other : String) :
    (!(done ++ [name]).contains other) = (other != name && !done.contains other) := by
  rw [List.contains_append, Bool.not_or, Bool.and_comm]
  simp only [List.contains_cons, List.contains_nil, Bool.or_false, bne]

/-- What is left of a table when a name is struck from its dependents and its own entry is taken
out. -/
theorem filter_table_struck (types : List NamedType) (done : List String) (name : String) :
    (table (types.filter fun type ↦ !done.contains type.name)
        (struck name (types.filter fun type ↦ type.dependencies.contains name) fun type ↦
          type.dependencies.filter fun other ↦ !done.contains other)).filter
      (fun entry ↦ entry.1 != name) = waiting types (done ++ [name]) := by
  rw [table, List.filter_map, List.filter_filter, waiting, table]
  simp only [not_contains_append_singleton, Function.comp_def]
  refine List.map_congr_left fun type htype ↦ ?_
  have hmem : type ∈ types := (List.mem_filter.mp htype).1
  rw [← List.filter_filter]
  by_cases hdepends : name ∈ type.dependencies
  · simp [struck, hmem, hdepends]
  · have hnone : ∀ other ∈ type.dependencies.filter fun other ↦ !done.contains other,
        (other != name) = true := by
      intro other hother
      rw [bne_iff_ne]
      exact fun heq ↦ hdepends (heq ▸ (List.mem_filter.mp hother).1)
    rw [List.filter_eq_self.mpr hnone]
    simp [struck, hdepends]

/-- The state after the type `type` is emitted from a state whose queue goes on with `rest`. -/
def emit (types : List NamedType) (state : Progress) (type : NamedType) (rest : List String) :
    Progress where
  outstanding := waiting types (state.done ++ [type.name])
  queue := rest ++ (released types state.done type.name).map NamedType.name
  emitted := state.emitted ++ [type]

@[simp] theorem done_emit (types : List NamedType) (state : Progress) (type : NamedType)
    (rest : List String) : (emit types state type rest).done = state.done ++ [type.name] := by
  simp [emit, done]

/-- While the queue holds a name a step finds all its keys: it emits the type of the name, strikes
the name from what its dependents wait for, and appends the types so released to the queue. -/
theorem step_eq_some (hstate : Consistent types state)
    (htypes : (types.map NamedType.name).Nodup) {type : NamedType} (hmem : type ∈ types)
    {rest : List String} (hqueue : state.queue = type.name :: rest) :
    step (DependencyGraph.onNodes types) state = some (emit types state type rest) := by
  obtain ⟨front, hfront, hname, hnotDone, -⟩ := hstate.front htypes hqueue
  have hnodes : ((types.filter fun type ↦ !state.done.contains type.name).map
      NamedType.name).Nodup := htypes.sublist (List.filter_sublist.map _)
  have hdependents : ∀ dependent ∈ types.filter fun other ↦ other.dependencies.contains type.name,
      dependent ∈ types.filter fun other ↦ !state.done.contains other.name := by
    intro dependent hdependent
    rw [List.mem_filter, List.contains_iff_mem] at hdependent
    rw [List.mem_filter, Bool.not_eq_true', List.contains_eq_mem, decide_eq_false_iff_not]
    exact ⟨hdependent.1, fun hdone ↦
      hnotDone (hstate.dependency_done htypes hdependent.1 hdone hdependent.2)⟩
  have hstrike := foldlM_strike hnodes type.name
    (types.filter fun other ↦ other.dependencies.contains type.name)
    (htypes.of_map.filter _) hdependents
    (fun other ↦ other.dependencies.filter fun name ↦ !state.done.contains name) rest
  have hself : type ∈ types.filter fun other ↦ !state.done.contains other.name := by
    rw [List.mem_filter, Bool.not_eq_true', List.contains_eq_mem, decide_eq_false_iff_not]
    exact ⟨hmem, hnotDone⟩
  have hlookup (entry : NamedType → List String) :
      (table (types.filter fun other ↦ !state.done.contains other.name) entry).lookup type.name =
        some (entry type) :=
    (lookup_table_eq_some_iff hnodes entry _ _).mpr ⟨type, hself, rfl, rfl⟩
  rw [step, hqueue]
  simp only [DependencyGraph.onNodes_type? htypes hmem,
    DependencyGraph.onNodes_dependents_lookup htypes hmem, Option.bind_eq_bind, Option.bind_some,
    DependencyGraph.dependentsOf, hstate.outstanding_eq]
  rw [waiting, hstrike]
  simp only [Option.bind_some, hlookup, Option.pure_def, filter_released, filter_table_struck]
  rfl

/-- Emitting the type at the front of the queue keeps what holds between two steps. -/
theorem Consistent.emit (hstate : Consistent types state)
    (htypes : (types.map NamedType.name).Nodup) {type : NamedType} (hmem : type ∈ types)
    {rest : List String} (hqueue : state.queue = type.name :: rest) :
    Consistent types (state.emit types type rest) where
  emitted_mem := by
    intro other hother
    rcases List.mem_append.mp hother with hbefore | hlast
    · exact hstate.emitted_mem other hbefore
    · rwa [List.mem_singleton.mp hlast]
  nodup_done := by
    rw [done_emit]
    have hnodup := hstate.nodup_schedule htypes
    rw [hqueue, ← List.singleton_append, ← List.append_assoc] at hnodup
    exact (List.nodup_append.mp hnodup).1
  ordered := by
    obtain ⟨front, hfront, hname, -, hdependencies⟩ := hstate.front htypes hqueue
    rw [eq_of_name_eq htypes hfront hmem hname] at hdependencies
    exact hstate.ordered.append_singleton hdependencies
  schedule := by
    rw [done_emit, arrivals_append_singleton, List.map_append, ← hstate.schedule, hqueue]
    simp [Progress.emit]
  outstanding_eq := by rw [done_emit]; rfl

/-! ### The whole loop -/

/-- What holds between two steps holds after any number of them. -/
theorem Consistent.run (htypes : (types.map NamedType.name).Nodup) (steps : Nat)
    (hstate : Consistent types state) :
    Consistent types (run (DependencyGraph.onNodes types) steps state) := by
  induction steps generalizing state with
  | zero => exact hstate
  | succ steps ih =>
    cases hqueue : state.queue with
    | nil => simpa only [Progress.run, step, hqueue] using hstate
    | cons name rest =>
      obtain ⟨type, hmem, rfl, -⟩ := hstate.front htypes hqueue
      simp only [Progress.run, step_eq_some hstate htypes hmem hqueue]
      exact ih (hstate.emit htypes hmem hqueue)

/-- There are at most as many emitted and queued names as types. -/
theorem Consistent.length_le (hstate : Consistent types state)
    (htypes : (types.map NamedType.name).Nodup) :
    state.emitted.length + state.queue.length ≤ types.length := by
  have hsubset : state.done ++ state.queue ⊆ types.map NamedType.name := by
    rw [hstate.schedule]
    exact List.map_subset _ fun type htype ↦ ((mem_arrivals_iff types state.done type).mp htype).1
  have hlength := (hstate.nodup_schedule htypes).length_le_of_subset hsubset
  simpa [done] using hlength

/-- The queue is empty after as many steps as there are types that are not emitted. -/
theorem run_queue (htypes : (types.map NamedType.name).Nodup) (steps : Nat)
    (hstate : Consistent types state) (hsteps : types.length ≤ state.emitted.length + steps) :
    (run (DependencyGraph.onNodes types) steps state).queue = [] := by
  induction steps generalizing state with
  | zero =>
    have hlength := hstate.length_le htypes
    exact List.eq_nil_of_length_eq_zero (by simp only [run]; omega)
  | succ steps ih =>
    cases hqueue : state.queue with
    | nil => simp only [run, step, hqueue]
    | cons name rest =>
      obtain ⟨type, hmem, rfl, -⟩ := hstate.front htypes hqueue
      simp only [run, step_eq_some hstate htypes hmem hqueue]
      refine ih (hstate.emit htypes hmem hqueue) ?_
      simp only [emit, List.length_append, List.length_singleton]
      omega

theorem finish_consistent (htypes : (types.map NamedType.name).Nodup) :
    Consistent types (finish (DependencyGraph.onNodes types)) :=
  Consistent.run htypes _ (start_consistent types)

/-- The loop ends because its queue is empty, not because it runs out of steps. -/
theorem finish_queue (htypes : (types.map NamedType.name).Nodup) :
    (finish (DependencyGraph.onNodes types)).queue = [] :=
  run_queue htypes _ (start_consistent types) (by simp)

/-- In the end the emitted types are those that have arrived, in the order of arrival. -/
theorem finish_emitted (htypes : (types.map NamedType.name).Nodup) :
    let final := finish (DependencyGraph.onNodes types)
    final.emitted = arrivals types final.done := by
  intro final
  have hfinal : Consistent types final := finish_consistent htypes
  have hschedule := hfinal.schedule
  rw [finish_queue htypes, List.append_nil] at hschedule
  exact eq_of_map_name_eq htypes hfinal.emitted_mem
    (fun type htype ↦ ((mem_arrivals_iff types final.done type).mp htype).1) hschedule

end Progress

end SchemaBindings
