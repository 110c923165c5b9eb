import SchemaBindings.Proofs.Order.Progress
/-!
# Filling in the graph

The graph is filled in in two rounds. The first enters the custom types of a list one after another,
each under its name and with two blank entries; it leaves the types that count
(`foldl_enterNode`). The second enters their edges.

The edges of a list of types run from the name of a type to each name that it depends on. Entered
one after another into two tables with blank entries, they give what each node depends on and
which nodes depend on it, and no look-up fails on the way (`foldlM_enterEdge_edges`). Between two
edges the tables hold the targets and the sources of the edges entered so far
(`enterEdge_entered`).
-/

set_option autoImplicit false
set_option relaxedAutoImplicit false

namespace SchemaBindings

namespace DependencyGraph

/-- The edges of a list of types: each type with each of its dependencies, in order. -/
def edges (types : List NamedType) : List (String × String) :=
  types.flatMap fun type ↦ type.dependencies.map fun name ↦ (type.name, name)

/-- The two tables of a graph: what each name depends on and which names depend on it. -/
abbrev Tables : Type :=
  List (String × List String) × List (String × List String)

/-- Adds a name to a set of names, kept in the order of their first appearance. -/
def addName (names : List String) (name : String) : List String :=
  if names.contains name then names else names ++ [name]

/-- Enters an edge: its target joins the set of its source, and its source the end of the list of
its target. There is no result when the source or the target has no entry. -/
def enterEdge (tables : Tables) (edge : String × String) : Option Tables := do
  let targets ← tables.1.lookup edge.1
  let sources ← tables.2.lookup edge.2
  return (Progress.setOutstanding edge.1 (addName targets edge.2) tables.1,
    Progress.setOutstanding edge.2 (sources ++ [edge.1]) tables.2)

/-- The tables on given nodes before any edge is entered. -/
def blank (types : List NamedType) : Tables :=
  (types.map fun type ↦ (type.name, []), types.map fun type ↦ (type.name, []))

/-- The names to which the edges of a list lead from a name. -/
def targetsOf (entered : List (String × String)) (name : String) : List String :=
  (entered.filter fun edge ↦ edge.1 == name).map Prod.snd

/-- The names from which the edges of a list lead to a name. -/
def sourcesOf (entered : List (String × String)) (name : String) : List String :=
  (entered.filter fun edge ↦ edge.2 == name).map Prod.fst

/-- The tables on given nodes after some edges are entered. -/
def entered (types : List NamedType) (edges : List (String × String)) : Tables :=
  (Progress.table types fun type ↦ targetsOf edges type.name,
    Progress.table types fun type ↦ sourcesOf edges type.name)

variable {types : List NamedType}

/-! ### One edge -/

theorem mem_targetsOf_iff (edges : List (String × String)) (source target : String) :
    target ∈ targetsOf edges source ↔ (source, target) ∈ edges := by
  simp [targetsOf]

theorem targetsOf_append_singleton (edges : List (String × String)) (edge : String × String) :
    targetsOf (edges ++ [edge]) =
      Function.update (targetsOf edges) edge.1 (targetsOf edges edge.1 ++ [edge.2]) := by
  funext name
  by_cases hname : name = edge.1
  · subst hname
    simp [targetsOf]
  · simp [targetsOf, hname, Ne.symm hname]

theorem sourcesOf_append_singleton (edges : List (String × String)) (edge : String × String) :
    sourcesOf (edges ++ [edge]) =
      Function.update (sourcesOf edges) edge.2 (sourcesOf edges edge.2 ++ [edge.1]) := by
  funext name
  by_cases hname : name = edge.2
  · subst hname
    simp [sourcesOf]
  · simp [sourcesOf, hname, Ne.symm hname]

/-- A table by names, changed at the name of one type. -/
theorem setOutstanding_table_name (hnodup : (types.map NamedType.name).Nodup) {name : String}
    (hname : name ∈ types.map NamedType.name) (entry : String → List String)
    (names : List String) :
    Progress.setOutstanding name names (Progress.table types fun type ↦ entry type.name) =
      Progress.table types fun type ↦ Function.update entry name names type.name := by
  obtain ⟨changed, hmem, rfl⟩ := List.mem_map.mp hname
  rw [Progress.setOutstanding_table hnodup hmem]
  refine List.map_congr_left fun type htype ↦ ?_
  by_cases hsame : type = changed
  · subst hsame
    simp
  · have hdistinct : type.name ≠ changed.name := fun heq ↦
      hsame (eq_of_name_eq hnodup htype hmem heq)
    simp [hsame, hdistinct]

theorem lookup_table_name (hnodup : (types.map NamedType.name).Nodup) {name : String}
    (hname : name ∈ types.map NamedType.name) (entry : String → List String) :
    (Progress.table types fun type ↦ entry type.name).lookup name = some (entry name) := by
  obtain ⟨type, hmem, rfl⟩ := List.mem_map.mp hname
  exact (Progress.lookup_table_eq_some_iff hnodup _ _ _).mpr ⟨type, hmem, rfl, rfl⟩

/-- An edge between two nodes that is entered for the first time is found both its entries, and
leaves the tables of the edges up to it. -/
theorem enterEdge_entered (hnodup : (types.map NamedType.name).Nodup)
    {edges : List (String × String)} {edge : String × String} (hnew : edge ∉ edges)
    (hsource : edge.1 ∈ types.map NamedType.name) (htarget : edge.2 ∈ types.map NamedType.name) :
    enterEdge (entered types edges) edge = some (entered types (edges ++ [edge])) := by
  have hadd : addName (targetsOf edges edge.1) edge.2 = targetsOf edges edge.1 ++ [edge.2] := by
    have hmem : edge.2 ∉ targetsOf edges edge.1 := by rwa [mem_targetsOf_iff]
    simp [addName, hmem]
  simp only [enterEdge, entered, lookup_table_name hnodup hsource,
    lookup_table_name hnodup htarget, Option.bind_eq_bind, Option.bind_some, Option.pure_def,
    hadd, setOutstanding_table_name hnodup hsource, setOutstanding_table_name hnodup htarget,
    ← targetsOf_append_singleton, ← sourcesOf_append_singleton]

/-! ### All edges -/

/-- Distinct edges between nodes are entered without a failing look-up. -/
theorem foldlM_enterEdge (hnodup : (types.map NamedType.name).Nodup)
    (edges : List (String × String)) (hedges : edges.Nodup)
    (hends : ∀ edge ∈ edges,
      edge.1 ∈ types.map NamedType.name ∧ edge.2 ∈ types.map NamedType.name) :
    edges.foldlM enterEdge (entered types []) = some (entered types edges) := by
  induction edges using List.reverseRecOn with
  | nil => rfl
  | append_singleton before last ih =>
    obtain ⟨hbefore, -, hlast⟩ := List.nodup_append.mp hedges
    have hnew : last ∉ before := fun hmem ↦ hlast last hmem last List.mem_cons_self rfl
    obtain ⟨hsource, htarget⟩ := hends last (by simp)
    rw [List.foldlM_append, ih hbefore fun edge hedge ↦ hends edge (List.mem_append_left _ hedge)]
    simp only [Option.bind_eq_bind, Option.bind_some, List.foldlM_cons, List.foldlM_nil,
      enterEdge_entered hnodup hnew hsource htarget, Option.pure_def]

theorem nodup_edges (hnodup : (types.map NamedType.name).Nodup) : (edges types).Nodup := by
  rw [edges, List.nodup_flatMap]
  constructor
  · intro type _
    exact (nodup_eraseDups _).map fun first second heq ↦ (Prod.mk.inj heq).2
  · refine (List.pairwise_map.mp hnodup).imp fun {first second} hname edge hfirst hsecond ↦ ?_
    obtain ⟨_, _, rfl⟩ := List.mem_map.mp hfirst
    obtain ⟨_, _, heq⟩ := List.mem_map.mp hsecond
    exact hname (Prod.mk.inj heq).1.symm

theorem mem_edges_iff (types : List NamedType) (source target : String) :
    (source, target) ∈ edges types ↔
      ∃ type ∈ types, type.name = source ∧ target ∈ type.dependencies := by
  simp [edges, and_comm]

/-- The edges from the name of a type lead to its dependencies. -/
theorem targetsOf_edges (hnodup : (types.map NamedType.name).Nodup) {type : NamedType}
    (hmem : type ∈ types) : targetsOf (edges types) type.name = type.dependencies := by
  have hsplit (first : NamedType) (rest : List NamedType) :
      targetsOf (edges (first :: rest)) type.name =
        targetsOf (first.dependencies.map fun name ↦ (first.name, name)) type.name ++
          targetsOf (edges rest) type.name := by
    simp only [edges, List.flatMap_cons, targetsOf, List.filter_append, List.map_append]
  induction types with
  | nil => simp at hmem
  | cons first rest ih =>
    obtain ⟨hfirst, hrest⟩ := List.nodup_cons.mp hnodup
    rw [hsplit]
    by_cases hsame : type = first
    · subst hsame
      have hnone : targetsOf (edges rest) type.name = [] := by
        refine List.eq_nil_iff_forall_not_mem.mpr fun target htarget ↦ ?_
        rw [mem_targetsOf_iff, mem_edges_iff] at htarget
        obtain ⟨other, hother, hname, -⟩ := htarget
        exact hfirst (hname ▸ List.mem_map_of_mem hother)
      rw [hnone, List.append_nil]
      simp [targetsOf, List.filter_map, Function.comp_def]
    · have hmemRest : type ∈ rest := (List.mem_cons.mp hmem).resolve_left hsame
      have hname : first.name ≠ type.name := fun heq ↦
        hfirst (heq ▸ List.mem_map_of_mem hmemRest)
      rw [ih hrest hmemRest]
      simp [targetsOf, List.filter_map, Function.comp_def, hname]

/-- The edges to a name come from the types that depend on it, each once. -/
theorem sourcesOf_edges (types : List NamedType) (name : String) :
    sourcesOf (edges types) name = dependentsOf types name := by
  have hentry (type : NamedType) :
      sourcesOf (type.dependencies.map fun target ↦ (type.name, target)) name =
        if type.dependencies.contains name then [type.name] else [] := by
    have hnodup : type.dependencies.Nodup := nodup_eraseDups _
    rw [sourcesOf, List.filter_map, List.map_map]
    change (type.dependencies.filter fun target ↦ target == name).map (fun _ ↦ type.name) = _
    rw [List.filter_beq, hnodup.count]
    by_cases hdepends : name ∈ type.dependencies
    · simp [hdepends]
    · simp [hdepends]
  induction types with
  | nil => rfl
  | cons first rest ih =>
    have hsplit : sourcesOf (edges (first :: rest)) name =
        sourcesOf (first.dependencies.map fun target ↦ (first.name, target)) name ++
          sourcesOf (edges rest) name := by
      simp only [edges, List.flatMap_cons, sourcesOf, List.filter_append, List.map_append]
    rw [hsplit, hentry, ih, dependentsOf, dependentsOf, List.filter_cons]
    split
    · rfl
    · rfl

/-- A closed list of types gives its graph when its edges are entered into blank tables. -/
theorem foldlM_enterEdge_edges (hnodup : (types.map NamedType.name).Nodup)
    (hclosed : IsClosed types) :
    (edges types).foldlM enterEdge (blank types) =
      some ((onNodes types).dependencies, (onNodes types).dependents) := by
  have hends : ∀ edge ∈ edges types,
      edge.1 ∈ types.map NamedType.name ∧ edge.2 ∈ types.map NamedType.name := by
    rintro ⟨source, target⟩ hedge
    obtain ⟨type, hmem, rfl, htarget⟩ := (mem_edges_iff types source target).mp hedge
    exact ⟨List.mem_map_of_mem hmem, hclosed type hmem target htarget⟩
  have htables : entered types (edges types) =
      ((onNodes types).dependencies, (onNodes types).dependents) := by
    refine Prod.ext (List.map_congr_left fun type hmem ↦ ?_)
      (List.map_congr_left fun type _ ↦ ?_)
    · exact Prod.ext rfl (targetsOf_edges hnodup hmem)
    · exact Prod.ext rfl (sourcesOf_edges types type.name)
  rw [← htables]
  exact foldlM_enterEdge hnodup (edges types) (nodup_edges hnodup) hends

/-! ### Filling in the nodes -/

/-- Puts an entry under its key: in the place of the entry with that key, or at the end. -/
def putBy {Entry : Type} (key : Entry → String) (entry : Entry) : List Entry → List Entry
  | [] => [entry]
  | old :: rest => if key old = key entry then entry :: rest else old :: putBy key entry rest

/-- Fills in a type, if it is custom: it becomes the node of its name, and the name gets a blank
entry in either table. -/
def enterNode (state : List NamedType × Tables) (type : NamedType) : List NamedType × Tables :=
  if type.isCustom then
    (putBy NamedType.name type state.1, putBy Prod.fst (type.name, []) state.2.1,
      putBy Prod.fst (type.name, []) state.2.2)
  else state

theorem putBy_map {First Second : Type} {key : First → String} {other : Second → String}
    (change : First → Second) (hkey : ∀ entry, other (change entry) = key entry) (entry : First)
    (entries : List First) :
    putBy other (change entry) (entries.map change) = (putBy key entry entries).map change := by
  induction entries with
  | nil => rfl
  | cons old rest ih =>
    rw [List.map_cons, putBy, putBy, hkey, hkey, ih]
    split <;> rfl

theorem map_putBy_name (type : NamedType) (nodes : List NamedType) :
    (putBy NamedType.name type nodes).map NamedType.name =
      if type.name ∈ nodes.map NamedType.name then nodes.map NamedType.name
      else nodes.map NamedType.name ++ [type.name] := by
  induction nodes with
  | nil => rfl
  | cons node rest ih =>
    rw [putBy]
    split
    · next heq => simp [heq]
    · next hne =>
      simp only [List.map_cons, ih, List.mem_cons, or_iff_right (Ne.symm hne)]
      split <;> rfl

/-- A node is the type that was filled in, or one that has another name. -/
theorem mem_putBy_name {type node : NamedType} {nodes : List NamedType}
    (hnodup : (nodes.map NamedType.name).Nodup) (hmem : node ∈ putBy NamedType.name type nodes) :
    node = type ∨ node ∈ nodes ∧ type.name ≠ node.name := by
  induction nodes with
  | nil => exact .inl (List.mem_singleton.mp hmem)
  | cons first rest ih =>
    obtain ⟨hfirst, hrest⟩ := List.nodup_cons.mp hnodup
    rw [putBy] at hmem
    split at hmem
    · next heq =>
      rcases List.mem_cons.mp hmem with hsame | hlater
      · exact .inl hsame
      · refine .inr ⟨List.mem_cons_of_mem _ hlater, fun hname ↦ hfirst ?_⟩
        rw [heq, hname]
        exact List.mem_map_of_mem hlater
    · next hne =>
      rcases List.mem_cons.mp hmem with rfl | hlater
      · exact .inr ⟨List.mem_cons_self, Ne.symm hne⟩
      · rcases ih hrest hlater with hsame | ⟨hold, hname⟩
        · exact .inl hsame
        · exact .inr ⟨List.mem_cons_of_mem _ hold, hname⟩

theorem customNames_append_singleton (types : List NamedType) {type : NamedType}
    (hcustom : type.isCustom = true) :
    customNames (types ++ [type]) =
      if type.name ∈ customNames types then customNames types
      else customNames types ++ [type.name] := by
  simp only [customNames, List.filter_append, List.filter_cons_of_pos hcustom, List.filter_nil,
    List.map_append, List.map_cons, List.map_nil, List.eraseDups_append, List.mem_eraseDups]
  split
  · next hmem => simp [List.removeAll, hmem]
  · next hmem => simp [List.removeAll, hmem, List.eraseDups_cons]

/-- One more type is filled in, and the types that count are those of the longer list. -/
theorem countedTypes_append_singleton {types : List NamedType} {type : NamedType}
    (hcustom : type.isCustom = true) :
    countedTypes (types ++ [type]) = putBy NamedType.name type (countedTypes types) := by
  refine eq_of_map_name_eq (nodup_name_countedTypes (types ++ [type])) (fun _ hnode ↦ hnode)
    (fun node hnode ↦ ?_) ?_
  · rw [mem_countedTypes_iff]
    rcases mem_putBy_name (nodup_name_countedTypes types) hnode with rfl | ⟨hold, hname⟩
    · exact ⟨types, [], rfl, hcustom, List.forall_mem_nil _⟩
    · obtain ⟨front, back, rfl, hnode, hback⟩ := (mem_countedTypes_iff types node).mp hold
      refine ⟨front, back ++ [type], by simp, hnode, ?_⟩
      rw [List.forall_mem_append, List.forall_mem_singleton]
      exact ⟨hback, fun _ ↦ hname⟩
  · rw [map_putBy_name, map_name_countedTypes, map_name_countedTypes,
      customNames_append_singleton types hcustom]

theorem countedTypes_append_of_not_isCustom (types : List NamedType) {type : NamedType}
    (hcustom : ¬ type.isCustom = true) : countedTypes (types ++ [type]) = countedTypes types := by
  simp only [countedTypes, List.filter_append, List.filter_cons_of_neg hcustom, List.filter_nil,
    List.append_nil]

/-- The types that count are the nodes that are filled in one type after another, each with two
blank entries. -/
theorem foldl_enterNode (types : List NamedType) :
    types.foldl enterNode ([], [], []) = (countedTypes types, blank (countedTypes types)) := by
  induction types using List.reverseRecOn with
  | nil => rfl
  | append_singleton types type ih =>
    rw [List.foldl_append, ih, List.foldl_cons, List.foldl_nil, enterNode]
    split
    · next hcustom =>
      rw [countedTypes_append_singleton hcustom]
      have hblank : putBy Prod.fst (type.name, []) (blank (countedTypes types)).1 =
          (putBy NamedType.name type (countedTypes types)).map fun node ↦ (node.name, []) :=
        putBy_map (fun node ↦ (node.name, [])) (fun _ ↦ rfl) type (countedTypes types)
      exact Prod.ext rfl (Prod.ext hblank hblank)
    · next hcustom => rw [countedTypes_append_of_not_isCustom types hcustom]

end DependencyGraph

end SchemaBindings
