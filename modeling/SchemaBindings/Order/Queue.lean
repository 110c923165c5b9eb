import SchemaBindings.Order.Graph
/-!
# Types in dependency order

The order comes from a queue. It starts with the types that depend on nothing; each step takes the
first name, emits its type and strikes the name from what its dependents still wait for, and a
dependent that waits for nothing any more joins the end of the queue. Types that are left waiting
when the queue is empty reach a cycle.

`Progress.step` looks every name up and gives up when a key is missing, so that the statement that
it never gives up before the queue is empty is a statement about the lookups.
-/

set_option autoImplicit false
set_option relaxedAutoImplicit false

namespace SchemaBindings

/-- The state between two steps: what each remaining type waits for, the names that are ready, and
the types emitted so far. -/
structure Progress where
  outstanding : List (String × List String)
  queue : List String
  emitted : List NamedType
  deriving Repr

namespace Progress

/-- Before the first step the types that depend on nothing are ready. -/
def start (graph : DependencyGraph) : Progress :=
  { outstanding := graph.dependencies
    queue := (graph.dependencies.filter fun entry => entry.2.isEmpty).map Prod.fst
    emitted := [] }

/-- Replaces what a name waits for. -/
def setOutstanding (name : String) (waiting : List String)
    (outstanding : List (String × List String)) : List (String × List String) :=
  outstanding.map fun entry => if entry.1 == name then (name, waiting) else entry

/-- Strikes an emitted name from what one dependent waits for; a dependent that then waits for
nothing joins the queue. There is no result when the dependent is not waiting at all. -/
def strike (name : String) (state : List (String × List String) × List String)
    (dependent : String) : Option (List (String × List String) × List String) := do
  let (outstanding, queue) := state
  let waiting ← outstanding.lookup dependent
  let remaining := waiting.filter fun other => other != name
  return (setOutstanding dependent remaining outstanding,
    if remaining.isEmpty then queue ++ [dependent] else queue)

/-- One step: there is none when the queue is empty or a name has no entry. -/
def step (graph : DependencyGraph) (state : Progress) : Option Progress :=
  match state.queue with
  | [] => none
  | name :: queue => do
    let type ← graph.type? name
    let dependents ← graph.dependents.lookup name
    let (outstanding, queue) ← dependents.foldlM (strike name) (state.outstanding, queue)
    let _ ← outstanding.lookup name
    return { outstanding := outstanding.filter fun entry => entry.1 != name
             queue := queue
             emitted := state.emitted ++ [type] }

/-- At most `steps` steps. -/
def run (graph : DependencyGraph) : (steps : Nat) → Progress → Progress
  | 0, state => state
  | steps + 1, state =>
    match step graph state with
    | none => state
    | some next => run graph steps next

/-- The state in which the queue has run empty: each step emits one type, so there are at most as
many steps as types. -/
def finish (graph : DependencyGraph) : Progress :=
  run graph graph.types.length (start graph)

end Progress

/-- The types of a graph in dependency order. -/
def DependencyGraph.sorted (graph : DependencyGraph) : Except OrderError (List NamedType) :=
  let final := Progress.finish graph
  if final.outstanding.isEmpty then .ok final.emitted
  else .error (.circular (sortNames (final.outstanding.map Prod.fst)))

/-- The custom types of a list, each after everything it depends on. -/
def sortTypes (types : List NamedType) : Except OrderError (List NamedType) := do
  let graph ← DependencyGraph.ofTypes types
  graph.sorted

end SchemaBindings
