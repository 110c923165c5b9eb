import SchemaBindings.Event
import SchemaBindings.Files.Replacement
import SchemaBindings.Generation
import SchemaBindings.Hook
import SchemaBindings.Input
import SchemaBindings.Template.Directory
/-!
# Runs

A run reads a schema from a file, generates its module and puts the module into a file. Its steps
are numbered: it reads (0), decodes (1), runs the filters (2), sorts (3), renders (4) and puts the
headers (5), and the steps of writing begin at 6. Something outside may strike any of them, and a
template with tags that are not understood is left to an engine. `generateFile` keeps every state of
the file tree, the events that the run reports, and its result. Nothing is written unless the module
is complete.
-/

set_option autoImplicit false
set_option relaxedAutoImplicit false

namespace SchemaBindings

open SchemaBindings.Template

/-- Where a module goes unless a run says otherwise. -/
def defaultOutput : String := "generated_types.py"

/-- What a run does. -/
structure RunOptions where
  schema : Option String
  output : String := defaultOutput
  templateDirectory : Option String := none
  hooks : Hooks := {}
  deriving DecidableEq, Repr

/-- Why a run fails. -/
inductive RunError where
  | noSchema
  | file (fault : FileFault)
  | input (error : InputError)
  | template (fault : TemplateFault)
  | generation (error : GenerationError)
  deriving DecidableEq, Repr

namespace RunError

/-- The text of an error; a fault of a file has none. -/
def message? : RunError → Option String
  | noSchema => some "No schema path given"
  | file _ => none
  | input error => some error.message
  | template fault => some fault.message
  | generation error => some error.message

/-- Whether an error is one of which a user is told in one line. -/
def isReported : RunError → Bool
  | input error => error.isReported
  | generation error => error.isReported
  | noSchema | file _ | template _ => false

end RunError

/-- A computation that reports events and may fail. -/
abbrev Reporting (α : Type) : Type :=
  ExceptT RunError (StateM (List Event)) α

/-- Reports an event after the others. -/
def report (event : Event) : Reporting Unit :=
  modify fun events => events ++ [event]

/-- Goes on with a result or fails with its error. -/
def orFail {ε α : Type} (fail : ε → RunError) : Except ε α → Reporting α
  | .ok value => pure value
  | .error error => throw (fail error)

/-- Goes on unless something strikes the step with the given number. -/
def unlessStruck (strikes : Strikes) (number : Nat) : Reporting Unit :=
  match strikes number with
  | some strike => throw (.file strike.fault)
  | none => pure ()

/-! ### The schema -/

/-- The last name in a path. -/
def lastName (path : String) : String :=
  (Text.splitString '/' path).getLast?.getD ""

/-- The schema in the file that a path leads to. -/
def readSchema (strikes : Strikes) (tree : FileTree) (path : Option String) :
    Reporting Schema := do
  match path with
  | none => throw .noSchema
  | some path =>
    unlessStruck strikes 0
    let bytes ← orFail .file (tree.readFile path)
    let text ← orFail .input (textOfFile path bytes)
    unlessStruck strikes 1
    if isSdlPath path then report (.converting (lastName path))
    let schema ← orFail .input (schemaOfText path text)
    report (.decoded schema.types.length schema.customTypes.length)
    return schema

/-! ### The module -/

/-- Whether a type is declared by the template for enums. -/
def isEnum (type : NamedType) : Bool :=
  type.kind == .enum

/-- The checked module of some types. -/
def moduleOfTypes (engine : Engine) (strikes : Strikes) (tree : FileTree) (options : RunOptions)
    (types : List NamedType) : Reporting (List Char) := do
  unlessStruck strikes 3
  let graph ← orFail (.generation ∘ .unordered) (DependencyGraph.ofTypes types)
  report (.sorting graph.types.length graph.edgeCount)
  let sorted ← orFail (.generation ∘ .unordered) graph.sorted
  unlessStruck strikes 4
  let enum ← orFail .template (chooseIf (sorted.any isEnum) engine tree options.templateDirectory
    enumFile enumDeclaration)
  let body ← orFail (.generation ∘ .notRendered) (Templates.declarations { enum } sorted)
  let module ← orFail .template (chooseIf (!Text.isAllBlank body) engine tree
    options.templateDirectory moduleFile moduleText)
  orFail .generation (Templates.render { enum, module } options.output body)

/-- The text that a run writes. -/
def contentOfRun (engine : Engine) (strikes : Strikes) (tree : FileTree) (options : RunOptions) :
    Reporting String := do
  let schema ← readSchema strikes tree options.schema
  unlessStruck strikes 2
  let kept := options.hooks.filterSchema schema
  report (.generating kept.customTypes.length (options.schema.getD ""))
  let text ← moduleOfTypes engine strikes tree options kept.types
  unlessStruck strikes 5
  return options.hooks.addHeaders (String.ofList text)

/-! ### The run -/

/-- What happened in a run: the states of the file tree from the first to the last, the events, and
the text that was written or the reason why none was. -/
structure Run where
  states : List FileTree
  events : List Event
  result : Except RunError String

namespace Run

/-- The tree after a run, which began with the given one. -/
def final (start : FileTree) (run : Run) : FileTree :=
  run.states.getLast?.getD start

end Run

/-- Generates the module of a schema file and writes it. -/
def generateFile (engine : Engine) (strikes : Strikes) (tree : FileTree) (options : RunOptions) :
    Run :=
  let (content, events) := (contentOfRun engine strikes tree options).run.run []
  match content with
  | .error error => ⟨[tree], events, .error error⟩
  | .ok text =>
    let writing := replaceFile strikes 6 tree options.output (Text.utf8 text.toList)
    match writing.fault with
    | some fault => ⟨writing.states, events, .error (.file fault)⟩
    | none => ⟨writing.states, events ++ [.wrote text.length options.output], .ok text⟩

/-- The schema in the file that a path leads to. -/
def schemaAt (tree : FileTree) (path : Option String) : Except RunError Schema :=
  ((readSchema Strikes.none tree path).run.run []).1

end SchemaBindings
