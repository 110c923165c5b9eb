import SchemaBindings.Command.Outcome
import SchemaBindings.Command.Scan
import SchemaBindings.Command.Value
/-!
# The command that generates a module

`generate` reads a schema file and writes its module. It tells what it does, in more detail and with
the events of the run if it is asked to.
-/

set_option autoImplicit false
set_option relaxedAutoImplicit false

namespace SchemaBindings.Command.Generate

open SchemaBindings.Command

/-- How the command is used. -/
def usage : Usage :=
  ⟨["generate"], "[OPTIONS] [SCHEMA]"⟩

/-- The argument, as the usage shows it. -/
def argument : String := "[SCHEMA]"

/-- The option for the file that is written. -/
def output : OptionSpec := { spellings := ["--output", "-o"] }

/-- The option for a directory with templates. -/
def templateDirectory : OptionSpec := { spellings := ["--template-dir"] }

/-- The option for the beginning of the names that are left out. -/
def excludedStart : OptionSpec := { spellings := ["--exclude-prefix"] }

/-- The option for a text in front of the module. -/
def header : OptionSpec := { spellings := ["--header"] }

/-- The option for more detail. -/
def verbose : OptionSpec := { spellings := ["--verbose", "-v"], takesValue := false }

/-- The options of the command. -/
def specs : List OptionSpec :=
  [output, templateDirectory, excludedStart, header, verbose,
    { spellings := [helpOption], takesValue := false }]

/-- What the command is told. -/
structure Options where
  schema : Option String := none
  output : String := defaultOutput
  templateDirectory : Option String := none
  excludedStart : Option String := none
  header : Option String := none
  verbose : Bool := false
  deriving DecidableEq, Repr

/-- What scanned words tell the command. -/
def Options.ofScanned (scanned : Scanned) : Options :=
  { schema := scanned.arguments.head?
    output := (scanned.value? Generate.output.name).getD defaultOutput
    templateDirectory := scanned.value? Generate.templateDirectory.name
    excludedStart := scanned.value? Generate.excludedStart.name
    header := scanned.value? Generate.header.name
    verbose := scanned.has Generate.verbose.name }

/-- What is wrong with an option or the argument of the given name. -/
def fault? (tree : FileTree) (options : Options) (name : String) : Option UsageFault :=
  if name = argument then
    valueFault [argument] (options.schema.bind (inputFault? tree))
  else if name = output.name then
    valueFault output.spellings (outputFault? tree options.output)
  else if name = templateDirectory.name then
    valueFault templateDirectory.spellings
      (options.templateDirectory.bind (directoryFault? tree))
  else none

/-- The hooks that options ask for; an empty text asks for none. -/
def hooksOf (options : Options) : Hooks :=
  { filters := (options.excludedStart.filter fun text => !text.isEmpty).toList.map fun text =>
      { excludedStart := some text }
    headers := (options.header.filter fun text => !text.isEmpty).toList }

/-- What shows that a line declares an enum. -/
def enumMark : List Char := "(enum.IntEnum):".toList

/-- What the command tells about a module in detail. -/
def details (content : String) : List String :=
  ["  Lines: " ++ toString (Text.splitLines content.toList).length,
    "  Enums: " ++ toString (Text.countOf enumMark content.toList)]

/-- Generates the module of a schema file. -/
def generate (engine : Template.Engine) (tree : FileTree) (options : Options) (schema : String) :
    Outcome :=
  let place := FileTree.pathText (tree.resolve options.output)
  let detail (lines : List String) : List String := if options.verbose then lines else []
  let lead :=
    detail ["Schema: " ++ FileTree.pathText (tree.resolve schema), "Output: " ++ place] ++
      ["Generating types..."]
  let run := generateFile engine Strikes.none tree
    { schema := some schema
      output := place
      templateDirectory := options.templateDirectory
      hooks := hooksOf options }
  let events := detail (run.events.map Event.line)
  let tree := run.final tree
  match run.result with
  | .ok content =>
    { printed := lead ++ detail (details content) ++ ["Done! Generated code in " ++ place]
      complaints := events
      tree }
  | .error error =>
    if error.isReported then
      { status := failureStatus
        printed := lead
        complaints := events ++ [errorLine (error.message?.getD "")]
        tree }
    else
      { status := failureStatus
        printed := lead
        complaints := events
        tree
        fault := some (.run error) }

/-- What the program says when it is given nothing to do. -/
def nothingToDo : String := "Please provide an input schema"

/-- Carries out the command with the given words. -/
def run (engine : Template.Engine) (tree : FileTree) (words : List String) : Outcome :=
  match scan specs true words with
  | .error fault => usage.refuse tree fault
  | .ok scanned =>
    if scanned.has helpOption then usage.help tree
    else
      let options := Options.ofScanned scanned
      let names := specs.map OptionSpec.name
      match (firstFault? scanned.names argument names (fault? tree options)).or
          (extraFault? scanned.arguments) with
      | some fault => usage.refuse tree fault
      | none =>
        match options.schema with
        | none => { printed := [nothingToDo], tree }
        | some schema => generate engine tree options schema

end SchemaBindings.Command.Generate
