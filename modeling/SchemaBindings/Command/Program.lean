import SchemaBindings.Command.Generate
import SchemaBindings.Command.Introspect
/-!
# The program

The first argument of a command line names the command that gets the words behind it.
-/

set_option autoImplicit false
set_option relaxedAutoImplicit false

namespace SchemaBindings.Command

open SchemaBindings.Text

/-- How the program is used. -/
def programUsage : Usage :=
  ⟨[], "[OPTIONS] [COMMAND] [ARGS]..."⟩

/-- The option that asks for the version. -/
def versionOption : String := "--version"

/-- The version of the program. -/
def programVersion : String := "0.1.0"

/-- The options of the program. -/
def programSpecs : List OptionSpec :=
  [{ spellings := [versionOption], takesValue := false },
    { spellings := [helpOption], takesValue := false }]

/-- Carries out a command line. -/
def run (engine : Template.Engine) (transport : Fetch.Request → Fetch.Reply) (tree : FileTree)
    (words : List String) : Outcome :=
  match scan programSpecs false words with
  | .error fault => programUsage.refuse tree fault
  | .ok scanned =>
    match scanned.names with
    | name :: _ =>
      if name = versionOption then
        { printed := [programName ++ ", version " ++ programVersion], tree }
      else programUsage.help tree
    | [] =>
      match scanned.arguments with
      | [] => { printed := [Generate.nothingToDo], tree }
      | "generate" :: words => Generate.run engine tree words
      | "introspect" :: words => Introspect.run transport tree words
      | name :: _ =>
        programUsage.refuse tree
          (.noSuchCommand name (closeWords name ["generate", "introspect"]))

end SchemaBindings.Command
