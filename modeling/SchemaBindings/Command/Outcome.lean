import SchemaBindings.Command.Fault
import SchemaBindings.Fetch.Response
import SchemaBindings.Run
/-!
# Outcomes of a command

What a command leaves behind: its exit status, the lines that it printed, the file tree and the
requests that it made. A fault that the command does not expect ends it without a word of its own.
-/

set_option autoImplicit false
set_option relaxedAutoImplicit false

namespace SchemaBindings.Command

/-- A fault that ends a command unexpectedly. -/
inductive UnexpectedFault where
  | run (error : RunError)
  | fetch (error : Fetch.FetchError)
  | file (fault : FileFault)

/-- What a command leaves behind. -/
structure Outcome where
  status : Nat := 0
  printed : List String := []
  complaints : List String := []
  tree : FileTree
  requests : List Fetch.Request := []
  fault : Option UnexpectedFault := none

namespace Outcome

/-- What was printed. -/
def printedText (outcome : Outcome) : String :=
  String.join (outcome.printed.map fun line => line ++ "\n")

/-- What was complained about. -/
def complaintText (outcome : Outcome) : String :=
  String.join (outcome.complaints.map fun line => line ++ "\n")

end Outcome

/-- The exit status of a command that fails. -/
def failureStatus : Nat := 1

/-- The exit status of a command line that is not understood. -/
def usageStatus : Nat := 2

/-- The line about an error. -/
def errorLine (message : String) : String :=
  "Error: " ++ message

/-- The name under which the program is called. -/
def programName : String := "main"

/-- A command with what its usage says about its words. -/
structure Usage where
  command : List String
  words : String
  deriving DecidableEq, Repr

namespace Usage

/-- The name of the program and the command. -/
def call (usage : Usage) : String :=
  " ".intercalate (programName :: usage.command)

/-- The line that shows how a command is used. -/
def line (usage : Usage) : String :=
  "Usage: " ++ usage.call ++ " " ++ usage.words

/-- The outcome of a command line that is not understood. -/
def refuse (usage : Usage) (tree : FileTree) (fault : UsageFault) : Outcome :=
  let usageLines := [usage.line, "Try '" ++ usage.call ++ " --help' for help.", ""]
  { status := usageStatus
    complaints := (if fault.showsUsage then usageLines else []) ++ [errorLine fault.message]
    tree }

/-- The outcome of asking for help. -/
def help (usage : Usage) (tree : FileTree) : Outcome :=
  { printed := [usage.line], tree }

end Usage

/-- The option that asks for help. -/
def helpOption : String := "--help"

/-- The first fault among some words in the order in which they count: the options as they were
given, then the argument, then the options that were not given. -/
def firstFault? (given : List String) (argument : String) (options : List String)
    (check : String → Option UsageFault) : Option UsageFault :=
  (given ++ argument :: options.filter fun name => !given.contains name).findSome? check

/-- The fault for a value, at an option or argument with given spellings. -/
def valueFault (spellings : List String) (fault : Option ValueFault) : Option UsageFault :=
  fault.map fun fault => .value (some spellings) fault

/-- The fault for arguments that are too many. -/
def extraFault? : List String → Option UsageFault
  | [] | [_] => none
  | _ :: extra => some (.extraArguments extra)

end SchemaBindings.Command
