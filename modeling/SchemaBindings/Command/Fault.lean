import SchemaBindings.Text.Quoted
/-!
# Faults of a command line

What is wrong with the words of a command line, and how the user is told: by the fault, in most
cases below the usage of the command and a hint where to find help.
-/

set_option autoImplicit false
set_option relaxedAutoImplicit false

namespace SchemaBindings.Command

open SchemaBindings.Text

/-- What is wrong with the value of an option or argument. -/
inductive ValueFault where
  | noSuchFile (path : String)
  | noSuchDirectory (path : String)
  | isDirectory (path : String)
  | isFile (path : String)
  | notNumber (text : String)
  | notHeader (text : String)
  deriving DecidableEq, Repr

/-- The text of a fault. -/
def ValueFault.message : ValueFault → String
  | noSuchFile path => "File " ++ quotedString path ++ " does not exist."
  | noSuchDirectory path => "Directory " ++ quotedString path ++ " does not exist."
  | isDirectory path => "File " ++ quotedString path ++ " is a directory."
  | isFile path => "Directory " ++ quotedString path ++ " is a file."
  | notNumber text => quotedString text ++ " is not a valid float."
  | notHeader text => "Expected 'Name: value', got " ++ quotedString text

/-- What is wrong with a command line. An option is named as it was given, except where several
spellings of it are listed. -/
inductive UsageFault where
  | noSuchCommand (name : String) (similar : List String)
  | noSuchOption (name : String) (similar : List String)
  | valueNeeded (option : String)
  | valueNotTaken (option : String)
  | missingOption (spellings : List String)
  | missingArgument (name : String)
  | extraArguments (arguments : List String)
  | value (place : Option (List String)) (fault : ValueFault)
  deriving DecidableEq, Repr

/-- Spellings between quotes, with a slash between two of them. -/
def spellingsText (spellings : List String) : String :=
  " / ".intercalate (spellings.map fun spelling => "'" ++ spelling ++ "'")

/-- A question about similar words, behind a space. -/
def similarText : List String → String
  | [] => ""
  | [word] => " Did you mean " ++ quotedString word ++ "?"
  | words =>
    " (Did you mean one of: " ++ ", ".intercalate (words.mergeSort.map quotedString) ++ "?)"

/-- The text of a fault. -/
def UsageFault.message : UsageFault → String
  | noSuchCommand name similar =>
    "No such command " ++ quotedString name ++ "." ++ similarText similar
  | noSuchOption name similar =>
    "No such option " ++ quotedString name ++ "." ++ similarText similar
  | valueNeeded option => "Option " ++ quotedString option ++ " requires an argument."
  | valueNotTaken option => "Option " ++ quotedString option ++ " does not take a value."
  | missingOption spellings => "Missing option " ++ spellingsText spellings ++ "."
  | missingArgument name => "Missing argument '" ++ name ++ "'."
  | extraArguments [argument] => "Got unexpected extra argument (" ++ argument ++ ")"
  | extraArguments arguments =>
    "Got unexpected extra arguments (" ++ " ".intercalate arguments ++ ")"
  | value none fault => "Invalid value: " ++ fault.message
  | value (some spellings) fault =>
    "Invalid value for " ++ spellingsText spellings ++ ": " ++ fault.message

/-- Whether the usage of the command is shown with a fault. It is not when an option lacks its value
or has one that it does not take. -/
def UsageFault.showsUsage : UsageFault → Bool
  | valueNeeded _ | valueNotTaken _ => false
  | noSuchCommand _ _ | noSuchOption _ _ | missingOption _ | missingArgument _
  | extraArguments _ | value _ _ => true

end SchemaBindings.Command
