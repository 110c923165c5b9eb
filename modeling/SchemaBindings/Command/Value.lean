import SchemaBindings.Command.Fault
import SchemaBindings.Files.Tree
import SchemaBindings.Text.Blank
import SchemaBindings.Text.Split
/-!
# Values of options

The kinds of values that options and arguments take beside numbers: paths of files and directories,
and headers of a request.
-/

set_option autoImplicit false
set_option relaxedAutoImplicit false

namespace SchemaBindings.Command

open SchemaBindings.Text

/-! ### Paths -/

/-- What is wrong with the path of a file that is read. -/
def inputFault? (tree : FileTree) (path : String) : Option ValueFault :=
  match tree.find path with
  | .error _ => some (.noSuchFile path)
  | .ok .directory => some (.isDirectory path)
  | .ok (.file _) => none

/-- What is wrong with the path of a file that is written; it need not be there. -/
def outputFault? (tree : FileTree) (path : String) : Option ValueFault :=
  if tree.leadsToDirectory path then some (.isDirectory path) else none

/-- What is wrong with the path of a directory that is read. -/
def directoryFault? (tree : FileTree) (path : String) : Option ValueFault :=
  match tree.find path with
  | .error _ => some (.noSuchDirectory path)
  | .ok (.file _) => some (.isFile path)
  | .ok .directory => none

/-! ### Headers -/

/-- The header in a text: a name and a value around the first colon, without the white space around
them. The name may not be blank. -/
def readHeader (text : String) : Except ValueFault (String × String) :=
  match splitAtFirst? ':' text.toList with
  | none => .error (.notHeader text)
  | some (name, value) =>
    if isAllBlank name then .error (.notHeader text)
    else .ok (String.ofList (trim name), String.ofList (trim value))

end SchemaBindings.Command
