import SchemaBindings.Command.Program
/-!
# The executable

The part of the disk that a command line names is loaded into a file tree, the command runs on that
tree, and what it changed is carried over to the disk. A file that changed is written under another
name first and then moved into its place.
-/

set_option autoImplicit false
set_option relaxedAutoImplicit false

namespace SchemaBindings

/-- The texts in a command line that may be paths: whole words, and what stands in a word behind an
equals sign or behind a short option. -/
def namedPaths (words : List String) : List String :=
  defaultOutput :: words.flatMap fun word =>
    let behindSign := (Text.splitAtFirst? '=' word.toList).map Prod.snd
    [word, String.ofList (behindSign.getD []), String.ofList (word.toList.drop 2)]

/-- The beginnings of a list of names, from one name to all of them. -/
def beginnings (names : List String) : List (List String) :=
  (List.range names.length).map fun count => names.take (count + 1)

/-- Loads what stands at a place on the disk. -/
def loadPlace (tree : FileTree) (place : Place) : IO FileTree := do
  let path := (← IO.currentDir) / FileTree.pathText place
  if ← path.isDir then
    return tree.put place .directory
  if ← path.pathExists then
    return tree.put place (.file (← IO.FS.readBinFile path).toList)
  return tree

/-- Loads what stands on the way to a path. -/
def loadPath (tree : FileTree) (path : String) : IO FileTree :=
  (beginnings (Text.splitString '/' path)).foldlM (fun tree names =>
    loadPlace tree (tree.resolve ("/".intercalate names))) tree

/-- Loads the names beside a path, so that none of them is taken for a vacant one. -/
def loadNamesBeside (tree : FileTree) (path : String) : IO FileTree := do
  let parent := (tree.resolve path).dropLast
  let directory := (← IO.currentDir) / FileTree.pathText parent
  if !(← directory.isDir) then return tree
  let names := (← directory.readDir).toList.map fun entry => entry.fileName
  return names.foldl (fun tree name =>
    let place := parent ++ [name]
    if (tree.entry? place).isSome then tree else tree.put place (.file [])) tree

/-- Loads the part of the disk that a command line names. -/
def loadTree (words : List String) : IO FileTree := do
  let here := (({} : FileTree).resolve (← IO.currentDir).toString)
  let start ← (beginnings here).foldlM loadPlace { workingDirectory := here }
  let paths := (namedPaths words).filter fun path => !path.isEmpty
  let templates := paths.flatMap fun path =>
    [path ++ "/" ++ Template.enumFile, path ++ "/" ++ Template.moduleFile]
  let tree ← (paths ++ templates).foldlM loadPath start
  paths.foldlM loadNamesBeside tree

/-- Carries an entry over to the disk. -/
def storeEntry (place : Place) (temporary : Place) : Entry → IO Unit
  | .directory => do
    IO.FS.createDirAll ((← IO.currentDir) / FileTree.pathText place)
  | .file bytes => do
    let here ← IO.currentDir
    let written := here / FileTree.pathText temporary
    IO.FS.writeBinFile written ⟨bytes.toArray⟩
    IO.FS.rename written (here / FileTree.pathText place)

/-- Carries what changed over to the disk. -/
def storeChanges (before after : FileTree) : IO Unit :=
  after.entries.forM fun (place, entry) => do
    if before.entry? place != some entry then
      storeEntry place (vacantPlace after place) entry

/-- Without a network every request fails. -/
def noNetwork : Fetch.Request → Fetch.Reply :=
  fun _ => .failed "no network is available"

/-- The text about a fault that a command does not expect. -/
def unexpectedText : Command.UnexpectedFault → String
  | .run error => error.message?.getD "a file cannot be read or written"
  | .fetch error => error.message.printed
  | .file _ => "a file cannot be written"

/-- Carries out a command line on the disk. -/
def runOnDisk (words : List String) : IO UInt32 := do
  let tree ← loadTree words
  let outcome := Command.run .none noNetwork tree words
  storeChanges tree outcome.tree
  IO.print outcome.printedText
  IO.eprint outcome.complaintText
  if let some fault := outcome.fault then IO.eprintln (unexpectedText fault)
  return outcome.status.toUInt32

end SchemaBindings

/-- Carries out the command line that the program is called with. -/
def main (words : List String) : IO UInt32 :=
  SchemaBindings.runOnDisk words
