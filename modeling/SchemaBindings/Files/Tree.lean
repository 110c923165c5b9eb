import SchemaBindings.Text.Split
import SchemaBindings.Text.Utf8
/-!
# File trees

A tree of directories and files as a list of places with what stands there. A place is the list of
names on the way from the root, which is always a directory. Paths are texts: `FileTree.locate`
follows one through the tree from the working directory, and `FileTree.resolve` finds its place
without looking at the tree.
-/

set_option autoImplicit false
set_option relaxedAutoImplicit false

namespace SchemaBindings

/-- The names on the way from the root. -/
abbrev Place : Type := List String

/-- What stands at a place. -/
inductive Entry where
  | directory
  | file (bytes : List UInt8)
  deriving DecidableEq, Repr

/-- Why a step on a file tree fails. -/
inductive FileFault where
  | notFound
  | alreadyExists
  | isDirectory
  | notDirectory
  | busy
  deriving DecidableEq, Repr

/-- A file tree with a working directory. -/
structure FileTree where
  entries : List (Place × Entry) := []
  workingDirectory : Place := []
  deriving DecidableEq, Repr

namespace FileTree

/-! ### Entries -/

/-- What stands at a place. -/
def entry? (tree : FileTree) (place : Place) : Option Entry :=
  if place = [] then some .directory else tree.entries.lookup place

/-- Entries in which a place holds an entry: where it stood, or at the end if it is new. -/
def putEntry (place : Place) (entry : Entry) : List (Place × Entry) → List (Place × Entry)
  | [] => [(place, entry)]
  | (other, old) :: rest =>
    if other = place then (place, entry) :: rest else (other, old) :: putEntry place entry rest

/-- The tree in which a place holds an entry. -/
def put (tree : FileTree) (place : Place) (entry : Entry) : FileTree :=
  { tree with entries := putEntry place entry tree.entries }

/-- The tree without the entry of a place. -/
def remove (tree : FileTree) (place : Place) : FileTree :=
  { tree with entries := tree.entries.filter fun stored => stored.1 != place }

/-- Whether a place holds a directory. -/
def isDirectory (tree : FileTree) (place : Place) : Bool :=
  tree.entry? place == some .directory

/-- The content of the file at a place. -/
def contentAt? (tree : FileTree) (place : Place) : Option (List UInt8) :=
  match tree.entry? place with
  | some (.file bytes) => some bytes
  | _ => none

/-! ### Paths -/

/-- The place where a path starts. -/
def start (tree : FileTree) (path : String) : Place :=
  if path.toList.head? == some '/' then [] else tree.workingDirectory

/-- Follows names from a place, each through a directory. Nothing and a dot stay, two dots go up. -/
def follow (tree : FileTree) (place : Place) : List String → Except FileFault Place
  | [] => .ok place
  | name :: names =>
    match tree.entry? place with
    | none => .error .notFound
    | some (.file _) => .error .notDirectory
    | some .directory =>
      if name = "" || name = "." then tree.follow place names
      else if name = ".." then tree.follow place.dropLast names
      else tree.follow (place ++ [name]) names

/-- The place that a path leads to, which may be vacant. -/
def locate (tree : FileTree) (path : String) : Except FileFault Place :=
  if path.isEmpty then .error .notFound
  else tree.follow (tree.start path) (Text.splitString '/' path)

/-- What a path leads to. -/
def find (tree : FileTree) (path : String) : Except FileFault Entry :=
  match tree.locate path with
  | .error fault => .error fault
  | .ok place =>
    match tree.entry? place with
    | some entry => .ok entry
    | none => .error .notFound

/-- Whether a path leads to a directory. -/
def leadsToDirectory (tree : FileTree) (path : String) : Bool :=
  match tree.find path with
  | .ok .directory => true
  | .ok (.file _) | .error _ => false

/-- Takes one name of a path into account without looking at a tree. -/
def stepName (place : Place) (name : String) : Place :=
  if name = "" || name = "." then place
  else if name = ".." then place.dropLast
  else place ++ [name]

/-- The place that a path names. -/
def resolve (tree : FileTree) (path : String) : Place :=
  (Text.splitString '/' path).foldl stepName (tree.start path)

/-- The path of a place from the root. -/
def pathText (place : Place) : String :=
  "/" ++ "/".intercalate place

/-! ### Reading and writing -/

/-- The content of the file that a path leads to. -/
def readFile (tree : FileTree) (path : String) : Except FileFault (List UInt8) :=
  match tree.find path with
  | .error fault => .error fault
  | .ok .directory => .error .isDirectory
  | .ok (.file bytes) => .ok bytes

/-- Makes the directories on the way along some names from a place that is a directory. -/
def makeFrom (tree : FileTree) (place : Place) : List String → Except FileFault FileTree
  | [] => .ok tree
  | name :: names =>
    let next := place ++ [name]
    match tree.entry? next with
    | some .directory => tree.makeFrom next names
    | some (.file _) => .error (if names.isEmpty then .alreadyExists else .notDirectory)
    | none => (tree.put next .directory).makeFrom next names

/-- Makes a place a directory, and the places on the way to it. -/
def makeDirectories (tree : FileTree) (place : Place) : Except FileFault FileTree :=
  tree.makeFrom [] place

/-- Writes a file at a place in a directory. -/
def writeFile (tree : FileTree) (place : Place) (bytes : List UInt8) : Except FileFault FileTree :=
  match tree.entry? place, tree.entry? place.dropLast with
  | some .directory, _ => .error .isDirectory
  | _, some .directory => .ok (tree.put place (.file bytes))
  | _, some (.file _) => .error .notDirectory
  | _, none => .error .notFound

end FileTree

end SchemaBindings
