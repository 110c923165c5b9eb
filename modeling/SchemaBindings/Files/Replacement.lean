import SchemaBindings.Files.Tree
/-!
# Replacing a file in one step

A file is written under another name in the same directory and then takes the place of the old one,
so that its path never leads to half of the new content. Any step may fail, by itself or because
something outside strikes it; then the file with the other name is removed. `replaceFile` keeps
every state that the tree goes through.
-/

set_option autoImplicit false
set_option relaxedAutoImplicit false

namespace SchemaBindings

/-- A step of writing a file. -/
inductive WriteStep where
  | makeDirectories (place : Place)
  | create (place : Place)
  | fill (place : Place) (bytes : List UInt8)
  | replace (source : Place) (path : String)
  deriving DecidableEq, Repr

/-- What strikes a step from outside: the fault, and how many bytes a step that writes has written
by then, or how far a step that makes directories has come on its way. -/
structure Strike where
  fault : FileFault
  written : Nat := 0
  deriving DecidableEq, Repr

/-- The strikes on a run by the numbers of its steps. -/
abbrev Strikes : Type := Nat → Option Strike

/-- A run that nothing strikes. -/
def Strikes.none : Strikes :=
  fun _ => .none

/-- Where a file that takes the place of a path goes. A path that ends with a slash or a dot asks
for a directory. -/
def replacedPlace (tree : FileTree) (path : String) : Except FileFault Place :=
  match tree.locate path with
  | .error .notFound =>
    let way := (Text.splitString '/' path).reverse.dropWhile String.isEmpty
    if path.toList.getLast? == some '/' && !way.isEmpty then
      match tree.follow (tree.start path) way.reverse with
      | .ok _ => .error .notDirectory
      | .error fault => .error fault
    else .error .notFound
  | .error fault => .error fault
  | .ok place =>
    match (Text.splitString '/' path).getLast? with
    | some "" => .error .notDirectory
    | some "." | some ".." => .error .busy
    | _ =>
      match tree.entry? place, tree.entry? place.dropLast with
      | some .directory, _ => .error .isDirectory
      | _, some .directory => .ok place
      | _, some (.file _) => .error .notDirectory
      | _, none => .error .notFound

namespace WriteStep

/-- Carries out a step. -/
def apply (tree : FileTree) : WriteStep → Except FileFault FileTree
  | makeDirectories place => tree.makeDirectories place
  | create place => tree.writeFile place []
  | fill place bytes => tree.writeFile place bytes
  | replace source path =>
    match replacedPlace tree path, tree.contentAt? source with
    | .error fault, _ => .error fault
    | .ok _, .none => .error .notFound
    | .ok place, some bytes => .ok ((tree.remove source).put place (.file bytes))

/-- What a step leaves behind when it is struck. -/
def struck (tree : FileTree) (written : Nat) : WriteStep → FileTree
  | makeDirectories place =>
    match tree.makeDirectories (place.take written) with
    | .ok next => next
    | .error _ => tree
  | fill place bytes => tree.put place (.file (bytes.take written))
  | create _ | replace _ _ => tree

end WriteStep

/-- The states of a tree, from the first to the last, and the fault that ended the run, if any. -/
structure Writing where
  states : List FileTree
  fault : Option FileFault
  deriving DecidableEq, Repr

/-- Carries out steps until one fails. The first of them has the given number. -/
def carryOut (strikes : Strikes) (number : Nat) (tree : FileTree) : List WriteStep → Writing
  | [] => ⟨[tree], none⟩
  | step :: steps =>
    match strikes number with
    | some strike => ⟨[tree, step.struck tree strike.written], some strike.fault⟩
    | none =>
      match step.apply tree with
      | .error fault => ⟨[tree], some fault⟩
      | .ok next =>
        let run := carryOut strikes (number + 1) next steps
        ⟨tree :: run.states, run.fault⟩

/-- The name for the new content: one that its directory does not hold. -/
def temporaryName (number : Nat) : String :=
  "tmp" ++ toString number ++ ".tmp"

/-- The first place for the new content beside a target that holds nothing and is not the target. -/
def vacantPlace (tree : FileTree) (target : Place) : Place :=
  let place (number : Nat) : Place := target.dropLast ++ [temporaryName number]
  let numbers := List.range (tree.entries.length + 2)
  let vacant := numbers.find? fun number =>
    (tree.entry? (place number)).isNone && place number != target
  place (vacant.getD 0)

/-- The steps that write a file under another name and put it into the place of a path. -/
def replacementSteps (directory temporary : Place) (path : String) (bytes : List UInt8) :
    List WriteStep :=
  [.makeDirectories directory, .create temporary, .fill temporary bytes, .replace temporary path]

/-- Writes a file whose content is never half there; its first step has the given number. -/
def replaceFile (strikes : Strikes) (number : Nat) (tree : FileTree) (path : String)
    (bytes : List UInt8) : Writing :=
  let target := tree.resolve path
  let temporary := vacantPlace tree target
  let run := carryOut strikes number tree (replacementSteps target.dropLast temporary path bytes)
  match run.fault, run.states.getLast? with
  | some fault, some last =>
    if (last.entry? temporary).isSome then
      ⟨run.states ++ [last.remove temporary], some fault⟩
    else run
  | _, _ => run

end SchemaBindings
