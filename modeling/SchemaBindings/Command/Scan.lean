import SchemaBindings.Command.Fault
import SchemaBindings.Text.Similarity
import SchemaBindings.Text.Split
/-!
# Scanning a command line

The words of a command line are options and arguments. An option has long spellings, which begin
with two hyphens, and short ones of one letter; its value follows behind an equals sign, directly
behind the letter, or as the next word. Several short options may share a hyphen. Behind a word of
two hyphens there are only arguments.
-/

set_option autoImplicit false
set_option relaxedAutoImplicit false

namespace SchemaBindings.Command

open SchemaBindings.Text

/-- An option: its spellings, of which the first names it, and whether it takes a value. -/
structure OptionSpec where
  spellings : List String
  takesValue : Bool := true
  deriving DecidableEq, Repr

/-- The name of an option. -/
def OptionSpec.name (spec : OptionSpec) : String :=
  spec.spellings.headD ""

/-- The option with a spelling. -/
def withSpelling? (specs : List OptionSpec) (spelling : String) : Option OptionSpec :=
  specs.find? fun spec => spec.spellings.contains spelling

/-- Whether a spelling is a long one. -/
def isLong (spelling : String) : Bool :=
  spelling.toList.take 2 == ['-', '-']

/-- An option that was given, by its name, with its value; empty if it takes none. -/
abbrev Setting : Type := String × String

/-- What one word of a command line says: some settings, perhaps with one more whose value is the
next word. -/
structure WordSettings where
  settings : List Setting := []
  pending : Option (String × String) := none
  deriving DecidableEq, Repr

/-- Reads the letters of short options that share a hyphen. -/
def shortSettings (specs : List OptionSpec) : List Char → Except UsageFault WordSettings
  | [] => .ok {}
  | letter :: letters =>
    let spelling := String.ofList ['-', letter]
    match withSpelling? specs spelling with
    | none => .error (.noSuchOption spelling [])
    | some spec =>
      if spec.takesValue then
        if letters.isEmpty then .ok { pending := some (spec.name, spelling) }
        else .ok { settings := [(spec.name, String.ofList letters)] }
      else do
        let others ← shortSettings specs letters
        return { others with settings := (spec.name, "") :: others.settings }

/-- Reads a word that begins with two hyphens. -/
def longSettings (specs : List OptionSpec) (word : String) : Except UsageFault WordSettings :=
  let (spelling, value) := match splitAtFirst? '=' word.toList with
    | some (before, after) => (String.ofList before, some (String.ofList after))
    | none => (word, none)
  match withSpelling? specs spelling, value with
  | none, _ =>
    let longs := specs.flatMap fun spec => spec.spellings.filter isLong
    .error (.noSuchOption spelling (closeWords spelling longs))
  | some spec, some text =>
    if spec.takesValue then .ok { settings := [(spec.name, text)] }
    else .error (.valueNotTaken spelling)
  | some spec, none =>
    if spec.takesValue then .ok { pending := some (spec.name, spelling) }
    else .ok { settings := [(spec.name, "")] }

/-- Reads a word that begins with a hyphen. -/
def wordSettings (specs : List OptionSpec) (word : String) : Except UsageFault WordSettings :=
  if isLong word then longSettings specs word else shortSettings specs (word.toList.drop 1)

/-- The options and arguments of a command line, each in the order in which they were given. -/
structure Scanned where
  settings : List Setting := []
  arguments : List String := []
  deriving DecidableEq, Repr

namespace Scanned

/-- Adds settings in front. -/
def withSettings (scanned : Scanned) (settings : List Setting) : Scanned :=
  { scanned with settings := settings ++ scanned.settings }

/-- Adds an argument in front. -/
def withArgument (scanned : Scanned) (argument : String) : Scanned :=
  { scanned with arguments := argument :: scanned.arguments }

/-- The values that an option was given. -/
def values (scanned : Scanned) (name : String) : List String :=
  (scanned.settings.filter fun setting => setting.1 == name).map Prod.snd

/-- The value of an option: the last one that it was given. -/
def value? (scanned : Scanned) (name : String) : Option String :=
  (scanned.values name).getLast?

/-- Whether an option was given. -/
def has (scanned : Scanned) (name : String) : Bool :=
  scanned.settings.any fun setting => setting.1 == name

/-- The names of the options in the order in which they were given first. -/
def names (scanned : Scanned) : List String :=
  (scanned.settings.map Prod.fst).eraseDups

end Scanned

/-- Scans the words of a command line. With `mixed` set, options may follow arguments; otherwise
the first argument ends the options. -/
def scan (specs : List OptionSpec) (mixed : Bool) : List String → Except UsageFault Scanned
  | [] => .ok {}
  | word :: words =>
    if word = "--" then .ok { arguments := words }
    else if word.length > 1 && word.toList.head? == some '-' then
      match wordSettings specs word with
      | .error fault => .error fault
      | .ok ⟨settings, none⟩ => (scan specs mixed words).map fun rest => rest.withSettings settings
      | .ok ⟨settings, some (name, spelling)⟩ =>
        match words with
        | [] => .error (.valueNeeded spelling)
        | value :: words =>
          (scan specs mixed words).map fun rest =>
            rest.withSettings (settings ++ [(name, value)])
    else if mixed then (scan specs mixed words).map fun rest => rest.withArgument word
    else .ok { arguments := word :: words }

end SchemaBindings.Command
