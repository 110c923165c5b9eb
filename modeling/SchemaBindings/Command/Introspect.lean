import SchemaBindings.Command.Outcome
import SchemaBindings.Command.Scan
import SchemaBindings.Command.Value
import SchemaBindings.Json.Writer
/-!
# The command that fetches an introspection document

`introspect` asks a server for its introspection document and writes it into a file.
-/

set_option autoImplicit false
set_option relaxedAutoImplicit false

namespace SchemaBindings.Command.Introspect

open SchemaBindings.Command SchemaBindings.Fetch

/-- How the command is used. -/
def usage : Usage :=
  ⟨["introspect"], "[OPTIONS] URL"⟩

/-- The argument, as the usage shows it. -/
def argument : String := "URL"

/-- The option for the file that is written. -/
def output : OptionSpec := { spellings := ["--output", "-o"] }

/-- The option for a header of the request; it may be given several times. -/
def header : OptionSpec := { spellings := ["--header", "-H"] }

/-- The option for the seconds that the request may take. -/
def timeout : OptionSpec := { spellings := ["--timeout"] }

/-- The options of the command. -/
def specs : List OptionSpec :=
  [output, header, timeout, { spellings := [helpOption], takesValue := false }]

/-- What is wrong with an option or the argument of the given name. -/
def fault? (tree : FileTree) (scanned : Scanned) (name : String) : Option UsageFault :=
  if name = argument then
    if scanned.arguments.isEmpty then some (.missingArgument argument) else none
  else if name = output.name then
    match scanned.value? output.name with
    | none => some (.missingOption output.spellings)
    | some path => valueFault output.spellings (outputFault? tree path)
  else if name = timeout.name then
    match scanned.value? timeout.name with
    | some text =>
      if Text.isNumber text.toList then none
      else some (.value (some timeout.spellings) (.notNumber text))
    | none => none
  else none

/-- Writes a document at a place, in the directories on the way to it. -/
def writeDocument (tree : FileTree) (place : Place) (document : WideJson) :
    Except FileFault FileTree :=
  match tree.makeDirectories place.dropLast with
  | .error fault => .error fault
  | .ok tree => tree.writeFile place (Text.utf8 document.toIndentedText)

/-- Fetches the document at a URL and writes it. -/
def introspect (transport : Request → Reply) (tree : FileTree) (url path : String)
    (headers : Headers) : Outcome :=
  let place := tree.resolve path
  let lead := ["Fetching schema from " ++ url ++ "..."]
  let requests := (Request.make url headers).toOption.toList
  match fetch transport url headers with
  | .error error =>
    if error.isReported then
      { status := failureStatus
        printed := lead
        complaints := [errorLine error.message.printed]
        tree
        requests }
    else { status := failureStatus, printed := lead, tree, requests, fault := some (.fetch error) }
  | .ok document =>
    match writeDocument tree place document with
    | .error fault =>
      { status := failureStatus, printed := lead, tree, requests, fault := some (.file fault) }
    | .ok tree =>
      { printed := lead ++ ["Done! Wrote introspection result to " ++ FileTree.pathText place]
        tree
        requests }

/-- Carries out the command with the given words. -/
def run (transport : Request → Reply) (tree : FileTree) (words : List String) : Outcome :=
  match scan specs true words with
  | .error fault => usage.refuse tree fault
  | .ok scanned =>
    if scanned.has helpOption then usage.help tree
    else
      let names := specs.map OptionSpec.name
      match (firstFault? scanned.names argument names (fault? tree scanned)).or
          (extraFault? scanned.arguments) with
      | some fault => usage.refuse tree fault
      | none =>
        match (scanned.values header.name).mapM readHeader with
        | .error fault => usage.refuse tree (.value none fault)
        | .ok headers =>
          introspect transport tree (scanned.arguments.headD "")
            ((scanned.value? output.name).getD "") (Headers.putAll [] headers)

end SchemaBindings.Command.Introspect
