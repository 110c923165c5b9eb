import SchemaBindings.Domain.Label
import SchemaBindings.Text.Case
import SchemaBindings.Text.Punycode
/-!
# Domain names

A domain name is a sequence of labels. A label with other characters than ASCII is written in ASCII
behind a mark. `writtenName` writes a name in ASCII, and `readName` reads one that is written so.
-/

set_option autoImplicit false
set_option relaxedAutoImplicit false

namespace SchemaBindings.Domain

open SchemaBindings.Text

/-- What is wrong with a domain name. -/
inductive NameFault where
  | empty
  | label (fault : LabelFault)
  | nothingEncoded
  | endsWithHyphen
  | notEncoded
  | longLabel
  | tooLong
  deriving DecidableEq, Repr

/-- The text of a fault. -/
def NameFault.message : NameFault → String
  | empty => "Empty domain"
  | label fault => fault.message
  | nothingEncoded => "Malformed A-label, no Punycode eligible content found"
  | endsWithHyphen => "A-label must not end with a hyphen"
  | notEncoded => "Invalid A-label"
  | longLabel => "Label too long"
  | tooLong => "Domain too long"

/-- The mark before a label that is written in ASCII. -/
def encodedMark : List Char :=
  ['x', 'n', '-', '-']

/-- The longest label in its written form. -/
def maxLabel : Nat := 63

/-- The longest name in its written form, without a full stop at its end. -/
def maxName : Nat := 253

/-- Whether a text is in ASCII. -/
def isAscii (text : List Char) : Bool :=
  text.all fun c => c.toNat < 0x80

/-- Any full stop as the ASCII one. -/
def plainStop (c : Char) : Char :=
  if c = '\u3002' || c = '\uff0e' || c = '\uff61' then '.' else c

/-- The labels of a name, and whether a full stop stands behind the last one. -/
def labelsOf (name : List Char) : List (List Char) × Bool :=
  let labels := splitAtEach '.' (name.map plainStop)
  if labels.getLast? == some [] then (labels.dropLast, true) else (labels, false)

/-- A label, if it is right. -/
def checked (label : List Char) : Except NameFault (List Char) :=
  match labelFault? label with
  | some fault => .error (.label fault)
  | none => .ok label

/-- The label that a label in ASCII stands for. -/
def readLabel (written : List Char) : Except NameFault (List Char) :=
  let plain := lower written
  if encodedMark.isPrefixOf plain then
    let encoded := plain.drop encodedMark.length
    if encoded.isEmpty then .error .nothingEncoded
    else if encoded.getLast? == some '-' then .error .endsWithHyphen
    else
      match Punycode.decode? encoded with
      | none => .error .notEncoded
      | some label => checked label
  else checked plain

/-- A label in ASCII. -/
def writtenLabel (label : List Char) : Except NameFault (List Char) := do
  let written ←
    if isAscii label then do
      let _ ← readLabel label
      pure label
    else do
      let right ← checked label
      pure (encodedMark ++ Punycode.encode right)
  if written.length ≤ maxLabel then return written else throw .longLabel

/-- A name in ASCII. -/
def writtenName (name : List Char) : Except NameFault (List Char) := do
  if name.isEmpty then throw .empty
  let (labels, stopped) := labelsOf name
  let written ← labels.mapM writtenLabel
  let text := joinParts '.' (if stopped then written ++ [[]] else written)
  if text.length ≤ maxName + stopped.toNat then return text else throw .tooLong

/-- The name that a name in ASCII stands for. -/
def readName (written : List Char) : Except NameFault (List Char) := do
  if written.isEmpty then throw .empty
  let (labels, stopped) := labelsOf written
  let read ← labels.mapM readLabel
  return joinParts '.' (if stopped then read ++ [[]] else read)

end SchemaBindings.Domain
