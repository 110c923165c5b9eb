import SchemaBindings.Text.Blank
/-!
# Comments

A description becomes a comment on one line: every run of white space is one space, asterisks are
dropped, and a text of more than 120 characters is cut to 117 and an ellipsis.
-/

set_option autoImplicit false
set_option relaxedAutoImplicit false

namespace SchemaBindings.Comment

open SchemaBindings.Text

/-- Each run of white space replaced by one space; `afterBlank` says that such a run has begun. -/
def collapse : (afterBlank : Bool) → List Char → List Char
  | _, [] => []
  | afterBlank, c :: rest =>
    if isBlank c then (if afterBlank then collapse true rest else ' ' :: collapse true rest)
    else c :: collapse false rest

/-- The greatest length that is not cut. -/
def maxLength : Nat := 120

/-- What is left of a longer text, before the ellipsis. -/
def cutLength : Nat := 117

/-- A text cut to the length of a comment. -/
def shorten (text : List Char) : List Char :=
  if maxLength < text.length then text.take cutLength ++ ['.', '.', '.'] else text

/-- A line feed counts as a space, carriage returns and asterisks are dropped. -/
def clean (text : List Char) : List Char :=
  (text.map fun c => if c = '\n' then ' ' else c).filter fun c => c != '\r' && c != '*'

/-- The comment made of a description. -/
def ofDescription (text : List Char) : List Char :=
  trim (shorten (collapse false (clean text)))

end SchemaBindings.Comment
