import SchemaBindings.Text.Case
import SchemaBindings.Text.Quoted
/-!
# Headers

The headers of a request or a response, in order. Names that differ in case stay beside each other,
and their values are read together. Only ASCII characters may stand in a header.
-/

set_option autoImplicit false
set_option relaxedAutoImplicit false

namespace SchemaBindings.Fetch

open SchemaBindings.Text

/-- Headers in order. -/
abbrev Headers : Type := List (String × String)

/-- A run of characters that a header may not hold. -/
structure NotAscii where
  first : Char
  position : Nat
  count : Nat
  deriving DecidableEq, Repr

/-- The first run of characters outside ASCII. -/
def notAscii? (text : String) : Option NotAscii :=
  let isAscii (c : Char) : Bool := c.toNat < 0x80
  let chars := text.toList
  match chars.dropWhile isAscii with
  | [] => none
  | first :: rest =>
    some ⟨first, (chars.takeWhile isAscii).length, (rest.takeWhile fun c => !isAscii c).length + 1⟩

/-- A character by its number: two, four or eight hexadecimal digits. -/
def numberedChar (c : Char) : List Char :=
  if c.toNat < 0x100 then '\\' :: 'x' :: hexDigits 2 c.toNat
  else if c.toNat < 0x10000 then '\\' :: 'u' :: hexDigits 4 c.toNat
  else '\\' :: 'U' :: hexDigits 8 c.toNat

/-- The text about characters that a header may not hold. -/
def NotAscii.message (fault : NotAscii) : String :=
  let place :=
    if fault.count = 1 then
      "character '" ++ String.ofList (numberedChar fault.first) ++ "' in position " ++
        toString fault.position
    else
      "characters in position " ++ toString fault.position ++ "-" ++
        toString (fault.position + fault.count - 1)
  "'ascii' codec can't encode " ++ place ++ ": ordinal not in range(128)"

namespace Headers

/-- The headers in which a name has a value: in its old place, or at the end if it is new. -/
def put (headers : Headers) (name value : String) : Headers :=
  match headers with
  | [] => [(name, value)]
  | (other, old) :: rest =>
    if other = name then (name, value) :: rest else (other, old) :: put rest name value

/-- The headers after some others have been put in, one after the other. -/
def putAll (headers others : Headers) : Headers :=
  others.foldl (fun kept header => kept.put header.1 header.2) headers

/-- A name for comparison with others in any case. -/
def plainName (name : String) : List Char :=
  lower name.toList

/-- The values of a name in any case. -/
def values (headers : Headers) (name : String) : List String :=
  (headers.filter fun header => plainName header.1 == plainName name).map Prod.snd

/-- The value of a name in any case: all its values, with a comma between two of them. -/
def value? (headers : Headers) (name : String) : Option String :=
  match headers.values name with
  | [] => none
  | values => some (", ".intercalate values)

/-- The first characters that may not stand in headers, of which a name comes before its value. -/
def fault? (headers : Headers) : Option NotAscii :=
  headers.findSome? fun (name, value) => (notAscii? name).or (notAscii? value)

end Headers

end SchemaBindings.Fetch
