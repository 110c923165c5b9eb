import SchemaBindings.Text.Case
import SchemaBindings.Text.Quoted
import SchemaBindings.Text.Split
/-!
# Hosts

The host of a URL is an address of version 4 or 6, a name in ASCII, or a name with other characters.
`Host.isVersion4` and `Host.isVersion6` tell which texts are addresses.
-/

set_option autoImplicit false
set_option relaxedAutoImplicit false

namespace SchemaBindings.Fetch

open SchemaBindings.Text

/-- What is wrong with a host. -/
inductive HostFault where
  | version4
  | version6
  | international
  deriving DecidableEq, Repr

/-- The words for a fault. -/
def HostFault.message : HostFault → String
  | version4 => "Invalid IPv4 address: "
  | version6 => "Invalid IPv6 address: "
  | international => "Invalid IDNA hostname: "

namespace Host

/-! ### Addresses -/

/-- The states in which a text is on its way through four runs of digits with one character
between two of them: an even state waits for the first digit of a run, an odd one is in a run. -/
def numericStep (states : List Nat) (c : Char) : List Nat :=
  (states.flatMap fun state =>
    (if isDigit c then [if state % 2 = 0 then state + 1 else state] else []) ++
      (if state % 2 = 1 && state < 7 then [state + 1] else [])).eraseDups

/-- Whether a host looks like an address of version 4: four runs of digits with any one character
between two of them. -/
def looksNumeric (host : List Char) : Bool :=
  (host.foldl numericStep [0]).contains 7

/-- Whether a text is one number of an address of version 4. -/
def isOctet (text : List Char) : Bool :=
  !text.isEmpty && text.length ≤ 3 && text.all isDigit &&
    (text == ['0'] || text.head? != some '0') &&
    text.foldl (fun value c => value * 10 + (c.toNat - 0x30)) 0 ≤ 255

/-- Whether a text is an address of version 4. -/
def isVersion4 (text : List Char) : Bool :=
  let octets := splitAtEach '.' text
  octets.length == 4 && octets.all isOctet

/-- Whether a text is one number of an address of version 6. -/
def isHextet (text : List Char) : Bool :=
  !text.isEmpty && text.length ≤ 4 && text.all fun c => (hexValue? c).isSome

/-- The numbers of an address of version 6, with an address of version 4 at its end counted as
two of them. -/
def hextets? (text : List Char) : Option (List (List Char)) :=
  let parts := splitAtEach ':' text
  match parts.getLast? with
  | some last =>
    if last.contains '.' then
      if isVersion4 last then some (parts.dropLast ++ [['0'], ['0']]) else none
    else some parts
  | none => some parts

/-- Whether the numbers of an address of version 6 fit around the one place where numbers are left
out, or are complete without such a place. -/
def hextetsFit (parts : List (List Char)) : Bool :=
  let inner := (parts.drop 1).dropLast
  match inner.findIdx? List.isEmpty with
  | none => parts.length == 8 && parts.all isHextet
  | some index =>
    let before := parts.take (index + 1)
    let after := parts.drop (index + 2)
    let before := if before == [[]] then [] else before
    let after := if after == [[]] then [] else after
    before.all isHextet && after.all isHextet && before.length + after.length < 8

/-- Whether a text is an address of version 6, perhaps with a zone behind a percent sign. -/
def isVersion6 (text : List Char) : Bool :=
  let zoneFits := match splitAtFirst? '%' text with
    | none => true
    | some (_, zone) => !zone.isEmpty && !zone.contains '%'
  let address := text.takeWhile (· != '%')
  zoneFits && 3 ≤ (splitAtEach ':' address).length &&
    match hextets? address with
    | some parts => parts.length ≤ 9 && hextetsFit parts
    | none => false

end Host

end SchemaBindings.Fetch
