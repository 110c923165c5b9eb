/-!
# Base64

Bytes as text in an alphabet of sixty-four characters: three bytes make four characters, and an
equals sign stands for each character that the last group lacks.
-/

set_option autoImplicit false
set_option relaxedAutoImplicit false

namespace SchemaBindings.Text.Base64

/-- The character for a value below sixty-four. -/
def digit (value : Nat) : Char :=
  if value < 26 then Char.ofNat (0x41 + value)
  else if value < 52 then Char.ofNat (0x61 + (value - 26))
  else if value < 62 then Char.ofNat (0x30 + (value - 52))
  else if value = 62 then '+'
  else '/'

/-- The text of some bytes. -/
def encode : List UInt8 → List Char
  | [] => []
  | [a] =>
    let value := a.toNat
    [digit (value / 4), digit (value % 4 * 16), '=', '=']
  | [a, b] =>
    let value := a.toNat * 256 + b.toNat
    [digit (value / 1024), digit (value / 16 % 64), digit (value % 16 * 4), '=']
  | a :: b :: c :: rest =>
    let value := (a.toNat * 256 + b.toNat) * 256 + c.toNat
    digit (value / 262144) :: digit (value / 4096 % 64) :: digit (value / 64 % 64) ::
      digit (value % 64) :: encode rest

end SchemaBindings.Text.Base64
