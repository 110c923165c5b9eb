import SchemaBindings.Text.EastAsian.Front
import SchemaBindings.Text.EastAsian.HongKongTable
import SchemaBindings.Text.EastAsian.TraditionalTable
/-!
# Traditional Chinese character sets

A set of pairs of a high byte and any other, and the same set with the changes of one vendor or
those of Hong Kong.
-/

set_option autoImplicit false
set_option relaxedAutoImplicit false

namespace SchemaBindings.Text.EastAsian

/-- The set of traditional Chinese characters. -/
def traditionalGrid : Grid := gridOf traditionalRows

/-- The character of a pair. -/
def traditional? (first second : Nat) : Option Char :=
  if first < 0xa1 then none
  else if 0x40 ≤ second && second ≤ 0x7e then
    traditionalGrid.char? (2 * (first - 0xa1)) (second - 0x40)
  else if 0xa1 ≤ second then traditionalGrid.char? (2 * (first - 0xa1) + 1) (second - 0xa1)
  else none

/-- The character of a pair of one vendor. -/
def vendorTraditional? (first second : Nat) : Option Char :=
  (runChar? vendorTraditionalRuns first second).or (traditional? first second)

/-- Whether the set of Hong Kong has characters of its own for a pair that the other sets use too.
-/
def isHongKongPair (first second : Nat) : Bool :=
  0xc6 ≤ first && first ≤ 0xc8 && !(first = 0xc6 && second < 0xa1)

/-- The characters of a pair in the set of Hong Kong. -/
def hongKong? (first second : Nat) : Option (List Char) :=
  let usual := if isHongKongPair first second then none else traditional? first second
  ((usual.or (runChar? hongKongRuns first second)).map fun c => [c]).or
    (pairText? joinedHongKong first second)

end SchemaBindings.Text.EastAsian
