/-!
# Ranges of code points

A class of characters beyond ASCII is given as a list of inclusive ranges of code points.
-/

set_option autoImplicit false
set_option relaxedAutoImplicit false

namespace SchemaBindings.Text

/-- Whether a code point lies in one of the ranges. -/
def inRanges (ranges : List (Nat × Nat)) (code : Nat) : Bool :=
  ranges.any fun range => range.1 ≤ code && code ≤ range.2

end SchemaBindings.Text
