/-!
# Character sets of several bytes

A byte sequence in a set of several bytes is read from its front: a character and the bytes that it
takes, or some bytes at fault. Tables of characters are grids of rows.
-/

set_option autoImplicit false
set_option relaxedAutoImplicit false

namespace SchemaBindings.Text.EastAsian

/-! ### Fronts -/

/-- The front of a byte sequence: characters or a fault, and the number of bytes behind the first
one that belong to it. Bytes that end within a character are at fault up to the end. -/
structure Front where
  pieces : List (Option Char)
  further : Nat
  deriving DecidableEq, Repr

namespace Front

/-- A byte that is at fault alone. -/
def bad : Front := ⟨[none], 0⟩

/-- A character of a single byte. -/
def single (c : Char) : Front := ⟨[some c], 0⟩

/-- An ASCII character. -/
def ascii (byte : Nat) : Front := single (Char.ofNat byte)

/-- The characters of some bytes, if there are any; else the first byte is at fault alone. -/
def ofChars? (size : Nat) : Option (List Char) → Front
  | some characters => ⟨characters.map some, size - 1⟩
  | none => bad

/-- A character of some bytes, if there is one; else the first byte is at fault alone. -/
def ofChar? (size : Nat) (c : Option Char) : Front :=
  ofChars? size (c.map fun c => [c])

/-- A pair of bytes that is at fault as a whole. -/
def badPair : Front := ⟨[none], 1⟩

/-- All bytes, which end within a character. -/
def unfinished (rest : List UInt8) : Front := ⟨[none], rest.length⟩

end Front

/-- Reads a byte sequence by its fronts, with nothing in the place of each fault. -/
def readFronts (front : Nat → List UInt8 → Front) : List UInt8 → List (Option Char)
  | [] => []
  | byte :: rest =>
    let first := front byte.toNat rest
    first.pieces ++ readFronts front (rest.drop first.further)
termination_by bytes => bytes.length
decreasing_by simp only [List.length_drop, List.length_cons]; omega

/-- The front of a sequence in a set of ASCII characters and pairs of bytes. -/
def textFront (pair? : Nat → Nat → Option (List Char)) (first : Nat) (rest : List UInt8) : Front :=
  if first < 0x80 then Front.ascii first
  else
    match rest with
    | [] => Front.unfinished rest
    | second :: _ => Front.ofChars? 2 (pair? first second.toNat)

/-- The front of a sequence in such a set, in which a pair writes a single character. -/
def pairFront (pair? : Nat → Nat → Option Char) : Nat → List UInt8 → Front :=
  textFront fun first second => (pair? first second).map fun c => [c]

/-! ### Grids -/

/-- Rows of characters. -/
abbrev Grid : Type := Array (Array Char)

/-- The grid with some rows. -/
def gridOf (rows : List String) : Grid :=
  (rows.map fun row => row.toList.toArray).toArray

/-- The character of a cell; a point stands for none. -/
def Grid.char? (grid : Grid) (row cell : Nat) : Option Char :=
  match grid[row]?.bind fun cells => cells[cell]? with
  | none | some '.' => none
  | some c => some c

/-- The character of a cell by two bytes from a lowest one on. -/
def Grid.pair? (grid : Grid) (lowest first second : Nat) : Option Char :=
  if lowest ≤ first && lowest ≤ second then grid.char? (first - lowest) (second - lowest) else none

/-- The character of a pair of bytes in runs of characters, each given with the bytes of its first
one; a point stands for none. -/
def runChar? (runs : List (Nat × Nat × String)) (first second : Nat) : Option Char :=
  runs.findSome? fun (row, start, characters) =>
    if row = first && start ≤ second then
      characters.toList[second - start]?.filter fun c => c != '.'
    else none

/-- The characters of a pair of bytes that stands in a list of such pairs. -/
def pairText? (texts : List (Nat × Nat × String)) (first second : Nat) : Option (List Char) :=
  (texts.find? fun (row, cell, _) => row = first && cell = second).map fun entry => entry.2.2.toList

end SchemaBindings.Text.EastAsian
