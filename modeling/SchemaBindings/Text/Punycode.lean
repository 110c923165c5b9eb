import SchemaBindings.Text.Split
/-!
# Punycode

A text with any characters as a text of letters, digits and hyphens: first its ASCII characters,
then, behind a hyphen, its other characters with their places. They are taken in the order of their
numbers; each is written as the distance from the one before, a number in a mixed radix whose
thresholds follow the distances written so far. `decode?` reads what `encode` writes.
-/

set_option autoImplicit false
set_option relaxedAutoImplicit false

namespace SchemaBindings.Text.Punycode

/-- The base of the digits. -/
def base : Nat := 36

/-- The bias before the first distance. -/
def firstBias : Nat := 72

/-- The character for a digit. -/
def digit (value : Nat) : Char :=
  if value < 26 then Char.ofNat (0x61 + value) else Char.ofNat (0x30 + (value - 26))

/-- The threshold of the digit at a position that is a multiple of the base. -/
def threshold (position bias : Nat) : Nat :=
  if position ≤ bias then 1 else if bias + 26 ≤ position then 26 else position - bias

/-- A distance in digits, from the digit at `position` on. -/
def distanceText (bias : Nat) (position distance : Nat) : List Char :=
  let limit := threshold position bias
  if h : distance < limit then [digit distance]
  else
    have : limit ≤ distance := Nat.le_of_not_lt h
    have : (distance - limit) / (base - limit) < distance := by
      have low : 1 ≤ limit := by
        simp only [limit, threshold]
        split
        · exact Nat.le_refl 1
        · split
          · decide
          · omega
      have : (distance - limit) / (base - limit) ≤ distance - limit := Nat.div_le_self _ _
      omega
    digit (limit + (distance - limit) % (base - limit)) ::
      distanceText bias (position + base) ((distance - limit) / (base - limit))
termination_by distance

/-- Divides a distance down to the range of the bias and counts the steps. -/
def shrink (steps distance : Nat) : Nat :=
  if distance ≤ 455 then base * steps + base * distance / (distance + 38)
  else shrink (steps + 1) (distance / 35)
termination_by distance
decreasing_by exact Nat.div_lt_self (by omega) (by decide)

/-- The bias after a distance, where `count` characters have been written with this one. -/
def adapt (distance count : Nat) (first : Bool) : Nat :=
  let scaled := if first then distance / 700 else distance / 2
  shrink 0 (scaled + scaled / count)

/-- How far the writing has come. -/
structure Progress where
  distance : Nat
  bias : Nat
  written : Nat
  output : List Char
  deriving Repr

/-- Passes one character of the text while the characters numbered `number` are written. -/
def pass (ascii number : Nat) (progress : Progress) (c : Char) : Progress :=
  if c.toNat < number then { progress with distance := progress.distance + 1 }
  else if c.toNat = number then
    { distance := 0
      bias := adapt progress.distance (progress.written + 1) (progress.written == ascii)
      written := progress.written + 1
      output := progress.output ++ distanceText progress.bias base progress.distance }
  else progress

/-- Writes all characters with each of some numbers, in increasing order. -/
def writeNumbers (text : List Char) (ascii : Nat) (next : Nat) (progress : Progress) :
    List Nat → Progress
  | [] => progress
  | number :: numbers =>
    let moved := { progress with
      distance := progress.distance + (number - next) * (progress.written + 1) }
    let passed := text.foldl (pass ascii number) moved
    writeNumbers text ascii (number + 1) { passed with distance := passed.distance + 1 } numbers

/-- The text in letters, digits and hyphens. -/
def encode (text : List Char) : List Char :=
  let ascii := text.filter fun c => c.toNat < 0x80
  let numbers := ((text.filter fun c => 0x80 ≤ c.toNat).map Char.toNat).mergeSort.eraseReps
  let start : Progress := ⟨0, firstBias, ascii.length, []⟩
  ascii ++ (if ascii.isEmpty then [] else ['-']) ++
    (writeNumbers text ascii.length 0x80 start numbers).output

/-! ### Reading -/

/-- The value of a digit, in either case. -/
def digitValue? (c : Char) : Option Nat :=
  if 'a' ≤ c && c ≤ 'z' then some (c.toNat - 0x61)
  else if 'A' ≤ c && c ≤ 'Z' then some (c.toNat - 0x41)
  else if '0' ≤ c && c ≤ '9' then some (c.toNat - 0x30 + 26)
  else none

/-- How far the reading of distances has come: the text so far, the number of the next character and
the place where it is put, the bias, and of the distance that is being read the value, the weight of
the next digit and its position. -/
structure Reading where
  text : List Char
  number : Nat := 0x80
  place : Nat := 0
  bias : Nat := firstBias
  first : Bool := true
  value : Nat := 0
  weight : Nat := 1
  position : Nat := base
  deriving DecidableEq, Repr

/-- The number of the character that a distance leads to, and the place where it is put. -/
def Reading.target (state : Reading) (distance : Nat) : Nat × Nat :=
  let places := state.text.length + 1
  (state.number + (state.place + distance) / places, (state.place + distance) % places)

/-- Puts a character that has a number and a place into the text, after a distance. -/
def Reading.put (state : Reading) (distance number place : Nat) (c : Char) : Reading :=
  { text := state.text.take place ++ c :: state.text.drop place
    number
    place := place + 1
    bias := adapt distance (state.text.length + 1) state.first
    first := false }

/-- Puts the character that a distance leads to into the text. -/
def Reading.insert? (state : Reading) (distance : Nat) : Option Reading :=
  let (number, place) := state.target distance
  if h : number.isValidChar then some (state.put distance number place (Char.ofNatAux number h))
  else none

/-- Reads another digit, and inserts a character when a distance is complete. -/
def Reading.step? (insert? : Reading → Nat → Option Reading) (state : Reading) (c : Char) :
    Option Reading := do
  let digit ← digitValue? c
  let limit := threshold state.position state.bias
  let value := state.value + digit * state.weight
  if digit < limit then insert? state value
  else
    return { state with
      value
      weight := state.weight * (base - limit)
      position := state.position + base }

/-- The text that letters, digits and hyphens write, unless a distance is incomplete or leads beyond
the last character. -/
def decode? (text : List Char) : Option (List Char) := do
  let (ascii, digits) := match splitAtLast? '-' text with
    | some (ascii, digits) => (ascii, digits)
    | none => ([], text)
  let state ← digits.foldlM (Reading.step? Reading.insert?) { text := ascii }
  if state.position = base then some state.text else none

/-! ### Bytes -/

/-- Puts a character into the text in any case: beyond the last number, it is a question mark. -/
def Reading.insertAny (state : Reading) (distance : Nat) : Reading :=
  let (number, place) := state.target distance
  let number := if 0x10ffff < number then '?'.toNat else number
  state.put distance number place
    (if h : number.isValidChar then Char.ofNatAux number h else '\ufffd')

/-- Reads digits up to the end or to one that is none. -/
def Reading.readOn (state : Reading) : List Char → Reading
  | [] => state
  | c :: rest =>
    match state.step? (fun state distance => some (state.insertAny distance)) c with
    | some next => next.readOn rest
    | none => state

/-- The bytes that write ASCII characters, and those that write distances. -/
def splitBytes (bytes : List UInt8) : List UInt8 × List UInt8 :=
  let digits := (bytes.reverse.takeWhile (· != 0x2d)).reverse
  (bytes.take (bytes.length - digits.length - 1), digits)

/-- The first byte beyond ASCII among those that write distances, and its place there. -/
def foreignByte? (bytes : List UInt8) : Option (UInt8 × Nat) :=
  (splitBytes bytes).2.zipIdx.find? fun entry => 0x80 ≤ entry.1

/-- The characters that bytes write, as far as they can be read. -/
def pieces (bytes : List UInt8) : List (Option Char) :=
  let (ascii, digits) := splitBytes bytes
  let front := ascii.map fun byte => if byte < 0x80 then Char.ofNat byte.toNat else '\ufffd'
  let state : Reading := { text := front }
  (state.readOn (digits.map fun byte => Char.ofNat byte.toNat)).text.map some

end SchemaBindings.Text.Punycode
