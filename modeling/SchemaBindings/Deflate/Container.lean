import SchemaBindings.Deflate.Inflate
/-!
# Containers

Compressed data stands alone or between a header and a checksum, in one of two formats. The checksum
is two running sums, or the remainder of a division of polynomials over two elements. `gunzip` and
`unwrap` give the output of a container; `unpack` also accepts data that stands alone. Data that
ends early gives the output up to there, and what follows the end of the container is ignored.
-/

set_option autoImplicit false
set_option relaxedAutoImplicit false

namespace SchemaBindings.Deflate

/-! ### Checksums -/

/-- The modulus of the running sums: the largest prime number of sixteen bits. -/
def sumModulus : Nat := 65521

/-- The running sums of some bytes: of the bytes, from one on, and of those sums. -/
def sumCheck (bytes : List UInt8) : Nat :=
  let (low, high) := bytes.foldl (fun (low, high) byte =>
    let low := (low + byte.toNat) % sumModulus
    (low, (high + low) % sumModulus)) (1, 0)
  high * 65536 + low

/-- The divisor, without its highest power, its lowest bit first. -/
def divisor : UInt32 := 0xedb88320

/-- The remainder after one more bit. -/
def divideBit (remainder : UInt32) : UInt32 :=
  if remainder % 2 = 1 then (remainder / 2) ^^^ divisor else remainder / 2

/-- The remainder after one more byte. -/
def divideByte (remainder : UInt32) (byte : UInt8) : UInt32 :=
  Nat.repeat divideBit 8 (remainder ^^^ byte.toUInt32)

/-- The remainder of some bytes. -/
def remainderCheck (bytes : List UInt8) : Nat :=
  (bytes.foldl divideByte 0xffffffff ^^^ 0xffffffff).toNat

/-! ### Data -/

/-- The number of some bytes, the lowest byte first. -/
def lowFirst (bytes : List UInt8) : Nat :=
  bytes.foldr (fun byte value => byte.toNat + 256 * value) 0

/-- The number of some bytes, the highest byte first. -/
def highFirst (bytes : List UInt8) : Nat :=
  lowFirst bytes.reverse

/-- The output of data that stands alone. -/
def inflateBytes (bytes : List UInt8) : Except Fault (List UInt8) :=
  match inflate (bitsOf bytes) with
  | .whole output _ => .ok output.toList
  | .cut output => .ok output.toList
  | .faulty fault => .error fault

/-! ### The format with running sums -/

/-- The output of a container with running sums behind the data. -/
def unwrap (bytes : List UInt8) : Except Fault (List UInt8) :=
  match bytes with
  | first :: second :: rest =>
    if (first.toNat * 256 + second.toNat) % 31 != 0 then .error .header
    else if first.toNat % 16 != 8 then .error .method
    else if first.toNat / 16 > 7 then .error .windowSize
    else if second.toNat / 32 % 2 = 1 then
      if rest.length < 4 then .ok [] else .error .dictionary
    else
      match inflate (bitsOf rest) with
      | .faulty fault => .error fault
      | .cut output => .ok output.toList
      | .whole output rest =>
        let output := output.toList
        let check := (bytesOf (nextByte rest)).take 4
        if check.length = 4 && highFirst check != sumCheck output then .error .checksum
        else .ok output
  | _ => .ok []

/-- The output of a container with running sums, or of data that stands alone. -/
def unpack (bytes : List UInt8) : Except Fault (List UInt8) :=
  match unwrap bytes with
  | .ok output => .ok output
  | .error _ => inflateBytes bytes

/-! ### The format with a remainder -/

/-- What may follow the fixed part of a header, as its flags tell. -/
structure HeaderParts where
  extra : Bool
  name : Bool
  comment : Bool
  checksum : Bool
  deriving DecidableEq, Repr

/-- The bytes behind a counted part, unless the part ends early. -/
def skipCounted? : List UInt8 → Option (List UInt8)
  | low :: high :: rest =>
    let size := lowFirst [low, high]
    if size ≤ rest.length then some (rest.drop size) else none
  | _ => none

/-- The bytes behind a part that ends with a zero, unless the part ends early. -/
def skipText? (bytes : List UInt8) : Option (List UInt8) :=
  match bytes.dropWhile (· != 0) with
  | _ :: rest => some rest
  | [] => none

/-- The bytes behind the parts of a header without its checksum, unless they end early. -/
def skipParts? (parts : HeaderParts) (bytes : List UInt8) : Option (List UInt8) := do
  let bytes ← if parts.extra then skipCounted? bytes else some bytes
  let bytes ← if parts.name then skipText? bytes else some bytes
  if parts.comment then skipText? bytes else some bytes

/-- What stands behind a header, or nothing if the data ends within it. -/
def skipHeader (bytes : List UInt8) : Except Fault (Option (List UInt8)) :=
  match bytes with
  | 0x1f :: 0x8b :: method :: flags :: rest =>
    if method != 8 then .error .method
    else if flags.toNat ≥ 32 then .error .headerFlags
    else
      let flag (bit : Nat) : Bool := flags.toNat / bit % 2 = 1
      let parts : HeaderParts := ⟨flag 4, flag 8, flag 16, flag 2⟩
      if rest.length < 6 then .ok none
      else
        match skipParts? parts (rest.drop 6) with
        | none => .ok none
        | some body =>
          if parts.checksum then
            match body with
            | low :: high :: behind =>
              let head := bytes.take (bytes.length - body.length)
              if lowFirst [low, high] != remainderCheck head % 65536 then .error .headerChecksum
              else .ok (some behind)
            | _ => .ok none
          else .ok (some body)
  | 0x1f :: 0x8b :: _ => .ok none
  | _ :: _ :: _ => .error .header
  | _ => .ok none

/-- The output of a container with a remainder and a size behind the data. -/
def gunzip (bytes : List UInt8) : Except Fault (List UInt8) := do
  match ← skipHeader bytes with
  | none => return []
  | some body =>
    match inflate (bitsOf body) with
    | .faulty fault => throw fault
    | .cut output => return output.toList
    | .whole output rest =>
      let output := output.toList
      let trailer := bytesOf (nextByte rest)
      let check := trailer.take 4
      let size := (trailer.drop 4).take 4
      if check.length = 4 && lowFirst check != remainderCheck output then throw .checksum
      if size.length = 4 && lowFirst size != output.length % 4294967296 then throw .size
      return output

end SchemaBindings.Deflate
