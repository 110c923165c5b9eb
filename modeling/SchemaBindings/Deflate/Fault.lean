/-!
# Faults of compressed data

What may be wrong with compressed data: in its blocks, in the prefix codes that a block describes,
and in the header and checksums around the blocks. Data that merely ends early has no fault.
-/

set_option autoImplicit false
set_option relaxedAutoImplicit false

namespace SchemaBindings.Deflate

/-- What is wrong with compressed data. -/
inductive Fault where
  | blockType
  | storedLength
  | tooManySymbols
  | lengthsCode
  | lengthRepeat
  | noEndOfBlock
  | literalsCode
  | distancesCode
  | literal
  | distance
  | tooFarBack
  | header
  | method
  | windowSize
  | headerFlags
  | headerChecksum
  | checksum
  | size
  | dictionary
  deriving DecidableEq, Repr

namespace Fault

/-- What a fault is called, unless it is the lack of a dictionary. -/
def name? : Fault → Option String
  | blockType => some "invalid block type"
  | storedLength => some "invalid stored block lengths"
  | tooManySymbols => some "too many length or distance symbols"
  | lengthsCode => some "invalid code lengths set"
  | lengthRepeat => some "invalid bit length repeat"
  | noEndOfBlock => some "invalid code -- missing end-of-block"
  | literalsCode => some "invalid literal/lengths set"
  | distancesCode => some "invalid distances set"
  | literal => some "invalid literal/length code"
  | distance => some "invalid distance code"
  | tooFarBack => some "invalid distance too far back"
  | header => some "incorrect header check"
  | method => some "unknown compression method"
  | windowSize => some "invalid window size"
  | headerFlags => some "unknown header flags set"
  | headerChecksum => some "header crc mismatch"
  | checksum => some "incorrect data check"
  | size => some "incorrect length check"
  | dictionary => none

/-- The text of a fault. -/
def message (fault : Fault) : String :=
  match fault.name? with
  | some name => "Error -3 while decompressing data: " ++ name
  | none => "Error 2 while decompressing data"

end Fault

end SchemaBindings.Deflate
