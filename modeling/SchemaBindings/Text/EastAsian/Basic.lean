import SchemaBindings.Text.EastAsian.Escaped
import SchemaBindings.Text.EastAsian.Traditional
/-!
# East Asian character sets

The Chinese, Japanese and Korean character sets, each with the way in which its bytes are read.
-/

set_option autoImplicit false
set_option relaxedAutoImplicit false

namespace SchemaBindings.Text

open EastAsian

/-- An East Asian character set. -/
inductive EastAsianSet where
  | shiftJis
  | vendorShiftJis
  | eucJapanese
  | widerShiftJis (edition : KanjiEdition)
  | widerEucJapanese (edition : KanjiEdition)
  | hanzi
  | extendedHanzi
  | largestHanzi
  | tildes
  | traditional
  | vendorTraditional
  | hongKong
  | korean
  | vendorKorean
  | combining
  | escaped (sets : EscapedSet)
  deriving DecidableEq, Repr

/-- Reads bytes into characters, with nothing in the place of each fault. -/
def EastAsianSet.pieces : EastAsianSet → List UInt8 → List (Option Char)
  | shiftJis => readFronts shiftedFront
  | vendorShiftJis => readFronts vendorFront
  | eucJapanese => readFronts highKanjiFront
  | widerShiftJis edition => readFronts edition.shiftedFront
  | widerEucJapanese edition => readFronts edition.highFront
  | hanzi => readFronts (pairFront highHanzi?)
  | extendedHanzi => readFronts (pairFront extendedHanzi?)
  | largestHanzi => readFronts largestFront
  | tildes => tildePieces false
  | traditional => readFronts (pairFront traditional?)
  | vendorTraditional => readFronts (pairFront vendorTraditional?)
  | hongKong => readFronts (textFront hongKong?)
  | korean => readFronts koreanFront
  | vendorKorean => readFronts (pairFront vendorKorean?)
  | combining => readFronts (pairFront combining?)
  | escaped sets => sets.pieces

end SchemaBindings.Text
