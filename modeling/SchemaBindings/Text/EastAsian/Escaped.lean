import SchemaBindings.Text.EastAsian.Korean
import SchemaBindings.Text.EastAsian.Simplified
import SchemaBindings.Text.EastAsian.WiderKanji
/-!
# Sets that are switched by escape sequences

Low bytes alone write the characters of several sets, one at a time. An escape sequence names the
set that is used next, the one that is used between two shifts, or the one that single letters
behind a mark come from; a line feed ends what a shift began.
-/

set_option autoImplicit false
set_option relaxedAutoImplicit false

namespace SchemaBindings.Text.EastAsian

/-- A set that may be used: one of single low bytes or of pairs of them. -/
inductive LowSet where
  | ascii
  | roman
  | halfWidth
  | latin
  | greek
  | kanji
  | furtherKanji
  | widerKanji (edition : KanjiEdition)
  | secondPlane (edition : KanjiEdition)
  | hanzi
  | korean
  deriving DecidableEq, Repr

/-- The Greek letters, which belong to the bytes from 0xa0 on. A point stands where there is none.
-/
def greekLetters : String :=
  "\xa0‘’£..¦§¨©.«¬\xad.―°±²³΄΅Ά·ΈΉΊ»Ό½ΎΏΐΑΒΓΔΕΖΗΘΙΚΛΜΝΞΟΠΡ.ΣΤΥΦΧΨΩΪΫά" ++
    "έήίΰαβγδεζηθικλμνξοπρςστυφχψωϊϋόύώ"

namespace LowSet

/-- The number of bytes of a character. -/
def width : LowSet → Nat
  | ascii | roman | halfWidth | latin | greek => 1
  | kanji | furtherKanji | widerKanji _ | secondPlane _ | hanzi | korean => 2

/-- The characters of a byte in a set of single bytes, or of a pair. Latin and Greek letters are
only used one at a time, each behind a mark. -/
def text? (set : LowSet) (first second : Nat) : Option (List Char) :=
  let one (c : Option Char) : Option (List Char) := c.map fun c => [c]
  match set with
  | ascii => some [Char.ofNat first]
  | roman => some [romanChar first]
  | halfWidth =>
    if 0x21 ≤ first && first ≤ 0x5f then some [EastAsian.halfWidth (first + 0x80)] else none
  | latin | greek => none
  | kanji => one (kanjiGrid.pair? 0x21 first second)
  | furtherKanji => one (furtherKanjiGrid.pair? 0x21 first second)
  | widerKanji edition => edition.firstPlane? first second
  | secondPlane edition => one (edition.secondPlane? first second)
  | hanzi => one (hanziGrid.pair? 0x21 first second)
  | korean =>
    if first + 0x80 = letterByte && second + 0x80 = fillerByte then some ['\u3164']
    else one (koreanGrid.pair? 0x21 first second)

/-- The character of a byte behind the mark for a single letter. -/
def asideChar? (set : LowSet) (byte : Nat) : Option Char :=
  match set with
  | ascii => if byte < 0x80 then some (Char.ofNat byte) else none
  | latin => if byte < 0x80 then some (Char.ofNat (byte + 0x80)) else none
  | greek =>
    if 0x80 ≤ byte then some (Char.ofNat (byte - 0x80))
    else if byte < 0x20 then some (Char.ofNat (byte + 0x80))
    else greekLetters.toList[byte - 0x20]?.filter fun c => c != '.'
  | _ => none

end LowSet

/-- What the escape sequences of a text may name: sets of single bytes and sets of pairs, by the
last byte of the sequence. -/
structure EscapedSet where
  singles : List (Nat × LowSet)
  pairs : List (Nat × LowSet)
  shifts : Bool
  longForm : Bool
  aside : Bool
  deriving DecidableEq, Repr

namespace EscapedSet

/-- The Japanese sets. -/
def japanese : EscapedSet :=
  ⟨[(0x4a, .roman)], [(0x42, .kanji), (0x40, .kanji)], false, true, false⟩

/-- The Japanese sets with the supplement. -/
def japaneseFurther : EscapedSet :=
  { japanese with pairs := japanese.pairs ++ [(0x44, .furtherKanji)] }

/-- The Japanese sets with the supplement and half-width letters. -/
def japaneseHalfWidth : EscapedSet :=
  { japaneseFurther with singles := [(0x4a, .roman), (0x49, .halfWidth)] }

/-- The Japanese sets with the supplement, the Chinese and the Korean set, and Latin and Greek
letters one at a time. -/
def manyLanguages : EscapedSet :=
  { japaneseFurther with
    singles := [(0x4a, .roman), (0x41, .latin), (0x46, .greek)]
    pairs := japaneseFurther.pairs ++ [(0x41, .hanzi), (0x43, .korean)]
    aside := true }

/-- The Japanese set and both planes of an edition of the wider one. -/
def widerJapanese (edition : KanjiEdition) : EscapedSet :=
  let mark := match edition with
    | .first => 0x4f
    | .later => 0x51
  ⟨[], [(0x42, .kanji), (mark, .widerKanji edition), (0x50, .secondPlane edition)], false, true,
    false⟩

/-- The Korean set. -/
def korean : EscapedSet :=
  ⟨[], [(0x43, .korean)], true, false, false⟩

end EscapedSet

/-! ### Escape sequences -/

/-- Where an escape sequence ends: after some bytes, or nowhere within the longest one, or not
before the end of all bytes. -/
inductive SequenceEnd where
  | after (size : Nat)
  | nowhere
  | unfinished
  deriving DecidableEq, Repr

/-- Whether a byte ends an escape sequence. -/
def endsSequence (byte : Nat) : Bool :=
  0x40 ≤ byte && byte ≤ 0x5a

/-- The size that no escape sequence exceeds. -/
def maxSequence : Nat := 16

/-- Where an escape sequence ends of which some bytes have been passed. A long form may hold an
ampersand with an at sign, which ends nothing, and another byte behind them. -/
def sequenceEnd (longForm : Bool) (passed : Nat) : List UInt8 → SequenceEnd
  | [] => if passed < maxSequence then .unfinished else .nowhere
  | byte :: rest =>
    if maxSequence ≤ passed then .nowhere
    else if endsSequence byte.toNat then .after (passed + 1)
    else if longForm && byte = 0x26 && rest.head? == some 0x40 then
      sequenceEnd longForm (passed + 3) (rest.drop 2)
    else sequenceEnd longForm (passed + 1) rest
termination_by bytes => bytes.length
decreasing_by all_goals simp only [List.length_drop, List.length_cons]; omega

/-- The uses of sets: for bytes outside shifts, for those between them, and for a single letter
behind a mark. -/
inductive SetUse where
  | plain
  | between
  | aside
  deriving DecidableEq, Repr

/-- What the bytes of an escape sequence behind the escape say: a use, and the set for it. -/
def EscapedSet.naming? (sets : EscapedSet) (bytes : List Nat) : Option (SetUse × LowSet) :=
  let single (last : Nat) : Option LowSet :=
    if last = 0x42 then some .ascii else sets.singles.lookup last
  let pair (last : Nat) : Option LowSet := sets.pairs.lookup last
  match bytes with
  | [0x24, last] => (pair last).map (SetUse.plain, ·)
  | [0x28, last] => (single last).map (SetUse.plain, ·)
  | [0x29, last] => (single last).map (SetUse.between, ·)
  | [0x2e, last] => if sets.aside then (single last).map (SetUse.aside, ·) else none
  | [0x24, 0x28, last] => (pair last).map (SetUse.plain, ·)
  | [0x24, 0x29, last] => (pair last).map (SetUse.between, ·)
  | [_, _, 0x1b, 0x24, 0x42] => if sets.longForm then (pair 0x42).map (SetUse.plain, ·) else none
  | _ => none

/-! ### Reading -/

/-- Why a text cannot be read at all: an escape sequence is still open after too many bytes, or a
single letter is asked for from a set that has none. -/
inductive EscapeFault where
  | openTooLong
  | noLetters
  deriving DecidableEq, Repr

/-- The sets in use: the one outside shifts, the one within them and the one for single letters,
whether a shift has begun, and whether an escape sequence of another kind is being passed on as it
is. -/
structure InUse where
  plain : LowSet := .ascii
  between : LowSet := .ascii
  aside : LowSet := .ascii
  shifted : Bool := false
  passing : Bool := false
  deriving DecidableEq, Repr

/-- The sets in use when another one is named. -/
def InUse.name (inUse : InUse) (use : SetUse) (set : LowSet) : InUse :=
  match use with
  | .plain => { inUse with plain := set }
  | .between => { inUse with between := set }
  | .aside => { inUse with aside := set }

/-- What comes next of a byte sequence: characters or faults, the bytes behind the first one that
belong to them, the sets in use from then on, and whether that ends the reading. -/
structure EscapedStep where
  pieces : List (Option Char)
  further : Nat
  inUse : InUse
  fault? : Option EscapeFault := none
  deriving DecidableEq, Repr

/-- The number of bytes that an open escape sequence may have at the end. -/
def maxOpen : Nat := 8

/-- An escape sequence that is open at the end. -/
def openStep (inUse : InUse) (rest : List UInt8) : EscapedStep :=
  ⟨[none], rest.length, inUse, if maxOpen < rest.length + 1 then some .openTooLong else none⟩

/-- A single letter behind its mark. -/
def asideStep (inUse : InUse) (rest : List UInt8) : EscapedStep :=
  match rest with
  | _ :: byte :: _ =>
    ⟨[inUse.aside.asideChar? byte.toNat], 2, inUse,
      if [LowSet.ascii, .latin, .greek].contains inUse.aside then none else some .noLetters⟩
  | _ => openStep inUse rest

/-- What an escape does before some bytes. -/
def EscapedSet.escapeStep (sets : EscapedSet) (inUse : InUse) (rest : List UInt8) : EscapedStep :=
  match rest with
  | [] => openStep inUse rest
  | next :: _ =>
    if [0x28, 0x29, 0x24, 0x2e, 0x26].contains next.toNat then
      match sequenceEnd sets.longForm 1 rest with
      | .unfinished => openStep inUse rest
      | .nowhere => ⟨[none], 0, inUse, none⟩
      | .after size =>
        match sets.naming? ((rest.take (size - 1)).map UInt8.toNat) with
        | some (use, set) => ⟨[], size - 1, inUse.name use set, none⟩
        | none => ⟨[none], size - 1, inUse, none⟩
    else if sets.aside && next = 0x4e then asideStep inUse rest
    else ⟨[some '\x1b'], 0, { inUse with passing := true }, none⟩

/-- What a byte does before some bytes. -/
def EscapedSet.step (sets : EscapedSet) (inUse : InUse) (byte : Nat) (rest : List UInt8) :
    EscapedStep :=
  let itself : List (Option Char) := [some (Char.ofNat byte)]
  let set := if inUse.shifted then inUse.between else inUse.plain
  if inUse.passing then ⟨itself, 0, { inUse with passing := !endsSequence byte }, none⟩
  else if byte = 0x1b then sets.escapeStep inUse rest
  else if sets.shifts && byte = 0x0f then ⟨[], 0, { inUse with shifted := false }, none⟩
  else if sets.shifts && byte = 0x0e then ⟨[], 0, { inUse with shifted := true }, none⟩
  else if byte = 0x0a then ⟨itself, 0, { inUse with shifted := false }, none⟩
  else if byte < 0x20 then ⟨itself, 0, inUse, none⟩
  else if 0x80 ≤ byte then ⟨[none], 0, inUse, none⟩
  else if set.width = 2 && rest.isEmpty then openStep inUse rest
  else
    match set.text? byte ((rest.head?.map UInt8.toNat).getD 0) with
    | some text => ⟨text.map some, set.width - 1, inUse, none⟩
    | none => ⟨[none], set.width - 1, inUse, none⟩

/-- The steps through a byte sequence with some sets in use. -/
def EscapedSet.steps (sets : EscapedSet) (inUse : InUse) : List UInt8 → List EscapedStep
  | [] => []
  | byte :: rest =>
    let step := sets.step inUse byte.toNat rest
    step :: sets.steps step.inUse (rest.drop step.further)
termination_by bytes => bytes.length
decreasing_by simp only [List.length_drop, List.length_cons]; omega

/-- Reads a byte sequence, with nothing in the place of each fault. -/
def EscapedSet.pieces (sets : EscapedSet) (bytes : List UInt8) : List (Option Char) :=
  (sets.steps {} bytes).flatMap EscapedStep.pieces

/-- Why a byte sequence cannot be read at all. -/
def EscapedSet.fault? (sets : EscapedSet) (bytes : List UInt8) : Option EscapeFault :=
  (sets.steps {} bytes).findSome? EscapedStep.fault?

end SchemaBindings.Text.EastAsian
