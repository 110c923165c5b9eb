import SchemaBindings.Text.BackslashForm
import SchemaBindings.Text.Case
import SchemaBindings.Text.CodePage
import SchemaBindings.Text.EastAsian.Basic
import SchemaBindings.Text.Encoding
import SchemaBindings.Text.Punycode
import SchemaBindings.Text.Utf7
/-!
# Character sets

The character sets that texts name, each under many names. `Charset.named?` finds a character set
and `Charset.decode` reads bytes with it.
-/

set_option autoImplicit false
set_option relaxedAutoImplicit false

namespace SchemaBindings.Text

/-- Why bytes cannot be read at all: units of some bits without a fixed byte order do not begin with
a byte order mark, the name is that of something else than a character set, a byte beyond ASCII
stands where only digits may stand, or an escape sequence leads nowhere. -/
inductive CharsetFault where
  | noMark (width : Nat)
  | notText
  | notBytes
  | strictOnly
  | undefined
  | nullCharacter
  | notAscii (byte index : Nat)
  | openEscape
  | noLetters
  deriving DecidableEq, Repr

/-- The text of a fault. -/
def CharsetFault.message : CharsetFault → String
  | noMark width => "UTF-" ++ toString width ++ " stream does not start with BOM"
  | notText => ""
  | notBytes => "descriptor 'translate' for 'str' objects doesn't apply to a 'bytes' object"
  | strictOnly => "Unsupported error handling replace"
  | undefined => "undefined encoding"
  | nullCharacter => "embedded null character"
  | notAscii byte index =>
    "'ascii' codec can't decode byte 0x" ++ String.ofList (Nat.toDigits 16 byte) ++
      " in position " ++ toString index ++ ": ordinal not in range(128)"
  | openEscape => "pending buffer overflow"
  | noLetters => "internal codec error"

/-- The fault of an escape sequence. -/
def CharsetFault.ofEscape : EastAsian.EscapeFault → CharsetFault
  | .openTooLong => openEscape
  | .noLetters => noLetters

/-- A character set, or something else that is named as one. -/
inductive Charset where
  | unicode (encoding : Encoding)
  | utf7
  | codePage (page : CodePage)
  | eastAsian (set : EastAsianSet)
  | punycode
  | backslash (raw : Bool)
  | unreadable (fault : CharsetFault)
  deriving DecidableEq, Repr

namespace Charset

/-! ### Reading -/

/-- Reads bytes into characters, with nothing in the place of each fault. -/
def pieces (charset : Charset) (bytes : List UInt8) : List (Option Char) :=
  match charset with
  | unicode encoding => encoding.pieces bytes
  | utf7 => utf7Pieces none bytes
  | codePage page => page.pieces bytes
  | eastAsian set => set.pieces bytes
  | punycode => Punycode.pieces bytes
  | backslash raw => backslashPieces raw (bytes.map fun byte => Char.ofNat byte.toNat)
  | unreadable _ => bytes.map fun _ => none

/-- The text of some bytes, if they hold no fault. -/
def decode? (charset : Charset) (bytes : List UInt8) : Option (List Char) :=
  (charset.pieces bytes).mapM id

/-- Why some bytes cannot be read at all. Fewer bytes than one unit lack no byte order mark. -/
def fault? (charset : Charset) (bytes : List UInt8) : Option CharsetFault :=
  match charset, bytes with
  | unreadable fault, _ => some fault
  | eastAsian (.escaped sets), _ => (sets.fault? bytes).map CharsetFault.ofEscape
  | punycode, _ =>
    (Punycode.foreignByte? bytes).map fun (byte, index) => .notAscii byte.toNat index
  | unicode (.utf16 none), 0xfe :: 0xff :: _ => none
  | unicode (.utf16 none), 0xff :: 0xfe :: _ => none
  | unicode (.utf16 none), _ :: _ :: _ => some (.noMark 16)
  | unicode (.utf32 none), 0x00 :: 0x00 :: 0xfe :: 0xff :: _ => none
  | unicode (.utf32 none), 0xff :: 0xfe :: 0x00 :: 0x00 :: _ => none
  | unicode (.utf32 none), _ :: _ :: _ :: _ :: _ => some (.noMark 32)
  | _, _ => none

/-- The text of some bytes, with the replacement character in the place of each fault. -/
def decode (charset : Charset) (bytes : List UInt8) : Except CharsetFault (List Char) :=
  match charset.fault? bytes with
  | some fault => .error fault
  | none => .ok ((charset.pieces bytes).map fun piece => piece.getD '\ufffd')

/-! ### Names -/

/-- Whether a character stands in the plain form of a name as it is. -/
def isNameChar (c : Char) : Bool :=
  isLowerLetter c || isDigit c || c == '.'

/-- The plain form of a name: lower case, and an underscore for each run of characters other than
letters, digits and points, but none at either end. -/
def plainName (name : List Char) : List Char :=
  let joined := (lower name).foldr (fun c rest =>
    if isNameChar c then c :: rest
    else if rest.isEmpty || rest.head? == some '_' then rest else '_' :: rest) []
  joined.dropWhile (· == '_')

/-- The forms of Unicode, with their names. -/
def unicodeNames : List (Charset × List String) :=
  [(unicode .utf8, ["utf_8", "utf8", "u8", "utf", "utf8_ucs2", "utf8_ucs4", "cp65001"]),
    (unicode .utf8Marked, ["utf_8_sig"]),
    (unicode (.utf16 none), ["utf_16", "utf16", "u16"]),
    (unicode (.utf16 (some .big)), ["utf_16_be", "utf_16be", "unicodebigunmarked"]),
    (unicode (.utf16 (some .little)), ["utf_16_le", "utf_16le", "unicodelittleunmarked"]),
    (unicode (.utf32 none), ["utf_32", "utf32", "u32"]),
    (unicode (.utf32 (some .big)), ["utf_32_be", "utf_32be"]),
    (unicode (.utf32 (some .little)), ["utf_32_le", "utf_32le"]),
    (utf7, ["utf_7", "utf7", "u7", "unicode_1_1_utf_7"])]

/-- The East Asian sets, with their names. -/
def eastAsianNames : List (Charset × List String) :=
  [(eastAsian .shiftJis, ["shift_jis", "csshiftjis", "s_jis", "shiftjis", "sjis",
      "x_mac_japanese"]),
    (eastAsian .vendorShiftJis, ["cp932", "932", "ms932", "ms_kanji", "mskanji"]),
    (eastAsian .eucJapanese, ["euc_jp", "eucjp", "u_jis", "ujis"]),
    (eastAsian (.widerShiftJis .later), ["shift_jis_2004", "s_jis_2004", "shiftjis2004",
      "sjis_2004"]),
    (eastAsian (.widerShiftJis .first), ["shift_jisx0213", "s_jisx0213", "shiftjisx0213",
      "sjisx0213"]),
    (eastAsian (.widerEucJapanese .later), ["euc_jis_2004", "euc_jis2004", "eucjis2004",
      "jisx0213"]),
    (eastAsian (.widerEucJapanese .first), ["euc_jisx0213", "eucjisx0213"]),
    (eastAsian (.escaped .japanese), ["iso2022_jp", "csiso2022jp", "iso2022jp", "iso_2022_jp"]),
    (eastAsian (.escaped .japaneseFurther), ["iso2022_jp_1", "iso2022jp_1", "iso_2022_jp_1"]),
    (eastAsian (.escaped .japaneseHalfWidth), ["iso2022_jp_ext", "iso2022jp_ext",
      "iso_2022_jp_ext"]),
    (eastAsian (.escaped .manyLanguages), ["iso2022_jp_2", "iso2022jp_2", "iso_2022_jp_2"]),
    (eastAsian (.escaped (.widerJapanese .first)), ["iso2022_jp_3", "iso2022jp_3",
      "iso_2022_jp_3"]),
    (eastAsian (.escaped (.widerJapanese .later)), ["iso2022_jp_2004", "iso2022jp_2004",
      "iso_2022_jp_2004"]),
    (eastAsian .hanzi, ["gb2312", "chinese", "csiso58gb231280", "euc_cn", "euccn",
      "eucgb2312_cn", "gb2312_1980", "gb2312_80", "iso_ir_58", "x_mac_simp_chinese"]),
    (eastAsian .extendedHanzi, ["gbk", "936", "cp936", "ms936"]),
    (eastAsian .largestHanzi, ["gb18030", "gb18030_2000"]),
    (eastAsian .tildes, ["hz", "hz_gb", "hz_gb_2312", "hzgb"]),
    (eastAsian .traditional, ["big5", "big5_tw", "csbig5", "x_mac_trad_chinese"]),
    (eastAsian .vendorTraditional, ["cp950", "950", "ms950"]),
    (eastAsian .hongKong, ["big5hkscs", "big5_hkscs", "hkscs"]),
    (eastAsian .combining, ["johab", "cp1361", "ms1361"]),
    (eastAsian .korean, ["euc_kr", "euckr", "korean", "ks_c_5601", "ks_c_5601_1987",
      "ks_x_1001", "ksc5601", "ksx1001", "x_mac_korean"]),
    (eastAsian .vendorKorean, ["cp949", "949", "ms949", "uhc"]),
    (eastAsian (.escaped .korean), ["iso2022_kr", "csiso2022kr", "iso2022kr", "iso_2022_kr"])]

/-- Further sets, and names of something else than a character set. -/
def otherNames : List (Charset × List String) :=
  [(codePage ⟨[], ""⟩, ["charmap"]),
    (backslash false, ["unicode_escape"]),
    (backslash true, ["raw_unicode_escape"]),
    (punycode, ["punycode"]),
    (unreadable .notText, ["base64_codec", "base64", "base_64"]),
    (unreadable .notText, ["bz2_codec", "bz2"]),
    (unreadable .notText, ["hex_codec", "hex"]),
    (unreadable .notText, ["quopri_codec", "quopri", "quoted_printable", "quotedprintable"]),
    (unreadable .notText, ["uu_codec", "uu"]),
    (unreadable .notText, ["zlib_codec", "zip", "zlib"]),
    (unreadable .notBytes, ["rot_13", "rot13"]),
    (unreadable .strictOnly, ["idna"]),
    (unreadable .undefined, ["undefined"])]

/-- All character sets with their names. -/
def all : List (Charset × List String) :=
  unicodeNames ++ codePages.map (fun page => (codePage page, page.names)) ++ eastAsianNames ++
    otherNames

/-- The character set with a name. In the names that come after the first, underscores may be
written as points. A null character may stand in no name. -/
def named? (name : List Char) : Option Charset :=
  let plain := plainName name
  let exact := String.ofList plain
  let loose := String.ofList (plain.map fun c => if c == '.' then '_' else c)
  if name.contains '\x00' then some (unreadable .nullCharacter)
  else
    (all.find? fun entry => entry.2.contains exact || (entry.2.drop 1).contains loose).map Prod.fst

end Charset

end SchemaBindings.Text
