import SchemaBindings.Text.Quoted
import SchemaBindings.Text.Encoding
/-!
# Percent encoding

Characters that may not stand in a part of a URL are written as their bytes in UTF-8, each as a
percent sign and two hexadecimal digits. The percent sign itself may stand everywhere, so that a
part that is already encoded stays as it is.
-/

set_option autoImplicit false
set_option relaxedAutoImplicit false

namespace SchemaBindings.Fetch

open SchemaBindings.Text

/-- A byte as a percent sign and two hexadecimal digits. -/
def percentByte (byte : UInt8) : List Char :=
  ['%', (hexDigit (byte.toNat / 16)).toUpper, (hexDigit (byte.toNat % 16)).toUpper]

/-- A text in which every character that is not safe is encoded. -/
def percentEncode (safe : Char → Bool) (text : List Char) : List Char :=
  text.flatMap fun c => if safe c then [c] else (utf8Char c).flatMap percentByte

/-- The bytes of a text with encoded bytes in it. -/
def percentBytes : List Char → List UInt8
  | [] => []
  | '%' :: a :: b :: rest =>
    match hexValue? a, hexValue? b with
    | some high, some low => (high * 16 + low).toUInt8 :: percentBytes rest
    | _, _ => utf8Char '%' ++ percentBytes (a :: b :: rest)
  | c :: rest => utf8Char c ++ percentBytes rest

/-- A text without its encoding; bytes that are no UTF-8 become replacement characters. -/
def percentDecode (text : List Char) : List Char :=
  Encoding.utf8.decodeLenient (percentBytes text)

/-! ### Safe characters -/

/-- Whether a character is a visible ASCII character or a space. -/
def isPlain (c : Char) : Bool :=
  0x20 ≤ c.toNat && c.toNat < 0x7f

/-- Whether a character is plain and none of the given ones. -/
def isPlainExcept (marks : String) (c : Char) : Bool :=
  isPlain c && !marks.toList.contains c

/-- Whether a character may stand in the part behind a number sign. -/
def isFragmentSafe : Char → Bool :=
  isPlainExcept " \"<>\x60"

/-- Whether a character may stand in a query. -/
def isQuerySafe : Char → Bool :=
  isPlainExcept " \"#<>"

/-- Whether a character may stand in a path. -/
def isPathSafe : Char → Bool :=
  isPlainExcept " \"#<>?\x60\x7b\x7d"

/-- Whether a character may stand in a user name with a password. -/
def isUserSafe : Char → Bool :=
  isPlainExcept " \"#<>?\x60\x7b\x7d/;=@[\\]^|"

/-- Whether a character may stand in a host that is a name. -/
def isHostSafe : Char → Bool :=
  isPlainExcept " #<>?/:@[]^"

end SchemaBindings.Fetch
