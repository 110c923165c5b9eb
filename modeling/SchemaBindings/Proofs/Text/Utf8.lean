import Mathlib.Tactic.SplitIfs
import SchemaBindings.Text.Utf8
/-!
# Reading UTF-8 back

What the reader makes of a well formed sequence is said by the number of its bytes (`utf8Front_one`
to `utf8Front_four`). From these, the bytes of a character are read as that character
(`utf8Front_utf8Char`), so the bytes of a text are read as that text (`decodeUtf8_utf8`).
-/

set_option autoImplicit false
set_option relaxedAutoImplicit false

namespace SchemaBindings.Text

theorem toNat_toUInt8 {n : Nat} (hn : n < 256) : n.toUInt8.toNat = n :=
  UInt8.toNat_ofNat_of_lt' hn

theorem isContinuation_eq_true {byte : Nat} (hlow : 0x80 ≤ byte) (hhigh : byte ≤ 0xbf) :
    isContinuation byte = true := by
  simp [isContinuation, hlow, hhigh]

/-! ### Well formed sequences, by their number of bytes -/

variable {first second third fourth : UInt8} {more : List UInt8}

theorem utf8Front_one (hfirst : first.toNat < 0x80) :
    utf8Front first more = .char (Char.ofNat first.toNat) 1 := by
  have hwidth : utf8Width? first.toNat = some 1 := if_pos hfirst
  simp only [utf8Front, hwidth]

theorem utf8Front_two (hlow : 0xc2 ≤ first.toNat) (hhigh : first.toNat ≤ 0xdf)
    (hsecond : isContinuation second.toNat = true) :
    utf8Front first (second :: more) =
      .char (Char.ofNat ((first.toNat - 0xc0) * 0x40 + (second.toNat - 0x80))) 2 := by
  have hwidth : utf8Width? first.toNat = some 2 := by
    rw [utf8Width?, if_neg (by omega), if_pos (by simp [hlow, hhigh])]
  simp only [utf8Front, hwidth, List.take_succ_cons, List.map_cons]
  rw [if_pos hsecond]

theorem utf8Front_three (hlow : 0xe0 ≤ first.toNat) (hhigh : first.toNat ≤ 0xef)
    (hsecond : secondFits first.toNat second.toNat = true)
    (hthird : isContinuation third.toNat = true) :
    utf8Front first (second :: third :: more) =
      .char (Char.ofNat ((first.toNat - 0xe0) * 0x1000 + (second.toNat - 0x80) * 0x40 +
        (third.toNat - 0x80))) 3 := by
  have hwidth : utf8Width? first.toNat = some 3 := by
    rw [utf8Width?, if_neg (by omega), if_neg (by simp; omega), if_pos (by simp [hlow, hhigh])]
  simp only [utf8Front, hwidth, List.take_succ_cons, List.map_cons, hsecond, hthird]
  rfl

theorem utf8Front_four (hlow : 0xf0 ≤ first.toNat) (hhigh : first.toNat ≤ 0xf4)
    (hsecond : secondFits first.toNat second.toNat = true)
    (hthird : isContinuation third.toNat = true)
    (hfourth : isContinuation fourth.toNat = true) :
    utf8Front first (second :: third :: fourth :: more) =
      .char (Char.ofNat ((first.toNat - 0xf0) * 0x40000 + (second.toNat - 0x80) * 0x1000 +
        (third.toNat - 0x80) * 0x40 + (fourth.toNat - 0x80))) 4 := by
  have hwidth : utf8Width? first.toNat = some 4 := by
    rw [utf8Width?, if_neg (by omega), if_neg (by simp; omega), if_neg (by simp; omega),
      if_pos (by simp [hlow, hhigh])]
  simp only [utf8Front, hwidth, List.take_succ_cons, List.map_cons, hsecond, hthird, hfourth]
  rfl

/-- The second byte of three fits the first: the code is no overlong form and no surrogate. -/
theorem secondFits_three {code : Nat} (hlow : 0x800 ≤ code) (hhigh : code < 0x10000)
    (hsurrogate : code < 0xd800 ∨ 0xdfff < code) :
    secondFits (0xe0 + code / 0x1000) (0x80 + code / 0x40 % 0x40) = true := by
  rw [secondFits, isContinuation_eq_true (by omega) (by omega)]
  split_ifs <;> simp <;> omega

/-- The second byte of four fits the first: the code is no overlong form, and a code point. -/
theorem secondFits_four {code : Nat} (hlow : 0x10000 ≤ code) (hhigh : code < 0x110000) :
    secondFits (0xf0 + code / 0x40000) (0x80 + code / 0x1000 % 0x40) = true := by
  rw [secondFits, isContinuation_eq_true (by omega) (by omega)]
  split_ifs <;> simp <;> omega

/-! ### Written and read -/

/-- The bytes of a character, whatever follows them, are read as that character. -/
theorem utf8Front_utf8Char (c : Char) (more : List UInt8) :
    ∃ first rest, utf8Char c = first :: rest ∧
      utf8Front first (rest ++ more) = .char c (utf8Char c).length := by
  have hvalid : c.toNat < 0xd800 ∨ 0xdfff < c.toNat ∧ c.toNat < 0x110000 := c.valid
  -- Each six bits of the code, with the mark of a continuing byte, fill one byte.
  have hlow := toNat_toUInt8 (show 0x80 + c.toNat % 0x40 < 256 by omega)
  have hmiddle := toNat_toUInt8 (show 0x80 + c.toNat / 0x40 % 0x40 < 256 by omega)
  have hhigh := toNat_toUInt8 (show 0x80 + c.toNat / 0x1000 % 0x40 < 256 by omega)
  rw [utf8Char]
  split_ifs with hone htwo hthree
  · have hfirst := toNat_toUInt8 (show c.toNat < 256 by omega)
    refine ⟨_, _, rfl, (utf8Front_one (by omega)).trans ?_⟩
    rw [hfirst, Char.ofNat_toNat]
    rfl
  · have hfirst := toNat_toUInt8 (show 0xc0 + c.toNat / 0x40 < 256 by omega)
    refine ⟨_, _, rfl, (utf8Front_two (by omega) (by omega)
      (isContinuation_eq_true (by omega) (by omega))).trans ?_⟩
    have hcode : (0xc0 + c.toNat / 0x40 - 0xc0) * 0x40 + (0x80 + c.toNat % 0x40 - 0x80) =
        c.toNat := by
      omega
    rw [hfirst, hlow, hcode, Char.ofNat_toNat]
    rfl
  · have hfirst := toNat_toUInt8 (show 0xe0 + c.toNat / 0x1000 < 256 by omega)
    refine ⟨_, _, rfl, (utf8Front_three (by omega) (by omega)
      (by rw [hfirst, hmiddle]; exact secondFits_three (by omega) hthree (by omega))
      (isContinuation_eq_true (by omega) (by omega))).trans ?_⟩
    have hcode : (0xe0 + c.toNat / 0x1000 - 0xe0) * 0x1000 +
        (0x80 + c.toNat / 0x40 % 0x40 - 0x80) * 0x40 + (0x80 + c.toNat % 0x40 - 0x80) =
          c.toNat := by
      omega
    rw [hfirst, hmiddle, hlow, hcode, Char.ofNat_toNat]
    rfl
  · have hfirst := toNat_toUInt8 (show 0xf0 + c.toNat / 0x40000 < 256 by omega)
    refine ⟨_, _, rfl, (utf8Front_four (by omega) (by omega)
      (by rw [hfirst, hhigh]; exact secondFits_four (by omega) (by omega))
      (isContinuation_eq_true (by omega) (by omega))
      (isContinuation_eq_true (by omega) (by omega))).trans ?_⟩
    have hcode : (0xf0 + c.toNat / 0x40000 - 0xf0) * 0x40000 +
        (0x80 + c.toNat / 0x1000 % 0x40 - 0x80) * 0x1000 +
        (0x80 + c.toNat / 0x40 % 0x40 - 0x80) * 0x40 + (0x80 + c.toNat % 0x40 - 0x80) =
          c.toNat := by
      omega
    rw [hfirst, hhigh, hmiddle, hlow, hcode, Char.ofNat_toNat]
    rfl

/-- The front of the bytes of a text is its first character, with the bytes of the others behind. -/
theorem utf8Front_utf8 (c : Char) (text : List Char) :
    ∃ first rest size, utf8 (c :: text) = first :: rest ∧
      utf8Front first rest = .char c size ∧ rest.drop (size - 1) = utf8 text := by
  obtain ⟨first, rest, hbytes, hfront⟩ := utf8Front_utf8Char c (utf8 text)
  refine ⟨first, rest ++ utf8 text, _, ?_, hfront, ?_⟩
  · rw [utf8, List.flatMap_cons, hbytes]
    rfl
  · rw [hbytes, List.length_cons, Nat.add_sub_cancel, List.drop_left]

/-- The bytes of a text are read as that text, from whatever place they start. -/
theorem decodeUtf8From_utf8 (place : Nat) (text : List Char) :
    decodeUtf8From place (utf8 text) = .ok text := by
  induction text generalizing place with
  | nil => rw [utf8, List.flatMap_nil, decodeUtf8From]
  | cons c text ih =>
    obtain ⟨first, rest, size, hbytes, hfront, hdrop⟩ := utf8Front_utf8 c text
    rw [hbytes, decodeUtf8From, hfront]
    simp only [hdrop, ih]
    rfl

theorem decodeUtf8_utf8 (text : List Char) : decodeUtf8 (utf8 text) = .ok text :=
  decodeUtf8From_utf8 0 text

end SchemaBindings.Text
