import SchemaBindings.Json.Reader
import SchemaBindings.Json.Writer
import SchemaBindings.Proofs.Text.Quoted
/-!
# Strings in a text

The escape of each character is read back as that character (`readString_escapeChar`): a letter
behind a backslash, four hexadecimal digits, or two such groups for a character beyond the first
plane. A string that is written is read back (`readString_flatMap_escapeChar`).
-/

set_option autoImplicit false
set_option relaxedAutoImplicit false

namespace SchemaBindings.Json

open SchemaBindings.Text

/-! ### Hexadecimal digits -/

theorem length_le_utf8Size (text : List Char) : text.length ≤ utf8Size text := by
  induction text with
  | nil => exact Nat.zero_le _
  | cons c rest ih =>
    have hc : 1 ≤ (utf8Char c).length := by
      rw [utf8Char]
      split_ifs <;> simp
    rw [utf8Size, utf8, List.flatMap_cons, List.length_append, List.length_cons]
    rw [utf8Size, utf8] at ih
    omega

/-- Four digits of a number below `16 ^ 4` write it. The reader stays at the last of them. -/
theorem readHex4_hexDigits {unit : Nat} (hunit : unit < 0x10000) (rest : List Char) :
    readHex4 (hexDigits 4 unit ++ rest) = .ok (unit, hexDigit (unit % 16) :: rest) := by
  have hdigits : hexDigits 4 unit = [hexDigit (unit / 16 / 16 / 16 % 16),
      hexDigit (unit / 16 / 16 % 16), hexDigit (unit / 16 % 16), hexDigit (unit % 16)] := rfl
  have hvalue (n : Nat) : hexValue? (hexDigit (n % 16)) = some (n % 16) :=
    hexValue?_hexDigit (Nat.mod_lt n (by decide))
  have hsize : ¬ utf8Size ((hexDigits 4 unit ++ rest).take 4) < 4 := by
    have hle := length_le_utf8Size ((hexDigits 4 unit ++ rest).take 4)
    rw [hdigits] at hle ⊢
    exact not_lt.mpr hle
  unfold readHex4
  rw [if_neg hsize, hdigits]
  simp only [List.cons_append, List.nil_append, hvalue]
  congr 2
  omega

/-! ### Escapes -/

/-- A character of the first plane is escaped in one unit, which is no surrogate. -/
theorem readUnicodeEscape_of_lt {c : Char} (hc : c.toNat < 0x10000) (rest : List Char) :
    readUnicodeEscape (hexDigits 4 c.toNat ++ rest) = .ok (c, rest) := by
  have hvalid : c.toNat < 0xd800 ∨ 0xdfff < c.toNat ∧ c.toNat < 0x110000 := c.valid
  rw [readUnicodeEscape, readHex4_hexDigits hc]
  simp only [bind, Except.bind, List.drop_succ_cons, List.drop_zero]
  rw [if_neg (by simp; omega), if_neg (by simp; omega), Char.ofNat_toNat]
  rfl

/-- Two units that form a surrogate pair. -/
theorem readUnicodeEscape_pair {high low : Nat} (hhigh : high < 0x400) (hlow : low < 0x400)
    (rest : List Char) :
    readUnicodeEscape (hexDigits 4 (0xd800 + high) ++
      '\\' :: 'u' :: (hexDigits 4 (0xdc00 + low) ++ rest)) =
        .ok (Char.ofNat (0x10000 + high * 0x400 + low), rest) := by
  rw [readUnicodeEscape, readHex4_hexDigits (by omega)]
  simp only [bind, Except.bind, List.drop_succ_cons, List.drop_zero]
  rw [if_neg (by simp; omega), if_pos (by simp; omega), readHex4_hexDigits (by omega)]
  simp only [List.drop_succ_cons, List.drop_zero]
  rw [if_pos (by simp; omega), Nat.add_sub_cancel_left, Nat.add_sub_cancel_left]
  rfl

/-- A character beyond the first plane is escaped in a surrogate pair. -/
theorem readUnicodeEscape_of_le {c : Char} (hc : 0x10000 ≤ c.toNat) (rest : List Char) :
    readUnicodeEscape (hexDigits 4 (0xd800 + (c.toNat - 0x10000) / 0x400) ++
      '\\' :: 'u' :: (hexDigits 4 (0xdc00 + (c.toNat - 0x10000) % 0x400) ++ rest)) =
        .ok (c, rest) := by
  have hvalid : c.toNat < 0xd800 ∨ 0xdfff < c.toNat ∧ c.toNat < 0x110000 := c.valid
  have hcode : 0x10000 + (c.toNat - 0x10000) / 0x400 * 0x400 + (c.toNat - 0x10000) % 0x400 =
      c.toNat := by
    omega
  rw [readUnicodeEscape_pair (by omega) (by omega), hcode, Char.ofNat_toNat]

/-- A character is escaped by a letter, stands for itself, or is escaped by its number: in one unit,
or in a surrogate pair. -/
theorem escapeChar_cases (c : Char) :
    (∃ e, escapeChar c = ['\\', e] ∧ escaped? e = some c ∧ e ≠ 'u') ∨
      (escapeChar c = [c] ∧ c ≠ '"' ∧ c ≠ '\\' ∧ 0x20 ≤ c.toNat) ∨
      (escapeChar c = escapeUnit c.toNat ∧ c.toNat < 0x10000) ∨
      (escapeChar c = escapeUnit (0xd800 + (c.toNat - 0x10000) / 0x400) ++
        escapeUnit (0xdc00 + (c.toNat - 0x10000) % 0x400) ∧ 0x10000 ≤ c.toNat) := by
  have hletter (e d : Char) (hd : escapeChar d = ['\\', e]) (he : escaped? e = some d)
      (hu : e ≠ 'u') (hc : c = d) : ∃ e, escapeChar c = ['\\', e] ∧ escaped? e = some c ∧ e ≠ 'u' :=
    hc ▸ ⟨e, hd, he, hu⟩
  by_cases hquote : c = '"'
  · exact .inl (hletter '"' '"' rfl rfl (by decide) hquote)
  by_cases hslash : c = '\\'
  · exact .inl (hletter '\\' '\\' rfl rfl (by decide) hslash)
  by_cases hfeed : c = '\n'
  · exact .inl (hletter 'n' '\n' rfl rfl (by decide) hfeed)
  by_cases hreturn : c = '\r'
  · exact .inl (hletter 'r' '\r' rfl rfl (by decide) hreturn)
  by_cases htab : c = '\t'
  · exact .inl (hletter 't' '\t' rfl rfl (by decide) htab)
  by_cases hback : c = '\x08'
  · exact .inl (hletter 'b' '\x08' rfl rfl (by decide) hback)
  by_cases hform : c = '\x0c'
  · exact .inl (hletter 'f' '\x0c' rfl rfl (by decide) hform)
  right
  unfold escapeChar
  rw [if_neg hquote, if_neg hslash, if_neg hfeed, if_neg hreturn, if_neg htab, if_neg hback,
    if_neg hform]
  by_cases hprintable : (0x20 ≤ c.toNat && c.toNat ≤ 0x7e) = true
  · rw [if_pos hprintable]
    rw [Bool.and_eq_true, decide_eq_true_eq] at hprintable
    exact .inl ⟨rfl, hquote, hslash, hprintable.1⟩
  · rw [if_neg hprintable]
    by_cases hplane : c.toNat < 0x10000
    · exact .inr (.inl ⟨if_pos hplane, hplane⟩)
    · exact .inr (.inr ⟨if_neg hplane, not_lt.mp hplane⟩)

/-- An escaped text is no shorter. -/
theorem length_le_length_flatMap_escapeChar (text : List Char) :
    text.length ≤ (text.flatMap escapeChar).length := by
  induction text with
  | nil => exact le_rfl
  | cons c text ih =>
    have hc : 1 ≤ (escapeChar c).length := by
      rcases escapeChar_cases c with ⟨e, heq, -⟩ | ⟨heq, -⟩ | ⟨heq, -⟩ | ⟨heq, -⟩ <;>
        simp [heq, escapeUnit]
    rw [List.flatMap_cons, List.length_append, List.length_cons]
    omega

section Step

variable {fuel : Nat} {rest text behind : List Char}
  (hread : readString fuel rest = .ok (text, behind))

include hread

/-- A character that stands for itself. -/
theorem readString_self {c : Char} (hquote : c ≠ '"') (hslash : c ≠ '\\') (hcode : 0x20 ≤ c.toNat) :
    readString (fuel + 1) (c :: rest) = .ok (c :: text, behind) := by
  unfold readString
  rw [if_neg hquote, if_neg hslash, if_neg (not_lt.mpr hcode), hread]
  rfl

/-- A letter behind a backslash. -/
theorem readString_letter {e c : Char} (hescaped : escaped? e = some c) (hletter : e ≠ 'u') :
    readString (fuel + 1) ('\\' :: e :: rest) = .ok (c :: text, behind) := by
  unfold readString
  rw [if_neg (by decide), if_pos rfl]
  split
  · next heq => cases heq
  · next heq =>
    cases heq
    exact absurd rfl hletter
  · next heq =>
    cases heq
    simp only [hescaped, hread]
    rfl

/-- A character that is escaped by its number. -/
theorem readString_unicode {after : List Char} {c : Char}
    (hescape : readUnicodeEscape after = .ok (c, rest)) :
    readString (fuel + 1) ('\\' :: 'u' :: after) = .ok (c :: text, behind) := by
  unfold readString
  rw [if_neg (by decide), if_pos rfl]
  simp only [hescape, bind, Except.bind, hread]
  rfl

theorem readString_escapeChar (c : Char) :
    readString (fuel + 1) (escapeChar c ++ rest) = .ok (c :: text, behind) := by
  rcases escapeChar_cases c with ⟨e, heq, hescaped, hu⟩ | ⟨heq, hquote, hslash, hcode⟩ |
    ⟨heq, hplane⟩ | ⟨heq, hplane⟩
  · rw [heq]
    exact readString_letter hread hescaped hu
  · rw [heq]
    exact readString_self hread hquote hslash hcode
  · rw [heq]
    exact readString_unicode hread (readUnicodeEscape_of_lt hplane rest)
  · have hescape := readUnicodeEscape_of_le hplane rest
    rw [heq]
    simp only [escapeUnit, List.cons_append, List.append_assoc]
    exact readString_unicode hread hescape

end Step

/-- A string that is written is read back, with fuel for each character and the quote behind. -/
theorem readString_flatMap_escapeChar {text : List Char} {fuel : Nat} (hfuel : text.length < fuel)
    (rest : List Char) :
    readString fuel (text.flatMap escapeChar ++ '"' :: rest) = .ok (text, rest) := by
  induction text generalizing fuel with
  | nil =>
    obtain ⟨fuel, rfl⟩ := Nat.exists_eq_add_one_of_ne_zero (Nat.ne_of_gt hfuel)
    rw [List.flatMap_nil, List.nil_append]
    unfold readString
    rw [if_pos rfl]
  | cons c text ih =>
    obtain ⟨fuel, rfl⟩ := Nat.exists_eq_add_one_of_ne_zero (Nat.ne_of_gt (Nat.zero_lt_of_lt hfuel))
    rw [List.flatMap_cons, List.append_assoc]
    exact readString_escapeChar (ih (Nat.lt_of_succ_lt_succ hfuel)) c

end SchemaBindings.Json
