import Mathlib.Algebra.Group.Nat.Defs
import Mathlib.Data.Nat.Basic
import SchemaBindings.Text.Quoted
/-!
# Reading literals back

A literal denotes the text it was made of (`readLiteral_quoted`), whatever quotes, backslashes,
control characters and characters beyond ASCII the text holds. All else that stands in a literal is
a quote, a backslash, or a letter or digit of ASCII (`mem_quoted`).
-/

set_option autoImplicit false
set_option relaxedAutoImplicit false

namespace SchemaBindings.Text

/-! ### Hexadecimal digits -/

theorem hexValue?_hexDigit {value : Nat} (hvalue : value < 16) :
    hexValue? (hexDigit value) = some value := by
  revert value
  decide

theorem mem_hexDigits {width value : Nat} {c : Char} (hc : c ∈ hexDigits width value) :
    ∃ digit < 16, c = hexDigit digit := by
  induction width generalizing value with
  | zero => simp [hexDigits] at hc
  | succ width ih =>
    rw [hexDigits, List.mem_append, List.mem_singleton] at hc
    rcases hc with hfront | hlast
    · exact ih hfront
    · exact ⟨value % 16, Nat.mod_lt _ (by decide), hlast⟩

/-- Reading the digits of a number gives the number. -/
theorem readHex_hexDigits {width value : Nat} (hvalue : value < 16 ^ width) :
    readHex (hexDigits width value) = some value := by
  induction width generalizing value with
  | zero =>
    rw [Nat.pow_zero, Nat.lt_one_iff] at hvalue
    rw [hvalue]
    rfl
  | succ width ih =>
    have hfront : value / 16 < 16 ^ width := by
      rw [Nat.pow_succ] at hvalue
      exact Nat.div_lt_of_lt_mul (by omega)
    have hread := ih hfront
    rw [readHex] at hread
    rw [readHex, hexDigits, List.foldlM_append, hread]
    simp only [Option.bind_eq_bind, Option.bind_some, List.foldlM_cons, List.foldlM_nil,
      hexValue?_hexDigit (Nat.mod_lt value (by decide : 0 < 16)), Option.map_some, Option.pure_def]
    rw [Option.some_inj]
    omega

/-- The digits of the number of a character denote the character. -/
theorem escapedChar?_hexDigits {width : Nat} {c : Char} (hc : c.toNat < 16 ^ width) :
    escapedChar? (hexDigits width c.toNat) = some c := by
  have hvalid : c.toNat.isValidChar := c.valid
  rw [escapedChar?, readHex_hexDigits hc, Option.bind_eq_bind, Option.bind_some, dif_pos hvalid]
  have hchar := Char.ofNat_toNat c
  rw [Char.ofNat, dif_pos hvalid] at hchar
  rw [hchar]

theorem length_hexDigits (width value : Nat) : (hexDigits width value).length = width := by
  induction width generalizing value with
  | zero => rfl
  | succ width ih => rw [hexDigits, List.length_append, ih, List.length_singleton]

theorem ne_of_mem_hexDigits {width value : Nat} {c : Char} (hc : c ∈ hexDigits width value) :
    c ∉ ['\'', '"', '\\', '\n'] := by
  obtain ⟨digit, hdigit, rfl⟩ := mem_hexDigits hc
  clear hc
  revert digit
  decide

/-! ### The inside of a literal -/

theorem toNat_lt (c : Char) : c.toNat < 0x110000 := by
  have hvalid : c.toNat.isValidChar := c.valid
  rcases hvalid with hlow | ⟨-, hhigh⟩
  · omega
  · exact hhigh

/-- The short escapes: the mark behind the backslash, and the character that it stands for. -/
def shortEscapes : List (Char × Char) :=
  [('n', '\n'), ('r', '\r'), ('t', '\t'), ('\\', '\\'), ('\'', '\''), ('"', '"')]

/-- The form of a character in a literal: a short escape, the character itself, or its number. -/
theorem quoteChar_cases {quote : Char} (hquote : quote = '\'' ∨ quote = '"') (c : Char) :
    (∃ mark, (mark, c) ∈ shortEscapes ∧ quoteChar quote c = ['\\', mark]) ∨
      (quoteChar quote c = [c] ∧ c ≠ quote ∧ c ≠ '\\' ∧ isPrintable c = true) ∨
      ∃ mark width, quoteChar quote c = '\\' :: mark :: hexDigits width c.toNat ∧
        (mark = 'x' ∧ width = 2 ∨ mark = 'u' ∧ width = 4 ∨ mark = 'U' ∧ width = 8) ∧
        c.toNat < 16 ^ width := by
  have hbound := toNat_lt c
  unfold quoteChar
  split_ifs with hself htab hfeed hreturn hprintable hbyte hword
  · refine .inl ⟨c, ?_, rfl⟩
    rw [Bool.or_eq_true, decide_eq_true_eq, decide_eq_true_eq] at hself
    rcases hself with rfl | rfl
    · rcases hquote with rfl | rfl <;> decide
    · decide
  · exact .inl ⟨'t', htab ▸ by decide, rfl⟩
  · exact .inl ⟨'n', hfeed ▸ by decide, rfl⟩
  · exact .inl ⟨'r', hreturn ▸ by decide, rfl⟩
  · rw [Bool.or_eq_true, decide_eq_true_eq, decide_eq_true_eq, not_or] at hself
    exact .inr (.inl ⟨rfl, hself.1, hself.2, hprintable⟩)
  · exact .inr (.inr ⟨'x', 2, rfl, by simp, by omega⟩)
  · exact .inr (.inr ⟨'u', 4, rfl, by simp, by omega⟩)
  · exact .inr (.inr ⟨'U', 8, rfl, by simp, by omega⟩)

theorem readQuoted_shortEscape (quote : Char) {mark c : Char} (hmark : (mark, c) ∈ shortEscapes)
    (rest : List Char) :
    readQuoted quote ('\\' :: mark :: rest) = (readQuoted quote rest).map (c :: ·) := by
  simp only [shortEscapes, List.mem_cons, Prod.mk.injEq, List.not_mem_nil, or_false] at hmark
  rcases hmark with ⟨rfl, rfl⟩ | ⟨rfl, rfl⟩ | ⟨rfl, rfl⟩ | ⟨rfl, rfl⟩ | ⟨rfl, rfl⟩ | ⟨rfl, rfl⟩
  all_goals
    rw [readQuoted]
    cases readQuoted quote rest <;> rfl

/-- A character written by its number, behind the mark of the width, is read as itself. -/
theorem readQuoted_hexDigits (quote : Char) {mark : Char} {width : Nat}
    (hmark : mark = 'x' ∧ width = 2 ∨ mark = 'u' ∧ width = 4 ∨ mark = 'U' ∧ width = 8) {c : Char}
    (hc : c.toNat < 16 ^ width) (rest : List Char) :
    readQuoted quote ('\\' :: mark :: (hexDigits width c.toNat ++ rest)) =
      (readQuoted quote rest).map (c :: ·) := by
  have hread := escapedChar?_hexDigits hc
  rcases hmark with ⟨rfl, rfl⟩ | ⟨rfl, rfl⟩ | ⟨rfl, rfl⟩
  all_goals
    simp only [hexDigits, List.nil_append, List.cons_append] at hread ⊢
    rw [readQuoted, hread]
    cases readQuoted quote rest <;> rfl

/-- A character that stands in a literal as itself is read as itself. -/
theorem readQuoted_cons {quote c : Char} (hquote : c ≠ quote) (hslash : c ≠ '\\')
    (hfeed : c ≠ '\n') (hreturn : c ≠ '\r') (rest : List Char) :
    readQuoted quote (c :: rest) = (readQuoted quote rest).map (c :: ·) := by
  rw [readQuoted, if_neg hquote, if_neg (by simp [hfeed, hreturn])]
  · cases readQuoted quote rest <;> rfl
  all_goals
    intros
    exact hslash ‹_›

/-- Each character is read back from the form it has in a literal. -/
theorem readQuoted_quoteChar {quote : Char} (hquote : quote = '\'' ∨ quote = '"') (c : Char)
    (rest : List Char) :
    readQuoted quote (quoteChar quote c ++ rest) = (readQuoted quote rest).map (c :: ·) := by
  rcases quoteChar_cases hquote c with ⟨mark, hmark, heq⟩ | ⟨heq, hself, hslash, hprintable⟩ |
    ⟨mark, width, heq, hmark, hwidth⟩
  · rw [heq]
    exact readQuoted_shortEscape quote hmark rest
  · have hfeed : c ≠ '\n' := by
      rintro rfl
      cases hprintable
    have hreturn : c ≠ '\r' := by
      rintro rfl
      cases hprintable
    rw [heq]
    exact readQuoted_cons hself hslash hfeed hreturn rest
  · rw [heq]
    exact readQuoted_hexDigits quote hmark hwidth rest

/-! ### Whole literals -/

theorem quoteFor_eq (text : List Char) : quoteFor text = '\'' ∨ quoteFor text = '"' := by
  unfold quoteFor
  split
  · exact Or.inr rfl
  · exact Or.inl rfl

/-- The inside of a literal is read up to the closing quote. -/
theorem readQuoted_flatMap_quoteChar {quote : Char} (hquote : quote = '\'' ∨ quote = '"')
    (text : List Char) :
    readQuoted quote (text.flatMap (quoteChar quote) ++ [quote]) = some text := by
  induction text with
  | nil => rcases hquote with rfl | rfl <;> rfl
  | cons c rest ih =>
    rw [List.flatMap_cons, List.append_assoc, readQuoted_quoteChar hquote, ih, Option.map_some]

/-- A literal denotes the text that it was made of. -/
theorem readLiteral_quoted (text : List Char) : readLiteral (quoted text) = some text := by
  have hread := readQuoted_flatMap_quoteChar (quoteFor_eq text) text
  unfold quoted
  rcases quoteFor_eq text with hquote | hquote
  all_goals
    rw [hquote] at hread ⊢
    exact hread

/-- The quotes, the backslash, and the letters and digits of escapes. -/
def literalMarks : List Char :=
  "'\"\\tnrxuU0123456789abcdef".toList

theorem hexDigit_mem_literalMarks {value : Nat} (hvalue : value < 16) :
    hexDigit value ∈ literalMarks := by
  revert value
  decide

/-- The form of a character in a literal consists of marks, apart from the character itself. -/
theorem mem_quoteChar {quote c d : Char} (hd : d ∈ quoteChar quote c) :
    d = c ∨ d ∈ literalMarks := by
  have hescape (mark : Char) (width : Nat) (hmark : mark ∈ literalMarks)
      (hmem : d ∈ '\\' :: mark :: hexDigits width c.toNat) : d ∈ literalMarks := by
    rcases List.mem_cons.mp hmem with rfl | hmem
    · decide
    rcases List.mem_cons.mp hmem with rfl | hmem
    · exact hmark
    obtain ⟨digit, hdigit, rfl⟩ := mem_hexDigits hmem
    exact hexDigit_mem_literalMarks hdigit
  unfold quoteChar at hd
  split_ifs at hd
  · rcases List.mem_cons.mp hd with rfl | hmem
    · exact Or.inr (by decide)
    · exact Or.inl (List.mem_singleton.mp hmem)
  · exact Or.inr (hescape 't' 0 (by decide) hd)
  · exact Or.inr (hescape 'n' 0 (by decide) hd)
  · exact Or.inr (hescape 'r' 0 (by decide) hd)
  · exact Or.inl (List.mem_singleton.mp hd)
  · exact Or.inr (hescape 'x' 2 (by decide) hd)
  · exact Or.inr (hescape 'u' 4 (by decide) hd)
  · exact Or.inr (hescape 'U' 8 (by decide) hd)

/-- What stands in a literal is a character of the text or a mark. -/
theorem mem_quoted {text : List Char} {c : Char} (hc : c ∈ quoted text) :
    c ∈ text ∨ c ∈ literalMarks := by
  have hquote : quoteFor text ∈ literalMarks := by
    rcases quoteFor_eq text with heq | heq
    · rw [heq]
      decide
    · rw [heq]
      decide
  rw [quoted, List.mem_cons, List.mem_append, List.mem_flatMap, List.mem_singleton] at hc
  rcases hc with rfl | ⟨d, hd, hform⟩ | rfl
  · exact Or.inr hquote
  · rcases mem_quoteChar hform with rfl | hmark
    · exact Or.inl hd
    · exact Or.inr hmark
  · exact Or.inr hquote

/-- A literal consists of printable characters. -/
theorem isPrintable_of_mem_quoted {text : List Char} {c : Char} (hc : c ∈ quoted text) :
    isPrintable c = true := by
  have hmarks : ∀ mark ∈ literalMarks, isPrintable mark = true :=
    List.all_eq_true.mp (by decide)
  have hquote := quoteFor_eq text
  have hself : isPrintable (quoteFor text) = true := by
    rcases hquote with heq | heq
    · exact hmarks _ (heq ▸ by decide)
    · exact hmarks _ (heq ▸ by decide)
  rw [quoted, List.mem_cons, List.mem_append, List.mem_flatMap, List.mem_singleton] at hc
  rcases hc with rfl | ⟨d, -, hform⟩ | rfl
  · exact hself
  · rcases quoteChar_cases hquote d with ⟨mark, hmark, heq⟩ | ⟨heq, -, -, hprintable⟩ |
      ⟨mark, width, heq, hmark, -⟩
    · have hescapes : ∀ escape ∈ shortEscapes, isPrintable escape.1 = true :=
        List.all_eq_true.mp (by decide)
      rw [heq, List.mem_cons, List.mem_singleton] at hform
      rcases hform with rfl | rfl
      · decide
      · exact hescapes _ hmark
    · rw [heq] at hform
      rwa [List.mem_singleton.mp hform]
    · rw [heq, List.mem_cons, List.mem_cons] at hform
      rcases hform with rfl | rfl | hmem
      · decide
      · rcases hmark with ⟨rfl, -⟩ | ⟨rfl, -⟩ | ⟨rfl, -⟩ <;> decide
      · obtain ⟨digit, hdigit, rfl⟩ := mem_hexDigits hmem
        exact hmarks _ (hexDigit_mem_literalMarks hdigit)
  · exact hself

end SchemaBindings.Text
