import Mathlib.Data.List.TakeWhile
import SchemaBindings.Json.Reader
import SchemaBindings.Proofs.Number.Shortest
/-!
# Decimal digits

The value of a list of digits, part by part (`digitsValue_append`), and how many digits it has
(`hasDigits_digitsValue`). A number with a point or an exponent is the one nearest to the value of
its digits (`floatOf_eq_nearest`). Digits are read up to the first character that is none
(`readDigits_append`).
-/

set_option autoImplicit false
set_option relaxedAutoImplicit false

namespace SchemaBindings.Json

open SchemaBindings.Text

/-! ### Values -/

/-- A text of nothing but decimal digits. -/
def AllDigits (text : List Char) : Prop :=
  ∀ c ∈ text, isDigit c = true

theorem allDigits_append_iff {front back : List Char} :
    AllDigits (front ++ back) ↔ AllDigits front ∧ AllDigits back :=
  List.forall_mem_append

theorem isDigit_iff {c : Char} : isDigit c = true ↔ 0x30 ≤ c.toNat ∧ c.toNat ≤ 0x39 := by
  rw [isDigit, Bool.and_eq_true, decide_eq_true_eq, decide_eq_true_eq]
  exact Iff.rfl

theorem allDigits_digitChars (n : ℕ) : AllDigits (Binary64.digitChars n) := fun _ hc ↦
  isDigit_iff.mpr (Char.isDigit_iff_toNat.mp
    (Nat.isDigit_of_mem_toDigits (by decide) (by decide) hc))

theorem allDigits_zeros (count : ℕ) : AllDigits (List.replicate count '0') := fun _ hc ↦
  List.eq_of_mem_replicate hc ▸ rfl

theorem digitsValue_eq (digits : List Char) :
    digitsValue digits = Nat.ofDigitChars 10 digits 0 := by
  simp only [digitsValue, Nat.ofDigitChars_eq_foldl, mul_comm]
  rfl

theorem digitsValue_append (front back : List Char) :
    digitsValue (front ++ back) = digitsValue front * 10 ^ back.length + digitsValue back := by
  rw [digitsValue_eq, Nat.ofDigitChars_append, Nat.ofDigitChars_eq_ofDigitChars_zero,
    ← digitsValue_eq, ← digitsValue_eq, mul_comm]

theorem digitsValue_cons (c : Char) (rest : List Char) :
    digitsValue (c :: rest) = (c.toNat - 0x30) * 10 ^ rest.length + digitsValue rest := by
  rw [← List.singleton_append, digitsValue_append]
  simp [digitsValue]

theorem digitsValue_zeros (count : ℕ) : digitsValue (List.replicate count '0') = 0 := by
  rw [digitsValue_eq, Nat.ofDigitChars_replicate_zero, mul_zero]

theorem digitsValue_digitChars (n : ℕ) : digitsValue (Binary64.digitChars n) = n := by
  rw [digitsValue_eq, Binary64.digitChars, Nat.ofDigitChars_ten_toDigits]

theorem digitsValue_lt {digits : List Char} (hdigits : AllDigits digits) :
    digitsValue digits < 10 ^ digits.length := by
  induction digits with
  | nil => exact Nat.one_pos
  | cons c rest ih =>
    obtain ⟨hc, hrest⟩ := List.forall_mem_cons.mp hdigits
    have hdigit : c.toNat - 0x30 ≤ 9 := by
      have := (isDigit_iff.mp hc).2
      omega
    rw [digitsValue_cons, List.length_cons, pow_succ']
    calc (c.toNat - 0x30) * 10 ^ rest.length + digitsValue rest
        < 9 * 10 ^ rest.length + 10 ^ rest.length :=
          add_lt_add_of_le_of_lt (Nat.mul_le_mul_right _ hdigit) (ih hrest)
      _ = 10 * 10 ^ rest.length := by ring

/-- Zeros in front do not count. -/
theorem digitsValue_dropWhile (digits : List Char) :
    digitsValue (digits.dropWhile (· == '0')) = digitsValue digits := by
  induction digits with
  | nil => rfl
  | cons c rest ih =>
    rw [List.dropWhile_cons]
    split_ifs with hzero
    · rw [beq_iff_eq] at hzero
      rw [ih, hzero, digitsValue_cons]
      exact (Nat.zero_add _).symm.trans (by rw [show '0'.toNat - 0x30 = 0 from rfl, zero_mul])
    · rfl

/-- Digits of which the first is not zero are as many as their value has. -/
theorem hasDigits_digitsValue {digits : List Char} (hdigits : AllDigits digits)
    (hhead : digits.head? ≠ some '0') :
    Binary64.HasDigits (digitsValue digits) digits.length := by
  intro hvalue
  refine ⟨?_, digitsValue_lt hdigits⟩
  cases digits with
  | nil => exact absurd rfl hvalue
  | cons c rest =>
    have hpositive : 1 ≤ c.toNat - 0x30 := by
      have hc := (isDigit_iff.mp (hdigits c List.mem_cons_self)).1
      have hne : c.toNat ≠ 0x30 := fun heq ↦
        hhead (congrArg some (Char.toNat_inj.mp heq))
      omega
    rw [digitsValue_cons, List.length_cons, Nat.add_sub_cancel]
    exact (Nat.le_mul_of_pos_left _ hpositive).trans (Nat.le_add_right _ _)

/-- A number is the one nearest to the value of its digits. -/
theorem floatOf_eq_nearest (negative : Bool) {whole fraction : List Char}
    (hdigits : AllDigits (whole ++ fraction)) (exponent : ℤ) :
    floatOf negative whole fraction exponent = .float (Binary64.nearest negative
      (digitsValue (whole ++ fraction) * 10 ^ (exponent - fraction.length))) := by
  have hall : AllDigits ((whole ++ fraction).dropWhile (· == '0')) := fun c hc ↦
    hdigits c ((List.dropWhile_sublist _).mem hc)
  have hhead : ((whole ++ fraction).dropWhile (· == '0')).head? ≠ some '0' := by
    have hnot := List.head?_dropWhile_not (· == '0') (whole ++ fraction)
    intro hzero
    rw [hzero] at hnot
    exact absurd hnot (by decide)
  rw [floatOf, Binary64.ofDecimal_eq_nearest _ (hasDigits_digitsValue hall hhead),
    digitsValue_dropWhile]

/-- The digits of a number other than zero do not begin with zero, since the others alone would have
too small a value. -/
theorem head?_digitChars_ne {n : ℕ} (hn : n ≠ 0) : (Binary64.digitChars n).head? ≠ some '0' := by
  intro hhead
  obtain ⟨rest, hrest⟩ := List.head?_eq_some_iff.mp hhead
  have hlow := (Binary64.hasDigits_digitChars n hn).1
  have hdigits := allDigits_digitChars n
  have hvalue := digitsValue_digitChars n
  rw [hrest] at hlow hdigits hvalue
  rw [digitsValue_cons] at hvalue
  have hbelow := digitsValue_lt (List.forall_mem_cons.mp hdigits).2
  rw [List.length_cons, Nat.add_sub_cancel] at hlow
  have hzero : '0'.toNat - 0x30 = 0 := rfl
  rw [hzero, zero_mul, zero_add] at hvalue
  omega

/-! ### Reading digits -/

/-- A text that does not go on with digits. -/
def EndsDigits (rest : List Char) : Prop :=
  ∀ c ∈ rest.head?, isDigit c = false

theorem takeWhile_isDigit_append {digits rest : List Char} (hdigits : AllDigits digits)
    (hrest : EndsDigits rest) : (digits ++ rest).takeWhile isDigit = digits := by
  rw [List.takeWhile_append_of_pos hdigits]
  cases rest with
  | nil => rw [List.takeWhile_nil, List.append_nil]
  | cons c rest => rw [List.takeWhile_cons_of_neg (by simp [hrest c rfl]), List.append_nil]

theorem dropWhile_isDigit_append {digits rest : List Char} (hdigits : AllDigits digits)
    (hrest : EndsDigits rest) : (digits ++ rest).dropWhile isDigit = rest := by
  rw [List.dropWhile_append_of_pos hdigits]
  cases rest with
  | nil => rfl
  | cons c rest => rw [List.dropWhile_cons_of_neg (by simp [hrest c rfl])]

theorem readDigits_append {digits rest : List Char} (hsome : digits ≠ [])
    (hdigits : AllDigits digits) (hrest : EndsDigits rest) :
    readDigits (digits ++ rest) = .ok (digits, rest) := by
  cases digits with
  | nil => exact absurd rfl hsome
  | cons c digits =>
    obtain ⟨hc, hdigits⟩ := List.forall_mem_cons.mp hdigits
    rw [List.cons_append, readDigits, if_pos hc, takeWhile_isDigit_append hdigits hrest,
      dropWhile_isDigit_append hdigits hrest]

end SchemaBindings.Json
