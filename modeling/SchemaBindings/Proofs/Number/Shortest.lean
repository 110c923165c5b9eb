import SchemaBindings.Proofs.Number.Rounding
/-!
# Shortest digits

The digits that a number is written with read back as that number (`nearest_shortest`). A candidate
is taken because it reads back; the whole expansion, which stands in when there is none, has the
value of the number (`value_expansion`).
-/

set_option autoImplicit false
set_option relaxedAutoImplicit false

namespace SchemaBindings.Binary64

theorem hasDigits_digitChars (n : ℕ) : HasDigits n (digitChars n).length := by
  intro hn
  have hpos : 0 < (digitChars n).length := Nat.length_toDigits_pos
  have hle := Nat.length_toDigits_le_iff (b := 10) (n := n) (k := (digitChars n).length - 1)
    (by decide)
  have hlt := (Nat.length_toDigits_le_iff (b := 10) (n := n) (by decide) hpos).mp le_rfl
  refine ⟨?_, hlt⟩
  rcases Nat.eq_zero_or_pos ((digitChars n).length - 1) with hone | hmore
  · rw [hone]
    exact Nat.pos_of_ne_zero hn
  · have hlong : ¬ (digitChars n).length ≤ (digitChars n).length - 1 := by omega
    exact not_lt.mp (mt (hle hmore).mpr hlong)

/-- The value of a decimal number. -/
def Decimal.value (decimal : Decimal) : ℚ :=
  decimal.digits * 10 ^ decimal.exponent

theorem value_expansion (mantissa : ℕ) (exponent : ℤ) :
    (expansion mantissa exponent).value = value mantissa exponent := by
  rw [expansion, value]
  split_ifs with hwhole
  · obtain ⟨k, rfl⟩ := Int.eq_ofNat_of_zero_le hwhole
    simp [Decimal.value, Nat.shiftLeft_eq]
  · obtain ⟨k, rfl⟩ : ∃ k : ℕ, exponent = -k := ⟨(-exponent).toNat, by omega⟩
    have hten : (10 : ℚ) ^ k = 5 ^ k * 2 ^ k := by rw [← mul_pow]; norm_num
    simp only [Decimal.value, neg_neg, Int.toNat_natCast, Nat.pow_eq, Nat.cast_mul, Nat.cast_pow,
      Nat.cast_ofNat, zpow_neg, zpow_natCast, hten]
    field_simp

/-- A decimal number that reads back has the number for the nearest to its value. -/
theorem nearest_of_readsBack {mantissa : ℕ} {exponent : ℤ} {decimal : Decimal}
    (hreads : readsBack mantissa exponent decimal = true) :
    nearest false decimal.value = finite false mantissa exponent := by
  rw [readsBack, beq_iff_eq, ofDecimal_eq_nearest _ (hasDigits_digitChars _)] at hreads
  exact hreads

/-- The number nearest to the shortest digits of a number is that number. -/
theorem IsCanonical.nearest_shortest {mantissa : ℕ} {exponent : ℤ}
    (hcanonical : IsCanonical mantissa exponent) (hmantissa : mantissa ≠ 0) (negative : Bool) :
    nearest negative (shortest mantissa exponent).value = finite negative mantissa exponent := by
  refine nearest_eq_finite ?_ negative
  unfold shortest
  dsimp only
  split
  · next decimal hfound => exact nearest_of_readsBack (List.find?_some hfound)
  · rw [value_expansion]
    exact hcanonical.nearest_value false hmantissa

/-- Digits that read back as a number other than zero are not zero. -/
theorem IsCanonical.digits_shortest_ne_zero {mantissa : ℕ} {exponent : ℤ}
    (hcanonical : IsCanonical mantissa exponent) (hmantissa : mantissa ≠ 0) :
    (shortest mantissa exponent).digits ≠ 0 := by
  intro hzero
  have hnearest := hcanonical.nearest_shortest hmantissa false
  rw [Decimal.value, hzero, Nat.cast_zero, zero_mul, nearest_zero] at hnearest
  cases hnearest
  exact hmantissa rfl

end SchemaBindings.Binary64
