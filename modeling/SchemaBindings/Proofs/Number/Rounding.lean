import Mathlib.Algebra.Order.Field.Power
import Mathlib.Algebra.Order.Floor.Semifield
import Mathlib.Data.Int.Log
import Mathlib.Data.Rat.Floor
import Mathlib.Tactic.FieldSimp
import Mathlib.Tactic.Linarith
import Mathlib.Tactic.NormNum
import Mathlib.Tactic.Positivity
import Mathlib.Tactic.Ring
import Mathlib.Tactic.SplitIfs
import SchemaBindings.Number.Binary64
/-!
# Rounding

The number nearest to a rational one (`nearest`), with the exponent read off the logarithm and a tie
going to the even mantissa. A fraction is read as the number nearest to its value
(`ofFraction_eq_nearest`), and so is a decimal number (`ofDecimal_eq_nearest`): what lies beyond the
bounds on its powers of ten is rounded to an infinity or to zero anyway. The mantissa and the
exponent that come out are in normal form (`isNormal_nearest`), and a number in that form is nearest
to its own value (`nearest_value`).
-/

set_option autoImplicit false
set_option relaxedAutoImplicit false

namespace SchemaBindings.Binary64

/-! ### The nearest integer -/

/-- The integer nearest to a number that is not negative, of two the even one. -/
def roundEven (r : ℚ) : ℕ :=
  if r - ⌊r⌋₊ < 1 / 2 then ⌊r⌋₊
  else if 1 / 2 < r - ⌊r⌋₊ then ⌊r⌋₊ + 1
  else ⌊r⌋₊ + ⌊r⌋₊ % 2

theorem roundEven_natCast (n : ℕ) : roundEven n = n := by
  rw [roundEven, Nat.floor_natCast, sub_self, if_pos (by norm_num)]

theorem le_roundEven {r : ℚ} {n : ℕ} (hle : (n : ℚ) ≤ r) : n ≤ roundEven r := by
  have hfloor : n ≤ ⌊r⌋₊ := Nat.le_floor hle
  rw [roundEven]
  split_ifs <;> omega

theorem roundEven_le {r : ℚ} {n : ℕ} (hr : 0 ≤ r) (hlt : r < n) : roundEven r ≤ n := by
  have hfloor : ⌊r⌋₊ < n := (Nat.floor_lt hr).mpr hlt
  rw [roundEven]
  split_ifs <;> omega

theorem roundEven_eq_zero {r : ℚ} (hlt : r < 1 / 2) : roundEven r = 0 := by
  have hfloor : ⌊r⌋₊ = 0 := Nat.floor_eq_zero.mpr (hlt.trans (by norm_num))
  rw [roundEven, hfloor, Nat.cast_zero, sub_zero, if_pos hlt]

/-- The quotient of two integers is rounded like their ratio: the remainder is compared with half
the divisor. -/
theorem roundQuotient_eq (numerator : ℕ) {denominator : ℕ} (hpos : 0 < denominator) :
    roundQuotient numerator denominator = roundEven (numerator / denominator) := by
  have hposQ : (0 : ℚ) < denominator := by exact_mod_cast hpos
  have hfraction : (numerator : ℚ) / denominator - (numerator / denominator : ℕ) =
      (numerator % denominator : ℕ) / denominator := by
    have hsplit : (numerator : ℚ) =
        denominator * (numerator / denominator : ℕ) + (numerator % denominator : ℕ) := by
      exact_mod_cast (Nat.div_add_mod numerator denominator).symm
    rw [eq_div_iff hposQ.ne', sub_mul, div_mul_cancel₀ _ hposQ.ne']
    linarith
  have hbelow : ((numerator % denominator : ℕ) : ℚ) / denominator < 1 / 2 ↔
      2 * (numerator % denominator) < denominator := by
    rw [div_lt_iff₀ hposQ, one_div_mul_eq_div, lt_div_iff₀' two_pos]
    exact_mod_cast Iff.rfl
  have habove : 1 / 2 < ((numerator % denominator : ℕ) : ℚ) / denominator ↔
      denominator < 2 * (numerator % denominator) := by
    rw [lt_div_iff₀ hposQ, one_div_mul_eq_div, div_lt_iff₀' two_pos]
    exact_mod_cast Iff.rfl
  simp only [roundEven, roundQuotient, Nat.floor_div_eq_div, hfraction, hbelow, habove]

/-! ### The exponent -/

theorem two_zpow_pos (exponent : ℤ) : (0 : ℚ) < 2 ^ exponent :=
  zpow_pos two_pos exponent

/-- Scaling divides by a power of two. -/
theorem scale_spec (numerator : ℕ) {denominator : ℕ} (hpos : 0 < denominator) (exponent : ℤ) :
    0 < (scale numerator denominator exponent).2 ∧
      ((scale numerator denominator exponent).1 : ℚ) / (scale numerator denominator exponent).2 =
        numerator / denominator / 2 ^ exponent := by
  rw [scale]
  split_ifs with hsign
  · obtain ⟨k, rfl⟩ := Int.eq_ofNat_of_zero_le hsign
    refine ⟨Nat.shiftLeft_eq _ _ ▸ by positivity, ?_⟩
    simp [Nat.shiftLeft_eq, div_div]
  · obtain ⟨k, rfl⟩ : ∃ k : ℕ, exponent = -k := ⟨(-exponent).toNat, by omega⟩
    refine ⟨hpos, ?_⟩
    simp [Nat.shiftLeft_eq, mul_div_right_comm]

/-- A logarithm is the exponent of a power below which the number does not fall, and whose double
it does not reach. -/
theorem log_eq_of_le_of_lt {r : ℚ} {exponent : ℤ} (hle : 2 ^ exponent ≤ r)
    (hlt : r < 2 ^ (exponent + 1)) : Int.log 2 r = exponent := by
  have hr : 0 < r := (two_zpow_pos exponent).trans_le hle
  have hlow := (Int.zpow_le_iff_le_log (b := 2) (by decide) hr).mp (by exact_mod_cast hle)
  have hhigh := (Int.lt_zpow_iff_log_lt (b := 2) (by decide) hr).mp (by exact_mod_cast hlt)
  omega

theorem two_zpow_log_le {r : ℚ} (hr : 0 < r) : 2 ^ Int.log 2 r ≤ r := by
  exact_mod_cast Int.zpow_log_le_self (b := 2) (by decide) hr

theorem lt_two_zpow_log (r : ℚ) : r < 2 ^ (Int.log 2 r + 1) := by
  exact_mod_cast Int.lt_zpow_succ_log_self (b := 2) (by decide) r

/-- The logarithm of a fraction is off by at most one from the difference of those of its parts. -/
theorem ratio_bounds {numerator denominator : ℕ} (hnumerator : 0 < numerator)
    (hdenominator : 0 < denominator) :
    (2 : ℚ) ^ ((numerator.log2 : ℤ) - denominator.log2 - 1) ≤ numerator / denominator ∧
      (numerator : ℚ) / denominator < 2 ^ ((numerator.log2 : ℤ) - denominator.log2 + 1) := by
  have hlow : (2 : ℚ) ^ numerator.log2 ≤ numerator := by
    exact_mod_cast Nat.log2_self_le hnumerator.ne'
  have hhigh : (numerator : ℚ) < 2 ^ (numerator.log2 + 1) := by
    exact_mod_cast (Nat.lt_log2_self (n := numerator))
  have hlow' : (2 : ℚ) ^ denominator.log2 ≤ denominator := by
    exact_mod_cast Nat.log2_self_le hdenominator.ne'
  have hhigh' : (denominator : ℚ) < 2 ^ (denominator.log2 + 1) := by
    exact_mod_cast (Nat.lt_log2_self (n := denominator))
  have hpos : (0 : ℚ) < denominator := by exact_mod_cast hdenominator
  constructor
  · rw [sub_sub, zpow_sub₀ two_ne_zero, zpow_natCast]
    exact div_le_div₀ (by positivity) hlow hpos (by exact_mod_cast hhigh'.le)
  · rw [sub_add_eq_add_sub, zpow_sub₀ two_ne_zero, zpow_natCast, ← Nat.cast_add_one, zpow_natCast]
    exact div_lt_div₀ hhigh hlow' (by positivity) (by positivity)

/-- The exponent of the last place of the number nearest to a positive one. -/
def placeExponent (r : ℚ) : ℤ :=
  max minExponent (Int.log 2 r - 52)

theorem exponentFor_eq {numerator denominator : ℕ} (hnumerator : 0 < numerator)
    (hdenominator : 0 < denominator) :
    exponentFor numerator denominator = placeExponent (numerator / denominator) := by
  obtain ⟨hlow, hhigh⟩ := ratio_bounds hnumerator hdenominator
  set guess : ℤ := (numerator.log2 : ℤ) - denominator.log2 - 52 with hguess
  obtain ⟨hpos, hscaled⟩ := scale_spec numerator hdenominator guess
  have htest : (scale numerator denominator guess).1 <
      (scale numerator denominator guess).2 <<< 52 ↔
        (numerator : ℚ) / denominator < 2 ^ (guess + 52) := by
    have hposQ : (0 : ℚ) < (scale numerator denominator guess).2 := by exact_mod_cast hpos
    rw [zpow_add₀ two_ne_zero, ← div_lt_iff₀' (two_zpow_pos guess), ← hscaled,
      div_lt_iff₀' hposQ, Nat.shiftLeft_eq]
    exact_mod_cast Iff.rfl
  simp only [exponentFor, placeExponent, ← hguess, htest]
  split_ifs with hbelow
  · have hlog : Int.log 2 ((numerator : ℚ) / denominator) = guess + 51 :=
      log_eq_of_le_of_lt (by convert hlow using 2; omega) (by convert hbelow using 2; omega)
    rw [hlog]
    congr 1
    omega
  · have hlog : Int.log 2 ((numerator : ℚ) / denominator) = guess + 52 :=
      log_eq_of_le_of_lt (not_lt.mp hbelow) (by convert hhigh using 2; omega)
    rw [hlog]
    congr 1
    omega

/-! ### The nearest number -/

/-- The number nearest to a rational one that is not negative, with the given sign. -/
def nearest (negative : Bool) (r : ℚ) : Binary64 :=
  if r = 0 then zero negative
  else
    let exponent := placeExponent r
    let mantissa := roundEven (r / 2 ^ exponent)
    let (mantissa, exponent) :=
      if mantissa = 1 <<< 53 then (1 <<< 52, exponent + 1) else (mantissa, exponent)
    if maxExponent < exponent then infinite negative else finite negative mantissa exponent

@[simp] theorem nearest_zero (negative : Bool) : nearest negative 0 = zero negative :=
  if_pos rfl

/-- A fraction is read as the number nearest to its value. -/
theorem ofFraction_eq_nearest (negative : Bool) (numerator : ℕ) {denominator : ℕ}
    (hpos : 0 < denominator) :
    ofFraction negative numerator denominator = nearest negative (numerator / denominator) := by
  rw [ofFraction]
  rcases Nat.eq_zero_or_pos numerator with rfl | hnumerator
  · rw [if_pos rfl, Nat.cast_zero, zero_div, nearest_zero]
  · have hratio : (numerator : ℚ) / denominator ≠ 0 := by positivity
    obtain ⟨hdivisor, hscaled⟩ :=
      scale_spec numerator hpos (placeExponent (numerator / denominator))
    rw [nearest, if_neg hnumerator.ne', if_neg hratio]
    simp only [exponentFor_eq hnumerator hpos, roundQuotient_eq _ hdivisor, hscaled]

/-! ### Normal form -/

/-- A mantissa and an exponent as they represent a number: the mantissa has 53 binary digits, or the
exponent is the least one. -/
structure IsCanonical (mantissa : ℕ) (exponent : ℤ) : Prop where
  mantissa_lt : mantissa < 2 ^ 53
  le_exponent : minExponent ≤ exponent
  exponent_le : exponent ≤ maxExponent
  full : 2 ^ 52 ≤ mantissa ∨ exponent = minExponent

/-- A number whose mantissa and exponent are those that represent its value. -/
def IsNormal : Binary64 → Prop
  | finite _ mantissa exponent => IsCanonical mantissa exponent
  | infinite _ | nan => True

theorem isNormal_zero (negative : Bool) : IsNormal (zero negative) :=
  ⟨by norm_num, le_rfl, by decide, .inr rfl⟩

theorem pow_le_div_iff (r : ℚ) (digits : ℕ) (exponent : ℤ) :
    ((2 ^ digits : ℕ) : ℚ) ≤ r / 2 ^ exponent ↔ 2 ^ (exponent + digits) ≤ r := by
  rw [le_div_iff₀' (two_zpow_pos exponent), zpow_add₀ two_ne_zero, zpow_natCast, Nat.cast_pow,
    Nat.cast_two]

/-- Measured in units of its last place, a positive number has at most 53 binary digits before the
point, and so many exactly, unless the exponent is the least one. -/
theorem scaled_bounds {r : ℚ} (hr : 0 < r) :
    r / 2 ^ placeExponent r < (2 ^ 53 : ℕ) ∧
      (((2 ^ 52 : ℕ) : ℚ) ≤ r / 2 ^ placeExponent r ∨
        placeExponent r = minExponent ∧ r / 2 ^ placeExponent r < (2 ^ 52 : ℕ)) := by
  have hlow := two_zpow_log_le hr
  have hhigh := lt_two_zpow_log r
  rw [← not_le, pow_le_div_iff, not_le, ← not_le (b := r / _), pow_le_div_iff, not_le]
  refine ⟨hhigh.trans_le (zpow_le_zpow_right₀ one_le_two ?_), ?_⟩
  · rw [placeExponent]
    omega
  · rcases le_or_gt minExponent (Int.log 2 r - 52) with hleast | hleast
    · rw [placeExponent, max_eq_right hleast]
      exact .inl (by simpa using hlow)
    · rw [placeExponent, max_eq_left hleast.le]
      exact .inr ⟨rfl, hhigh.trans_le (zpow_le_zpow_right₀ one_le_two (by push_cast; omega))⟩

/-- Whatever a number is rounded to is in normal form. -/
theorem isNormal_nearest (negative : Bool) {r : ℚ} (hr : 0 ≤ r) :
    IsNormal (nearest negative r) := by
  rw [nearest]
  split_ifs with hzero
  · exact isNormal_zero negative
  have hpos : 0 < r := lt_of_le_of_ne hr (Ne.symm hzero)
  obtain ⟨hbound, hfull⟩ := scaled_bounds hpos
  have hscaled : 0 ≤ r / 2 ^ placeExponent r := (div_pos hpos (two_zpow_pos _)).le
  have hexponent : minExponent ≤ placeExponent r := le_max_left _ _
  have hmantissa := roundEven_le hscaled hbound
  dsimp only
  split_ifs with hcarry hinfinite hinfinite
  · trivial
  · have hfull : 1 <<< 52 < 2 ^ 53 := by decide
    exact ⟨hfull, hexponent.trans (lt_add_one _).le, not_lt.mp hinfinite, .inl le_rfl⟩
  · trivial
  · refine ⟨lt_of_le_of_ne hmantissa hcarry, hexponent, not_lt.mp hinfinite, ?_⟩
    exact hfull.imp le_roundEven And.left

theorem isNormal_ofFraction (negative : Bool) (numerator : ℕ) {denominator : ℕ}
    (hpos : 0 < denominator) : IsNormal (ofFraction negative numerator denominator) := by
  rw [ofFraction_eq_nearest _ _ hpos]
  exact isNormal_nearest negative (by positivity)

theorem isNormal_ofDecimal (negative : Bool) (digits count : ℕ) (exponent : ℤ) :
    IsNormal (ofDecimal negative digits count exponent) := by
  rw [ofDecimal]
  split_ifs
  · exact isNormal_zero negative
  · trivial
  · exact isNormal_zero negative
  · exact isNormal_ofFraction _ _ one_pos
  · exact isNormal_ofFraction _ _ (Nat.pow_pos (by norm_num))

/-- The sign has no part in rounding. -/
theorem nearest_eq_finite {r : ℚ} {mantissa : ℕ} {exponent : ℤ}
    (hnearest : nearest false r = finite false mantissa exponent) (negative : Bool) :
    nearest negative r = finite negative mantissa exponent := by
  rw [nearest] at hnearest ⊢
  split_ifs at hnearest ⊢ with hzero
  · cases hnearest
    rfl
  · dsimp only at hnearest ⊢
    split_ifs at hnearest ⊢ <;> cases hnearest <;> rfl

/-! ### Exactness -/

/-- The value of a mantissa and an exponent. -/
def value (mantissa : ℕ) (exponent : ℤ) : ℚ :=
  mantissa * 2 ^ exponent

theorem value_pos {mantissa : ℕ} (hmantissa : mantissa ≠ 0) (exponent : ℤ) :
    0 < value mantissa exponent :=
  mul_pos (by exact_mod_cast Nat.pos_of_ne_zero hmantissa) (two_zpow_pos exponent)

theorem IsCanonical.placeExponent_value {mantissa : ℕ} {exponent : ℤ}
    (hcanonical : IsCanonical mantissa exponent) (hmantissa : mantissa ≠ 0) :
    placeExponent (value mantissa exponent) = exponent := by
  have hlog : Int.log 2 (value mantissa exponent) = mantissa.log2 + exponent := by
    have hlow : (2 : ℚ) ^ mantissa.log2 ≤ mantissa := by
      exact_mod_cast Nat.log2_self_le hmantissa
    have hhigh : (mantissa : ℚ) < 2 ^ (mantissa.log2 + 1) := by
      exact_mod_cast (Nat.lt_log2_self (n := mantissa))
    apply log_eq_of_le_of_lt
    · rw [value, zpow_add₀ two_ne_zero, zpow_natCast]
      gcongr
    · rw [value, add_right_comm, zpow_add₀ two_ne_zero, ← Nat.cast_add_one, zpow_natCast]
      gcongr
  have hdigits : mantissa.log2 ≤ 52 :=
    Nat.lt_succ_iff.mp ((Nat.log2_lt hmantissa).mpr hcanonical.mantissa_lt)
  have hleast := hcanonical.le_exponent
  rw [placeExponent, hlog]
  rcases hcanonical.full with hfull | hexponent
  · have hall : 52 ≤ mantissa.log2 := (Nat.le_log2 hmantissa).mpr hfull
    omega
  · omega

/-- A number in normal form is the number nearest to its value. -/
theorem IsCanonical.nearest_value {mantissa : ℕ} {exponent : ℤ}
    (hcanonical : IsCanonical mantissa exponent) (negative : Bool) (hmantissa : mantissa ≠ 0) :
    nearest negative (value mantissa exponent) = finite negative mantissa exponent := by
  have hscaled : value mantissa exponent / 2 ^ exponent = mantissa := by
    rw [value, mul_div_cancel_right₀ _ (two_zpow_pos exponent).ne']
  have hcarry : mantissa ≠ 1 <<< 53 := hcanonical.mantissa_lt.ne
  rw [nearest, if_neg (value_pos hmantissa exponent).ne']
  simp only [hcanonical.placeExponent_value hmantissa, hscaled, roundEven_natCast, if_neg hcarry,
    if_neg (not_lt.mpr hcanonical.exponent_le)]

/-! ### Beyond the bounds -/

/-- From `2 ^ 1024` on everything is rounded to an infinity. -/
theorem nearest_of_le (negative : Bool) {r : ℚ} (hle : 2 ^ (1024 : ℤ) ≤ r) :
    nearest negative r = infinite negative := by
  have hpos : 0 < r := (two_zpow_pos _).trans_le hle
  have hlog : 1024 ≤ Int.log 2 r :=
    (Int.zpow_le_iff_le_log (b := 2) (by decide) hpos).mp (by exact_mod_cast hle)
  have hexponent : maxExponent < placeExponent r := by
    rw [placeExponent, maxExponent]
    omega
  rw [nearest, if_neg hpos.ne']
  dsimp only
  split_ifs with hcarry hfinite
  · rfl
  · exact absurd (hexponent.trans (lt_add_one _)) hfinite
  · rfl

/-- Below `2 ^ -1075`, half of the least positive number, everything is rounded to zero. -/
theorem nearest_of_lt (negative : Bool) {r : ℚ} (hr : 0 ≤ r) (hlt : r < 2 ^ (-1075 : ℤ)) :
    nearest negative r = zero negative := by
  rw [nearest]
  split_ifs with hzero
  · rfl
  have hpos : 0 < r := lt_of_le_of_ne hr (Ne.symm hzero)
  have hlog : Int.log 2 r < -1075 :=
    (Int.lt_zpow_iff_log_lt (b := 2) (by decide) hpos).mp (by exact_mod_cast hlt)
  have hexponent : placeExponent r = minExponent := by
    rw [placeExponent, minExponent]
    omega
  have hhalf : r / 2 ^ minExponent < 1 / 2 := by
    rw [div_lt_iff₀ (two_zpow_pos _)]
    calc r < 2 ^ (-1075 : ℤ) := hlt
      _ = 1 / 2 * 2 ^ minExponent := by
        rw [minExponent, one_div, ← zpow_neg_one, ← zpow_add₀ two_ne_zero]
        rfl
  simp only [hexponent, roundEven_eq_zero hhalf]
  rfl

/-- A number from `2 ^ (52 + places)` on is rounded to one whose last place is as high. -/
theorem nearest_of_pow_le (negative : Bool) {r : ℚ} {places : ℤ} (hplaces : minExponent ≤ places)
    (hle : 2 ^ (52 + places) ≤ r) :
    nearest negative r = infinite negative ∨ ∃ mantissa exponent,
      nearest negative r = finite negative mantissa exponent ∧ 2 ^ 52 ≤ mantissa ∧
        places ≤ exponent := by
  have hpos : 0 < r := (two_zpow_pos _).trans_le hle
  have hlog : 52 + places ≤ Int.log 2 r :=
    (Int.zpow_le_iff_le_log (b := 2) (by decide) hpos).mp (by exact_mod_cast hle)
  have hexponent : places ≤ placeExponent r := by
    rw [placeExponent]
    omega
  have hmantissa : 2 ^ 52 ≤ roundEven (r / 2 ^ placeExponent r) := by
    refine le_roundEven ((pow_le_div_iff r 52 _).mpr ?_)
    have hleast : placeExponent r + 52 = Int.log 2 r := by
      rw [placeExponent]
      omega
    have hlow := two_zpow_log_le hpos
    rwa [← hleast] at hlow
  rw [nearest, if_neg hpos.ne']
  dsimp only
  split_ifs
  · exact .inl rfl
  · exact .inr ⟨_, _, rfl, le_rfl, by omega⟩
  · exact .inl rfl
  · exact .inr ⟨_, _, rfl, hmantissa, hexponent⟩

/-- The integer next to which a large one is rounded is as large. -/
theorem le_natAbs_of_toInt?_ofInt {value whole : ℤ} (hvalue : 2 ^ 63 ≤ value.natAbs)
    (hwhole : (ofInt value).toInt? = some whole) : 2 ^ 63 ≤ whole.natAbs := by
  have hle : (2 : ℚ) ^ (52 + (11 : ℤ)) ≤ value.natAbs := by exact_mod_cast hvalue
  rw [ofInt, ofFraction_eq_nearest _ _ one_pos, Nat.cast_one, div_one] at hwhole
  rcases nearest_of_pow_le (decide (value < 0)) (by decide) hle with
    hinfinite | ⟨mantissa, exponent, hfinite, hmantissa, hexponent⟩
  · rw [hinfinite] at hwhole
    cases hwhole
  · obtain ⟨places, rfl⟩ := Int.eq_ofNat_of_zero_le (by omega : 0 ≤ exponent)
    rw [hfinite, toInt?] at hwhole
    have hsize : 2 ^ 63 ≤ mantissa <<< places := by
      rw [Nat.shiftLeft_eq]
      calc 2 ^ 63 = 2 ^ 52 * 2 ^ 11 := by norm_num
        _ ≤ mantissa * 2 ^ places :=
          Nat.mul_le_mul hmantissa (Nat.pow_le_pow_right (by norm_num) (by omega))
    simp only [Int.toNat_natCast, Int.toNat_neg_natCast, Nat.shiftLeft_zero, Nat.mod_one,
      if_true] at hwhole
    cases hwhole
    split <;> omega
/-- A number other than zero has so many decimal digits. -/
def HasDigits (digits count : ℕ) : Prop :=
  digits ≠ 0 → 10 ^ (count - 1) ≤ digits ∧ digits < 10 ^ count

/-- A decimal number is read as the number nearest to its value. -/
theorem ofDecimal_eq_nearest (negative : Bool) {digits count : ℕ}
    (hcount : HasDigits digits count) (exponent : ℤ) :
    ofDecimal negative digits count exponent = nearest negative (digits * 10 ^ exponent) := by
  rw [ofDecimal]
  by_cases hzero : digits = 0
  · rw [if_pos hzero, hzero, Nat.cast_zero, zero_mul, nearest_zero]
  obtain ⟨hlow, hhigh⟩ := hcount hzero
  have hlowQ : (10 : ℚ) ^ (count - 1) ≤ digits := by exact_mod_cast hlow
  have hhighQ : (digits : ℚ) < 10 ^ count := by exact_mod_cast hhigh
  have hsome : count ≠ 0 := by
    rintro rfl
    omega
  have hten : (0 : ℚ) < 10 ^ exponent := zpow_pos (by norm_num) _
  rw [if_neg hzero]
  split_ifs with hlarge hsmall hwhole
  · refine (nearest_of_le negative ?_).symm
    calc (2 : ℚ) ^ (1024 : ℤ) ≤ 10 ^ (310 : ℤ) := by
          exact_mod_cast (by decide +kernel : 2 ^ 1024 ≤ 10 ^ 310)
      _ ≤ 10 ^ (((count - 1 : ℕ) : ℤ) + exponent) :=
          zpow_le_zpow_right₀ (by norm_num) (by omega)
      _ = 10 ^ (count - 1) * 10 ^ exponent := by rw [zpow_add₀ (by norm_num), zpow_natCast]
      _ ≤ digits * 10 ^ exponent := by gcongr
  · refine (nearest_of_lt negative (by positivity) ?_).symm
    calc (digits : ℚ) * 10 ^ exponent < 10 ^ count * 10 ^ exponent := by gcongr
      _ = 10 ^ ((count : ℤ) + exponent) := by rw [zpow_add₀ (by norm_num), zpow_natCast]
      _ ≤ 10 ^ (-330 : ℤ) := zpow_le_zpow_right₀ (by norm_num) hsmall.le
      _ < 2 ^ (-1075 : ℤ) := by
          rw [zpow_neg, zpow_neg]
          apply inv_strictAnti₀ (by positivity)
          exact_mod_cast (by decide +kernel : 2 ^ 1075 < 10 ^ 330)
  · obtain ⟨k, rfl⟩ := Int.eq_ofNat_of_zero_le hwhole
    rw [ofFraction_eq_nearest _ _ one_pos, Nat.cast_one, div_one]
    congr 1
    exact_mod_cast rfl
  · obtain ⟨k, rfl⟩ : ∃ k : ℕ, exponent = -k := ⟨(-exponent).toNat, by omega⟩
    rw [neg_neg, Int.toNat_natCast, Nat.pow_eq, ofFraction_eq_nearest _ _ (by positivity), zpow_neg,
      zpow_natCast, div_eq_mul_inv, Nat.cast_pow, Nat.cast_ofNat]

end SchemaBindings.Binary64
