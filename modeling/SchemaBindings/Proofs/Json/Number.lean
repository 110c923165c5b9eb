import SchemaBindings.Json.Writer
import SchemaBindings.Proofs.Json.Digits
/-!
# Numbers in a text

A number that is written is read back, whatever follows it that does not go on with the number: an
integer by its digits (`readNumber_writeInt`), another number by the shortest digits, in each of the
layouts in which they may stand (`readUnsigned_layout`, `readNumber_writeFloat`). The bound on whole
parts is only met by integers (`readBoundedNumber_writeInt`): no layout puts more than sixteen
digits before the point (`exists_layout_eq`).
-/

set_option autoImplicit false
set_option relaxedAutoImplicit false

namespace SchemaBindings.Json

open SchemaBindings.Text

/-! ### The parts of a number -/

/-- A text that does not go on with a number. -/
def EndsNumber (rest : List Char) : Prop :=
  ∀ c ∈ rest.head?, isDigit c = false ∧ c ≠ '.' ∧ c ≠ 'e' ∧ c ≠ 'E'

theorem EndsNumber.endsDigits {rest : List Char} (hrest : EndsNumber rest) : EndsDigits rest :=
  fun c hc ↦ (hrest c hc).1

/-- A whole part: digits, of which the first is zero only if it is the only one. -/
structure IsWhole (whole : List Char) : Prop where
  ne_nil : whole ≠ []
  digits : AllDigits whole
  alone : whole.head? = some '0' → whole = ['0']

theorem IsWhole.of_head_ne {whole : List Char} (hsome : whole ≠ []) (hdigits : AllDigits whole)
    (hhead : whole.head? ≠ some '0') : IsWhole whole :=
  ⟨hsome, hdigits, fun hzero ↦ absurd hzero hhead⟩

theorem isWhole_digitChars (n : ℕ) : IsWhole (Binary64.digitChars n) := by
  refine ⟨Nat.toDigits_ne_nil, allDigits_digitChars n, fun hhead ↦ ?_⟩
  by_cases hn : n = 0
  · rw [hn]
    rfl
  · exact absurd hhead (head?_digitChars_ne hn)

theorem readUnsigned_append (negative : Bool) {whole rest : List Char} (hwhole : IsWhole whole)
    (hrest : EndsDigits rest) :
    readUnsigned negative (whole ++ rest) = readFraction negative whole rest := by
  obtain ⟨hsome, hdigits, halone⟩ := hwhole
  have hread := readDigits_append hsome hdigits hrest
  cases whole with
  | nil => exact absurd rfl hsome
  | cons c others =>
    have hc := hdigits c List.mem_cons_self
    rw [List.cons_append] at hread ⊢
    unfold readUnsigned
    split
    · next heq => cases heq
    · next d after heq =>
      -- a digit behind the zero would belong to the whole part
      obtain ⟨rfl, hothers⟩ := List.cons_eq_cons.mp heq
      cases halone rfl
      rw [List.nil_append] at hothers
      subst hothers
      rw [if_neg (by rw [hrest d rfl]; decide)]
    · next after heq =>
      obtain ⟨rfl, -⟩ := List.cons_eq_cons.mp heq
      exact absurd hc (by decide)
    · rw [hread]
      rfl

/-! ### Fractions and exponents -/

theorem endsDigits_cons {c : Char} (hc : isDigit c = false) (rest : List Char) :
    EndsDigits (c :: rest) := by
  intro d hd
  cases hd
  exact hc

theorem endsDigits_point (rest : List Char) : EndsDigits ('.' :: rest) :=
  endsDigits_cons rfl rest

theorem endsDigits_mark (rest : List Char) : EndsDigits ('e' :: rest) :=
  endsDigits_cons rfl rest

theorem readExponent_exponentText (exponent : ℤ) {rest : List Char} (hrest : EndsDigits rest) :
    readExponent (Binary64.exponentText exponent ++ rest) = .ok (exponent, rest) := by
  set digits := Binary64.digitChars exponent.natAbs with hdigits
  set padded := if digits.length < 2 then '0' :: digits else digits with hpadded
  have hall : AllDigits padded := by
    have hdigitChars := allDigits_digitChars exponent.natAbs
    rw [hpadded]
    split_ifs
    · exact List.forall_mem_cons.mpr ⟨rfl, hdigitChars⟩
    · exact hdigitChars
  have hvalue : digitsValue padded = exponent.natAbs := by
    rw [hpadded]
    split_ifs
    · rw [← digitsValue_dropWhile, List.dropWhile_cons_of_pos rfl, digitsValue_dropWhile, hdigits,
        digitsValue_digitChars]
    · rw [hdigits, digitsValue_digitChars]
  have hsome : padded ≠ [] := by
    rw [hpadded]
    split_ifs
    · exact List.cons_ne_nil _ _
    · exact Nat.toDigits_ne_nil
  have hread := readDigits_append hsome hall hrest
  have htext : Binary64.exponentText exponent = (if exponent < 0 then '-' else '+') :: padded := rfl
  rw [htext, List.cons_append]
  split_ifs with hsign
  · rw [readExponent, hread]
    simp only [bind, Except.bind, pure, Except.pure, hvalue]
    congr 2
    omega
  · rw [readExponent, hread]
    simp only [bind, Except.bind, pure, Except.pure, hvalue]
    congr 2
    omega

/-- Without a point and an exponent a number is an integer. -/
theorem readFraction_end (negative : Bool) (whole : List Char) {rest : List Char}
    (hrest : EndsNumber rest) :
    readFraction negative whole rest =
      .ok (.int (if negative then -digitsValue whole else digitsValue whole), rest) := by
  cases rest with
  | nil => rfl
  | cons c after =>
    obtain ⟨-, hpoint, hlower, hupper⟩ := hrest c rfl
    unfold readFraction
    split
    · next heq =>
      cases heq
      exact absurd rfl hpoint
    · next d behind heq =>
      cases heq
      rw [if_neg (by simp [hlower, hupper])]
    · next heq => cases heq

theorem readFraction_point (negative : Bool) (whole : List Char) {fraction rest : List Char}
    (hsome : fraction ≠ []) (hfraction : AllDigits fraction) (hrest : EndsNumber rest) :
    readFraction negative whole ('.' :: (fraction ++ rest)) =
      .ok (floatOf negative whole fraction 0, rest) := by
  rw [readFraction, readDigits_append hsome hfraction hrest.endsDigits]
  simp only [bind, Except.bind]
  cases rest with
  | nil => rfl
  | cons c after =>
    obtain ⟨-, -, hlower, hupper⟩ := hrest c rfl
    dsimp only
    rw [if_neg (by simp [hlower, hupper])]
    rfl

theorem readFraction_exponent (negative : Bool) (whole : List Char) (exponent : ℤ)
    {rest : List Char} (hrest : EndsDigits rest) :
    readFraction negative whole ('e' :: (Binary64.exponentText exponent ++ rest)) =
      .ok (floatOf negative whole [] exponent, rest) := by
  rw [readFraction, if_pos (by decide), readExponent_exponentText exponent hrest]
  · rfl
  · decide

theorem readFraction_point_exponent (negative : Bool) (whole : List Char)
    {fraction rest : List Char} (hsome : fraction ≠ []) (hfraction : AllDigits fraction)
    (exponent : ℤ) (hrest : EndsDigits rest) :
    readFraction negative whole
        ('.' :: (fraction ++ 'e' :: (Binary64.exponentText exponent ++ rest))) =
      .ok (floatOf negative whole fraction exponent, rest) := by
  rw [readFraction, readDigits_append hsome hfraction (endsDigits_mark _)]
  simp only [bind, Except.bind]
  rw [if_pos (by decide), readExponent_exponentText exponent hrest]
  rfl

/-! ### Layouts -/

/-- Digits are those that are kept and zeros behind them. -/
theorem exists_zeros_append_eq (digits : List Char) :
    ∃ count,
      digits = (digits.reverse.dropWhile (· == '0')).reverse ++ List.replicate count '0' := by
  refine ⟨(digits.reverse.takeWhile (· == '0')).length, ?_⟩
  have hall : (digits.reverse.takeWhile (· == '0')).reverse =
      List.replicate (digits.reverse.takeWhile (· == '0')).length '0' := by
    refine List.eq_replicate_iff.mpr ⟨List.length_reverse, fun c hc ↦ ?_⟩
    have hzero := List.mem_takeWhile_imp (List.mem_reverse.mp hc)
    exact beq_iff_eq.mp hzero
  rw [← hall, ← List.reverse_append, List.takeWhile_append_dropWhile, List.reverse_reverse]

/-- The digits of a decimal number without the zeros at their end: there are some, and the first is
not zero. They stand for the number when the point is put in its place. -/
theorem placed_spec {decimal : Binary64.Decimal} (hdigits : decimal.digits ≠ 0) :
    (Binary64.placed decimal).1 ≠ [] ∧ AllDigits (Binary64.placed decimal).1 ∧
      (Binary64.placed decimal).1.head? ≠ some '0' ∧
      (digitsValue (Binary64.placed decimal).1 : ℚ) *
        10 ^ ((Binary64.placed decimal).2 - (Binary64.placed decimal).1.length) =
          decimal.value := by
  set digits := Binary64.digitChars decimal.digits with hdigitChars
  set kept := (digits.reverse.dropWhile (· == '0')).reverse with hkept
  have hplaced : Binary64.placed decimal = (kept, digits.length + decimal.exponent) := rfl
  obtain ⟨count, hzeros⟩ : ∃ count, digits = kept ++ List.replicate count '0' :=
    exists_zeros_append_eq digits
  have hvalue : digitsValue kept * 10 ^ count = decimal.digits := by
    have hall := digitsValue_digitChars decimal.digits
    rw [← hdigitChars, hzeros, digitsValue_append, digitsValue_zeros, List.length_replicate,
      add_zero] at hall
    exact hall
  have hsome : kept ≠ [] := by
    rintro heq
    rw [heq] at hvalue
    exact hdigits (hvalue.symm.trans (Nat.zero_mul _))
  rw [hplaced]
  refine ⟨hsome, ?_, ?_, ?_⟩
  · have hall := allDigits_digitChars decimal.digits
    rw [← hdigitChars, hzeros, allDigits_append_iff] at hall
    exact hall.1
  · have hhead := head?_digitChars_ne hdigits
    rwa [← hdigitChars, hzeros, List.head?_append_of_ne_nil _ hsome] at hhead
  · have hlength : (digits.length : ℤ) + decimal.exponent - kept.length =
        count + decimal.exponent := by
      rw [hzeros, List.length_append, List.length_replicate]
      omega
    rw [hlength, Binary64.Decimal.value, ← hvalue, zpow_add₀ (by norm_num), zpow_natCast]
    push_cast
    ring

theorem isWhole_zero : IsWhole ['0'] :=
  isWhole_digitChars 0

/-- Digits with a point among them. -/
theorem readUnsigned_point (negative : Bool) {whole fraction : List Char} (hwhole : IsWhole whole)
    (hsome : fraction ≠ []) (hfraction : AllDigits fraction) {rest : List Char}
    (hrest : EndsNumber rest) :
    readUnsigned negative (whole ++ '.' :: (fraction ++ rest)) =
      .ok (.float (Binary64.nearest negative
        (digitsValue (whole ++ fraction) * 10 ^ (-(fraction.length : ℤ)))), rest) := by
  rw [readUnsigned_append negative hwhole (endsDigits_point _),
    readFraction_point _ _ hsome hfraction hrest,
    floatOf_eq_nearest _ (allDigits_append_iff.mpr ⟨hwhole.digits, hfraction⟩), zero_sub]

/-- One digit before the point, the others behind it if there are any, and an exponent. -/
theorem readUnsigned_scientific (negative : Bool) {first : Char} {others : List Char}
    (hdigits : AllDigits (first :: others)) (hfirst : first ≠ '0') (exponent : ℤ)
    {rest : List Char} (hrest : EndsDigits rest) :
    readUnsigned negative (first :: ((if others.isEmpty then [] else '.' :: others) ++
        'e' :: (Binary64.exponentText exponent ++ rest))) =
      .ok (.float (Binary64.nearest negative
        (digitsValue (first :: others) * 10 ^ (exponent - others.length))), rest) := by
  obtain ⟨hdigit, hothers⟩ := List.forall_mem_cons.mp hdigits
  have hwhole : IsWhole [first] := .of_head_ne (List.cons_ne_nil _ _)
    (List.forall_mem_singleton.mpr hdigit) fun hzero ↦ hfirst (Option.some.inj hzero)
  cases others with
  | nil =>
    have hread := readUnsigned_append negative hwhole
      (endsDigits_mark (Binary64.exponentText exponent ++ rest))
    rw [readFraction_exponent _ _ _ hrest, floatOf_eq_nearest _ hdigits] at hread
    exact hread
  | cons second others =>
    have hread := readUnsigned_append negative hwhole (endsDigits_point
      ((second :: others) ++ 'e' :: (Binary64.exponentText exponent ++ rest)))
    rw [readFraction_point_exponent _ _ (List.cons_ne_nil _ _) hothers _ hrest,
      floatOf_eq_nearest _ hdigits] at hread
    exact hread

section Whole

variable {digits : List Char} (hsome : digits ≠ []) (hdigits : AllDigits digits)
  (hhead : digits.head? ≠ some '0')

include hsome hdigits hhead

theorem isWhole_append_zeros (count : ℕ) : IsWhole (digits ++ List.replicate count '0') := by
  refine .of_head_ne (by simp [hsome])
    (allDigits_append_iff.mpr ⟨hdigits, allDigits_zeros count⟩) ?_
  rwa [List.head?_append_of_ne_nil _ hsome]

theorem isWhole_take {count : ℕ} (hpositive : count ≠ 0) : IsWhole (digits.take count) := by
  refine .of_head_ne ?_ (fun c hc ↦ hdigits c (List.mem_of_mem_take hc)) ?_
  · rw [Ne, List.take_eq_nil_iff, not_or]
    exact ⟨hpositive, hsome⟩
  · rwa [List.head?_take, if_neg hpositive]

/-- In every layout the digits before the point or the exponent are sixteen at most. -/
theorem exists_layout_eq (places : ℤ) :
    ∃ whole mark behind, Binary64.layout digits places = whole ++ mark :: behind ∧ IsWhole whole ∧
      isDigit mark = false ∧ whole.length ≤ 16 := by
  unfold Binary64.layout
  split_ifs with hscientific hbelow hshort
  · cases digits with
    | nil => exact absurd rfl hsome
    | cons first others =>
      have hwhole := isWhole_take hsome hdigits hhead Nat.one_ne_zero
      cases others with
      | nil => exact ⟨[first], 'e', _, rfl, hwhole, rfl, Nat.one_le_ofNat⟩
      | cons second others => exact ⟨[first], '.', _, rfl, hwhole, rfl, Nat.one_le_ofNat⟩
  · exact ⟨['0'], '.', _, rfl, isWhole_zero, rfl, Nat.one_le_ofNat⟩
  · refine ⟨_, '.', ['0'], rfl, isWhole_append_zeros hsome hdigits hhead _, rfl, ?_⟩
    rw [List.length_append, List.length_replicate]
    rw [Bool.or_eq_true, decide_eq_true_iff, decide_eq_true_iff] at hscientific
    omega
  · refine ⟨_, '.', _, rfl, isWhole_take hsome hdigits hhead (by omega), rfl, ?_⟩
    rw [List.length_take]
    rw [Bool.or_eq_true, decide_eq_true_iff, decide_eq_true_iff] at hscientific
    omega

end Whole

section Layout

variable (negative : Bool) {digits rest : List Char} (hsome : digits ≠ [])
  (hdigits : AllDigits digits) (hhead : digits.head? ≠ some '0') (hrest : EndsNumber rest)

include hsome hdigits hrest

/-- Zeros between the point and the digits. -/
theorem readUnsigned_zeros_digits (count : ℕ) :
    readUnsigned negative ('0' :: '.' :: (List.replicate count '0' ++ digits ++ rest)) =
      .ok (.float (Binary64.nearest negative
        (digitsValue digits * 10 ^ (-(count : ℤ) - digits.length))), rest) := by
  have hfraction : AllDigits (List.replicate count '0' ++ digits) :=
    allDigits_append_iff.mpr ⟨allDigits_zeros count, hdigits⟩
  have hread := readUnsigned_point negative isWhole_zero (by simp [hsome]) hfraction hrest
  have hvalue : digitsValue (['0'] ++ (List.replicate count '0' ++ digits)) =
      digitsValue digits := by
    have hzeros := digitsValue_zeros (count + 1)
    rw [List.replicate_succ, ← List.singleton_append] at hzeros
    rw [← List.append_assoc, digitsValue_append, hzeros, zero_mul, zero_add]
  have hlength : -((List.replicate count '0' ++ digits).length : ℤ) =
      -(count : ℤ) - digits.length := by
    rw [List.length_append, List.length_replicate]
    omega
  rw [hvalue, hlength] at hread
  exact hread

include hhead

/-- Zeros between the digits and the point. -/
theorem readUnsigned_digits_zeros (count : ℕ) :
    readUnsigned negative (digits ++ List.replicate count '0' ++ '.' :: '0' :: rest) =
      .ok (.float (Binary64.nearest negative (digitsValue digits * 10 ^ (count : ℤ))), rest) := by
  have hwhole := isWhole_append_zeros hsome hdigits hhead count
  have hread := readUnsigned_point negative hwhole (List.cons_ne_nil '0' []) isWhole_zero.digits
    hrest
  have hvalue : digitsValue (digits ++ List.replicate count '0' ++ ['0']) =
      digitsValue digits * 10 ^ (count + 1) := by
    have hzeros := digitsValue_zeros (count + 1)
    rw [List.replicate_succ'] at hzeros
    rw [List.append_assoc, digitsValue_append, hzeros, List.length_append, List.length_replicate,
      add_zero, List.length_singleton]
  have hexponent : ((digitsValue digits * 10 ^ (count + 1) : ℕ) : ℚ) *
      10 ^ (-((['0'] : List Char).length : ℤ)) = digitsValue digits * 10 ^ (count : ℤ) := by
    rw [List.length_singleton, zpow_neg, zpow_natCast, zpow_natCast, pow_succ]
    push_cast
    field_simp
  rw [hvalue, hexponent] at hread
  exact hread

/-- The point between the digits. -/
theorem readUnsigned_take_drop {count : ℕ} (hpositive : count ≠ 0)
    (hcount : count < digits.length) :
    readUnsigned negative (digits.take count ++ '.' :: (digits.drop count ++ rest)) =
      .ok (.float (Binary64.nearest negative
        (digitsValue digits * 10 ^ ((count : ℤ) - digits.length))), rest) := by
  have hwhole := isWhole_take hsome hdigits hhead hpositive
  have hfraction : digits.drop count ≠ [] := by
    rw [Ne, List.drop_eq_nil_iff]
    omega
  have hread := readUnsigned_point negative hwhole hfraction
    (fun c hc ↦ hdigits c (List.mem_of_mem_drop hc)) hrest
  have hlength : -((digits.drop count).length : ℤ) = (count : ℤ) - digits.length := by
    rw [List.length_drop]
    omega
  rw [List.take_append_drop, hlength] at hread
  exact hread

/-- Digits with a place for the point are read as the number that they stand for there. -/
theorem readUnsigned_layout (places : ℤ) :
    readUnsigned negative (Binary64.layout digits places ++ rest) =
      .ok (.float (Binary64.nearest negative
        (digitsValue digits * 10 ^ (places - digits.length))), rest) := by
  unfold Binary64.layout
  split_ifs with hscientific hbelow hshort
  · cases digits with
    | nil => exact absurd rfl hsome
    | cons first others =>
      have hread := readUnsigned_scientific negative hdigits
        (fun hzero ↦ hhead (congrArg some hzero)) (places - 1) hrest.endsDigits
      have hplaces : places - 1 - (others.length : ℤ) = places - (first :: others).length := by
        rw [List.length_cons]
        omega
      rw [hplaces] at hread
      simpa using hread
  · have hread := readUnsigned_zeros_digits negative hsome hdigits hrest (-places).toNat
    have hplaces : -((-places).toNat : ℤ) = places := by omega
    rw [hplaces] at hread
    simpa using hread
  · have hread := readUnsigned_digits_zeros negative hsome hdigits hhead hrest
      (places.toNat - digits.length)
    have hplaces : ((places.toNat - digits.length : ℕ) : ℤ) = places - digits.length := by omega
    rw [hplaces] at hread
    simpa using hread
  · have hread := readUnsigned_take_drop negative hsome hdigits hhead hrest
      (show places.toNat ≠ 0 by omega) (by omega)
    have hplaces : (places.toNat : ℤ) = places := by omega
    rw [hplaces] at hread
    simpa using hread

end Layout

/-! ### Written numbers -/

/-- A sign in front belongs to the number; without it a number does not begin with a sign. -/
theorem readNumber_of_readUnsigned {negative : Bool} {body rest : List Char}
    {found : Json × List Char} (hread : readUnsigned negative (body ++ rest) = .ok found) :
    readNumber ((if negative then '-' :: body else body) ++ rest) = .ok found := by
  cases negative with
  | true => exact hread
  | false =>
    rw [if_neg Bool.false_ne_true]
    unfold readNumber
    split
    · next after heq =>
      rw [heq] at hread
      cases hread
    · exact hread

theorem readNumber_writeInt (value : ℤ) {rest : List Char} (hrest : EndsNumber rest) :
    readNumber (writeInt value ++ rest) = .ok (.int value, rest) := by
  have hread := readUnsigned_append (decide (value < 0)) (isWhole_digitChars value.natAbs)
    hrest.endsDigits
  rw [readFraction_end _ _ hrest, digitsValue_digitChars] at hread
  have hnumber := readNumber_of_readUnsigned hread
  simp only [decide_eq_true_eq] at hnumber
  rw [writeInt, hnumber]
  congr 3
  omega

theorem readNumber_finiteText (negative : Bool) {mantissa : ℕ} {exponent : ℤ}
    (hcanonical : Binary64.IsCanonical mantissa exponent) {rest : List Char}
    (hrest : EndsNumber rest) :
    readNumber (Binary64.finiteText negative mantissa exponent ++ rest) =
      .ok (.float (.finite negative mantissa exponent), rest) := by
  refine readNumber_of_readUnsigned ?_
  by_cases hzero : mantissa = 0
  · have hexponent : exponent = Binary64.minExponent := by
      rcases hcanonical.full with hfull | hexponent
      · omega
      · exact hexponent
    have hread := readUnsigned_append negative isWhole_zero (endsDigits_point (['0'] ++ rest))
    rw [readFraction_point _ _ (List.cons_ne_nil _ _) isWhole_zero.digits hrest] at hread
    rw [if_pos hzero, hzero, hexponent]
    exact hread
  · obtain ⟨hsome, hdigits, hhead, hvalue⟩ :=
      placed_spec (hcanonical.digits_shortest_ne_zero hzero)
    have hread := readUnsigned_layout negative hsome hdigits hhead hrest
      (Binary64.placed (Binary64.shortest mantissa exponent)).2
    rw [hvalue, hcanonical.nearest_shortest hzero] at hread
    rw [if_neg hzero]
    exact hread

/-- A number in normal form is read back. -/
theorem readNumber_writeFloat {value : Binary64} (hnormal : value.IsNormal) (hnan : value ≠ .nan)
    {rest : List Char} (hrest : EndsNumber rest) :
    readNumber (writeFloat value ++ rest) = .ok (.float value, rest) := by
  cases value with
  | finite negative mantissa exponent => exact readNumber_finiteText negative hnormal hrest
  | infinite negative => cases negative <;> rfl
  | nan => exact absurd rfl hnan

/-! ### Bounds on whole parts -/

theorem digitsLength_append {whole rest : List Char} (hwhole : IsWhole whole)
    (hrest : EndsDigits rest) : digitsLength (whole ++ rest) = whole.length := by
  obtain ⟨hsome, hdigits, halone⟩ := hwhole
  unfold digitsLength
  split
  · next after heq =>
    cases whole with
    | nil => exact absurd rfl hsome
    | cons c others =>
      cases heq
      rw [halone rfl, List.length_singleton]
  · rw [takeWhile_isDigit_append hdigits hrest]

/-- A whole part counts with its sign. -/
theorem wholeLength_append (negative : Bool) {whole rest : List Char} (hwhole : IsWhole whole)
    (hrest : EndsDigits rest) :
    wholeLength ((if negative then '-' :: whole else whole) ++ rest) =
      (if negative then '-' :: whole else whole).length := by
  cases negative with
  | true => exact congrArg (· + 1) (digitsLength_append hwhole hrest)
  | false =>
    rw [if_neg Bool.false_ne_true, ← digitsLength_append hwhole hrest]
    unfold wholeLength
    split
    · next after heq =>
      cases whole with
      | nil => exact absurd rfl hwhole.ne_nil
      | cons c others =>
        cases heq
        exact absurd (hwhole.digits _ List.mem_cons_self) (by decide)
    · rfl

theorem readBoundedNumber_of_le {text : List Char} (hlength : wholeLength text ≤ maxWholeLength) :
    readBoundedNumber text = readNumber text :=
  if_neg (Nat.not_lt_of_le hlength)

/-- An integer is read back if it is not too long, and refused for its length otherwise. -/
theorem readBoundedNumber_writeInt (value : ℤ) {rest : List Char} (hrest : EndsNumber rest) :
    ((writeInt value).length ≤ maxWholeLength →
      readBoundedNumber (writeInt value ++ rest) = .ok (.int value, rest)) ∧
    (maxWholeLength < (writeInt value).length →
      ∃ place, readBoundedNumber (writeInt value ++ rest) = .error ⟨.outOfRange, place⟩) := by
  have hlength : wholeLength (writeInt value ++ rest) = (writeInt value).length := by
    have hwhole := wholeLength_append (decide (value < 0)) (isWhole_digitChars value.natAbs)
      hrest.endsDigits
    simp only [decide_eq_true_eq] at hwhole
    exact hwhole
  rw [← hlength]
  constructor
  · intro hshort
    rw [readBoundedNumber_of_le hshort, readNumber_writeInt value hrest]
  · intro hlong
    exact ⟨_, if_pos hlong⟩

/-- A number of another kind has a short whole part in every layout. -/
theorem wholeLength_finiteText_le (negative : Bool) {mantissa : ℕ} {exponent : ℤ}
    (hcanonical : Binary64.IsCanonical mantissa exponent) (rest : List Char) :
    wholeLength (Binary64.finiteText negative mantissa exponent ++ rest) ≤ maxWholeLength := by
  obtain ⟨whole, mark, behind, htext, hwhole, hmark, hlength⟩ :
      ∃ whole mark behind, Binary64.finiteText negative mantissa exponent =
        (if negative then '-' :: whole else whole) ++ mark :: behind ∧ IsWhole whole ∧
          isDigit mark = false ∧ whole.length ≤ 16 := by
    rw [Binary64.finiteText]
    by_cases hzero : mantissa = 0
    · rw [if_pos hzero]
      refine ⟨['0'], '.', ['0'], ?_, isWhole_zero, rfl, Nat.one_le_ofNat⟩
      cases negative <;> rfl
    · obtain ⟨hsome, hdigits, hhead, -⟩ :=
        placed_spec (hcanonical.digits_shortest_ne_zero hzero)
      obtain ⟨whole, mark, behind, hlayout, hwhole⟩ := exists_layout_eq hsome hdigits hhead
        (Binary64.placed (Binary64.shortest mantissa exponent)).2
      refine ⟨whole, mark, behind, ?_, hwhole⟩
      rw [if_neg hzero]
      dsimp only
      rw [hlayout]
      cases negative <;> rfl
  rw [htext, List.append_assoc, List.cons_append,
    wholeLength_append negative hwhole (endsDigits_cons hmark _)]
  have hsign : (if negative then '-' :: whole else whole).length ≤ whole.length + 1 := by
    split
    · exact le_rfl
    · exact Nat.le_succ _
  exact hsign.trans ((Nat.succ_le_succ hlength).trans (by decide))

/-- A number in normal form is read back under the bound as well. -/
theorem readBoundedNumber_writeFloat {value : Binary64} (hnormal : value.IsNormal)
    (hnan : value ≠ .nan) {rest : List Char} (hrest : EndsNumber rest) :
    readBoundedNumber (writeFloat value ++ rest) = .ok (.float value, rest) := by
  rw [← readNumber_writeFloat hnormal hnan hrest]
  refine readBoundedNumber_of_le ?_
  cases value with
  | finite negative mantissa exponent => exact wholeLength_finiteText_le negative hnormal rest
  | infinite negative =>
    cases negative
    · exact Nat.zero_le _
    · exact show 0 + 1 ≤ maxWholeLength by decide
  | nan => exact absurd rfl hnan

end SchemaBindings.Json
