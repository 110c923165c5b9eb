import SchemaBindings.Proofs.Naming.Plain
/-!
# Where the words of a name begin

Underscores are put into a name by two scans, and a match of the first takes characters that the
second may still need. Read as one scan, they put an underscore before each capital that follows a
lower-case letter or a digit, or that a lower-case letter follows, and nowhere else
(`breakBeforeCapitals_breakBeforeWords`). A capital right behind a match of the first scan is not
lost: the match ended in a lower-case letter, so the second scan finds it.
-/

set_option autoImplicit false
set_option relaxedAutoImplicit false

namespace SchemaBindings.Naming

open SchemaBindings.Text

/-- A lower-case letter or a digit, which a word may hold behind its capital. -/
def isWordTail (c : Char) : Bool :=
  isLowerLetter c || isDigit c

/-- Whether a word begins with a character, between the one before it and the one after it. -/
def beginsWord (before : Option Char) (c : Char) (after : Option Char) : Bool :=
  isUpperLetter c &&
    (before.any isWordTail || before.any (· != '\n') && after.any isLowerLetter)

/-- Puts a character in front of a text, behind an underscore if it is to be set apart. -/
def consApart (apart : Bool) (c : Char) (rest : List Char) : List Char :=
  if apart then '_' :: c :: rest else c :: rest

/-- Puts an underscore before each character with which a word begins, in one scan of the text
behind `before`. -/
def breakWords : (before : Option Char) → List Char → List Char
  | _, [] => []
  | before, c :: rest =>
    consApart (beginsWord before c rest.head?) c (breakWords (some c) rest)

/-- The second of the two scans, of the text behind `before`. -/
def breakCapitals : (before : Option Char) → List Char → List Char
  | _, [] => []
  | before, c :: rest =>
    consApart (before.any isWordTail && isUpperLetter c) c (breakCapitals (some c) rest)

/-! ### Classes of characters -/

theorem isWordTail_iff (c : Char) :
    isWordTail c = true ↔
      (0x61 ≤ c.toNat ∧ c.toNat ≤ 0x7a) ∨ (0x30 ≤ c.toNat ∧ c.toNat ≤ 0x39) := by
  rw [isWordTail, Bool.or_eq_true, isLowerLetter_iff, isDigit, Bool.and_eq_true, decide_eq_true_eq,
    decide_eq_true_eq]
  exact Iff.rfl

theorem isUpperLetter_eq_false_of_isWordTail {c : Char} (hc : isWordTail c = true) :
    isUpperLetter c = false := by
  rw [isWordTail_iff] at hc
  rw [Bool.eq_false_iff, ne_eq, isUpperLetter_iff]
  omega

theorem isWordTail_eq_false_of_isUpperLetter {c : Char} (hc : isUpperLetter c = true) :
    isWordTail c = false := by
  by_contra htail
  rw [Bool.not_eq_false] at htail
  rw [isUpperLetter_eq_false_of_isWordTail htail] at hc
  exact Bool.false_ne_true hc

theorem isWordTail_of_isLowerLetter {c : Char} (hc : isLowerLetter c = true) :
    isWordTail c = true := by
  rw [isWordTail, hc, Bool.true_or]

theorem isLowerLetter_eq_false_of_isUpperLetter {c : Char} (hc : isUpperLetter c = true) :
    isLowerLetter c = false := by
  have htail := isWordTail_eq_false_of_isUpperLetter hc
  rw [isWordTail, Bool.or_eq_false_iff] at htail
  exact htail.1

/-! ### The second scan -/

/-- A capital is no character after which the second scan puts an underscore, so it does not matter
that a match has taken it. -/
theorem breakCapitals_of_isUpperLetter {c : Char} (hc : isUpperLetter c = true)
    (text : List Char) : breakCapitals (some c) text = breakCapitals none text := by
  have htail := isWordTail_eq_false_of_isUpperLetter hc
  cases text with
  | nil => rfl
  | cons d rest =>
    rw [breakCapitals, breakCapitals, Option.any_some, htail]
    rfl

theorem breakBeforeCapitals_eq (text : List Char) :
    breakBeforeCapitals text = breakCapitals none text := by
  fun_induction breakBeforeCapitals text with
  | case1 c d rest hmatch ih =>
    rw [Bool.and_eq_true] at hmatch
    rw [ih, breakCapitals, breakCapitals, breakCapitals_of_isUpperLetter hmatch.2, Option.any_some,
      isWordTail, hmatch.1, hmatch.2]
    rfl
  | case2 c d rest hmatch ih =>
    rw [Bool.not_eq_true] at hmatch
    rw [ih, breakCapitals, breakCapitals, breakCapitals, Option.any_some, isWordTail, hmatch]
    rfl
  | case3 short hshort =>
    rcases short with _ | ⟨c, _ | ⟨d, rest⟩⟩
    · rfl
    · rfl
    · exact absurd rfl (hshort c d rest)

/-! ### Both scans -/

/-- The first scan has nothing to put in front of a text that stands behind `before`, or the second
scan will do it. -/
def IsSettled (before : Option Char) : List Char → Prop
  | c :: d :: _ =>
    before.any isWordTail = true ∨
      (before.any (· != '\n') && isUpperLetter c && isLowerLetter d) = false
  | _ => True

theorem isSettled_none (name : List Char) : IsSettled none name := by
  unfold IsSettled
  split
  · exact Or.inr rfl
  · trivial

theorem isSettled_singleton (before : Option Char) (c : Char) : IsSettled before [c] :=
  trivial

theorem isSettled_of_isWordTail {c : Char} (hc : isWordTail c = true) (name : List Char) :
    IsSettled (some c) name := by
  unfold IsSettled
  split
  · exact Or.inl hc
  · trivial

/-- In front of a settled text only the second scan may put an underscore. -/
theorem IsSettled.beginsWord_eq {before : Option Char} {c : Char} {rest : List Char}
    (hsettled : IsSettled before (c :: rest)) :
    beginsWord before c rest.head? = (before.any isWordTail && isUpperLetter c) := by
  cases rest with
  | nil => rw [beginsWord, List.head?_nil, Option.any_none, Bool.and_false, Bool.or_false,
      Bool.and_comm]
  | cons d rest =>
    rw [beginsWord, List.head?_cons, Option.any_some]
    rcases hsettled with htail | hnone
    · rw [htail, Bool.true_or, Bool.and_true, Bool.true_and]
    · revert hnone
      cases before.any isWordTail <;> cases before.any (· != '\n') <;>
        cases isUpperLetter c <;> cases isLowerLetter d <;> simp

/-- The two scans of a settled text are one scan. The induction is on the first scan: what it puts
in is not touched by the second, and what its matches pass over is settled. -/
theorem breakCapitals_breakBeforeWords (inTail : Bool) (before : Option Char) (name : List Char)
    (hsettled : IsSettled before name) :
    breakCapitals before (breakBeforeWords inTail name) = breakWords before name := by
  fun_induction breakBeforeWords inTail name generalizing before with
  | case1 inTail c d e rest hskip ih =>
    rw [Bool.and_eq_true] at hskip
    rw [breakCapitals, breakWords, hsettled.beginsWord_eq,
      ih _ (isSettled_of_isWordTail (isWordTail_of_isLowerLetter hskip.2) _)]
  | case2 inTail c d e rest hskip hmatch ih =>
    obtain ⟨⟨hfeed, hd⟩, he⟩ : ((c != '\n') = true ∧ isUpperLetter d = true) ∧
        isLowerLetter e = true := by
      simpa only [Bool.and_eq_true] using hmatch
    have htail := isWordTail_of_isLowerLetter he
    have hbegins : beginsWord (some c) d (some e) = true := by
      rw [beginsWord, Option.any_some, Option.any_some, Option.any_some, hfeed, hd, he,
        Bool.true_and, Bool.true_and, Bool.or_true]
    have hinside : beginsWord (some d) e rest.head? = false := by
      rw [beginsWord, isUpperLetter_eq_false_of_isWordTail htail, Bool.false_and]
    calc breakCapitals before (c :: '_' :: d :: e :: breakBeforeWords true rest)
        = consApart (before.any isWordTail && isUpperLetter c) c
            ('_' :: d :: e :: breakCapitals (some e) (breakBeforeWords true rest)) := by
          rw [breakCapitals, breakCapitals, breakCapitals, breakCapitals, Option.any_some,
            Option.any_some, Option.any_some, isUpperLetter_eq_false_of_isWordTail htail,
            show isUpperLetter '_' = false by decide, show isWordTail '_' = false by decide,
            Bool.and_false, Bool.and_false, Bool.false_and]
          rfl
      _ = consApart (beginsWord before c (some d)) c
            (consApart true d (consApart false e (breakWords (some e) rest))) := by
          rw [ih _ (isSettled_of_isWordTail htail _), ← hsettled.beginsWord_eq]
          rfl
      _ = breakWords before (c :: d :: e :: rest) := by
          rw [breakWords, breakWords, breakWords, List.head?_cons, List.head?_cons, hbegins,
            hinside]
  | case3 inTail c d e rest hskip hmatch ih =>
    rw [breakCapitals, breakWords, hsettled.beginsWord_eq,
      ih _ (Or.inr (by rw [Option.any_some]; exact Bool.not_eq_true _ ▸ hmatch))]
  | case4 inTail short hshort =>
    rcases short with _ | ⟨c, _ | ⟨d, _ | ⟨e, rest⟩⟩⟩
    · rfl
    · rw [breakCapitals, breakWords, hsettled.beginsWord_eq]
      rfl
    · rw [breakCapitals, breakWords, hsettled.beginsWord_eq, breakCapitals, breakWords,
        (isSettled_singleton _ d).beginsWord_eq]
      rfl
    · exact absurd rfl (hshort c d e rest)

/-- The two scans put an underscore before each character with which a word begins, and nothing
else. -/
theorem breakBeforeCapitals_breakBeforeWords (name : List Char) :
    breakBeforeCapitals (breakBeforeWords false name) = breakWords none name := by
  rw [breakBeforeCapitals_eq]
  exact breakCapitals_breakBeforeWords false none name (isSettled_none name)

end SchemaBindings.Naming
