import SchemaBindings.Proofs.Json.Digits
import SchemaBindings.Proofs.Source.Place
import SchemaBindings.Proofs.Text.Case
import SchemaBindings.Proofs.Text.Quoted
/-!
# The spelling of tokens

What the lexer makes of the parts that a generated module is put together from: an identifier with
something behind it that ends a word (`tokens_word`), a number in decimal digits at the end of a
line (`tokens_toDigits`), a literal that no quote follows (`tokens_quoted`), and a point between two
words (`tokens_point`).
-/

set_option autoImplicit false
set_option relaxedAutoImplicit false

namespace SchemaBindings.Source

open SchemaBindings.Text

/-! ### Words -/

/-- The token of an identifier: a keyword or a name. -/
def wordToken (word : List Char) : Token :=
  if isKeyword word then .keyword (String.ofList word) else .name word

theorem wordToken?_eq {word : List Char} (hword : isIdentifier word = true) :
    wordToken? word = some (wordToken word) := by
  unfold wordToken? wordToken
  split_ifs <;> rfl

theorem isIdentifier_of_isName {word : List Char} (hword : isName word = true) :
    isIdentifier word = true := by
  rw [isName, Bool.and_eq_true] at hword
  exact hword.1

theorem wordToken_of_isName {word : List Char} (hword : isName word = true) :
    wordToken word = .name word := by
  rw [isName, Bool.and_eq_true, Bool.not_eq_true'] at hword
  rw [wordToken, hword.2]
  rfl

theorem isWordChar_of_isIdentifierContinue {c : Char} (hc : isIdentifierContinue c = true) :
    isWordChar c = true := by
  unfold isIdentifierContinue at hc
  unfold isWordChar
  grind

theorem isWordChar_of_isIdentifierStart {c : Char} (hc : isIdentifierStart c = true) :
    isWordChar c = true ∧ isDigit c = false := by
  unfold isIdentifierStart at hc
  split_ifs at hc with hascii
  · have hdigit : isDigit c = false := by
      rw [Bool.or_eq_true, Bool.or_eq_true, isUpperLetter_iff, isLowerLetter_iff, beq_iff_eq] at hc
      rw [Bool.eq_false_iff, ne_eq, Json.isDigit_iff]
      rcases hc with (hupper | hlower) | rfl
      · omega
      · omega
      · decide
    refine ⟨?_, hdigit⟩
    unfold isWordChar
    grind
  · have hcode : 0x80 ≤ c.toNat := Nat.le_of_not_lt hascii
    refine ⟨?_, ?_⟩
    · unfold isWordChar
      grind
    · rw [Bool.eq_false_iff, ne_eq, Json.isDigit_iff]
      omega

/-- What an identifier is made of. -/
theorem isWordChar_of_isIdentifier {word : List Char} (hword : isIdentifier word = true) :
    (∀ c ∈ word, isWordChar c = true) ∧ ∃ c rest, word = c :: rest ∧ isDigit c = false := by
  cases word with
  | nil => cases hword
  | cons c rest =>
    rw [isIdentifier, Bool.and_eq_true, List.all_eq_true] at hword
    obtain ⟨hchar, hdigit⟩ := isWordChar_of_isIdentifierStart hword.1
    exact ⟨List.forall_mem_cons.mpr
      ⟨hchar, fun d hd ↦ isWordChar_of_isIdentifierContinue (hword.2 d hd)⟩, c, rest, rfl, hdigit⟩

theorem isQuote_of_isWordChar {c : Char} (hc : isWordChar c = true) : isQuote c = false := by
  rw [Bool.eq_false_iff, ne_eq, isQuote_iff]
  rintro (rfl | rfl) <;> exact absurd hc (by decide)

theorem notMem_skippedMarks_of_isWordChar {c : Char} (hc : isWordChar c = true) :
    c ∉ skippedMarks := by
  intro hmem
  have hmarks : (skippedMarks.all fun d ↦ !isWordChar d) = true := by decide
  have hother := List.all_eq_true.mp hmarks c hmem
  rw [hc] at hother
  cases hother

/-- What ends a word: neither a character of words nor a quote. -/
def EndsWord (c : Char) : Prop :=
  isWordChar c = false ∧ isQuote c = false

instance (c : Char) : Decidable (EndsWord c) :=
  inferInstanceAs (Decidable (_ ∧ _))

theorem lexeme?_word {word : List Char} (hword : isIdentifier word = true) {c : Char}
    (hc : EndsWord c) (rest : List Char) :
    lexeme? (word ++ c :: rest) = some (wordToken word, c :: rest) := by
  have htoken := wordToken?_eq hword
  obtain ⟨hchars, first, others, rfl, hdigit⟩ := isWordChar_of_isIdentifier hword
  have hfirst := hchars first List.mem_cons_self
  have hnumber : beginsNumber (first :: (others ++ c :: rest)) = false := by
    have hpoint : first ≠ '.' := by
      rintro rfl
      cases hfirst
    simp [beginsNumber, hpoint, hdigit]
  have htake : (first :: others ++ c :: rest).takeWhile isWordChar = first :: others := by
    rw [List.takeWhile_append_of_pos hchars, List.takeWhile_cons_of_neg (by rw [hc.1]; decide),
      List.append_nil]
  have hdrop : (first :: others ++ c :: rest).dropWhile isWordChar = c :: rest := by
    rw [List.dropWhile_append_of_pos hchars, List.dropWhile_cons_of_neg (by rw [hc.1]; decide)]
  have hquote := hc.2
  rw [Bool.eq_false_iff, ne_eq, isQuote_iff, not_or] at hquote
  rw [List.cons_append] at htake hdrop ⊢
  simp [lexeme?, isQuote_of_isWordChar hfirst, hnumber, hfirst, word?, htake, hdrop, htoken, hquote]

theorem afterToken?_wordToken (expected : List String) (word : List Char) :
    afterToken? expected (wordToken word) = some expected := by
  unfold wordToken
  split_ifs <;> rfl

/-- An identifier leaves its token when something stands behind it that ends a word. -/
theorem tokens_word {word : List Char} (hword : isIdentifier word = true) {c : Char}
    (hc : EndsWord c) (rest : List Char) (levels : List Indentation) (expected : List String) :
    (Place.inside levels expected).tokens (word ++ c :: rest) =
      ((Place.inside levels expected).tokens (c :: rest)).map ([wordToken word] ++ ·) := by
  have hread := lexeme?_word hword hc rest
  obtain ⟨hchars, first, others, rfl, -⟩ := isWordChar_of_isIdentifier hword
  have hfirst := hchars first List.mem_cons_self
  exact tokens_token (notMem_skippedMarks_of_isWordChar hfirst) hread
    (afterToken?_wordToken expected _) levels

section WordStart

variable {word : List Char} (hword : isIdentifier word = true) {c : Char} (hc : EndsWord c)
  (rest : List Char) {levels after : List Indentation} {changes : List Token}
include hword hc

/-- An identifier at the start of a line. -/
theorem tokens_firstWord (hlevels : adjust ⟨0, 0⟩ levels = some (changes, after)) :
    (Place.line levels).tokens (word ++ c :: rest) =
      ((Place.inside after []).tokens (c :: rest)).map (changes ++ [wordToken word] ++ ·) := by
  have hinside := tokens_word hword hc rest after []
  obtain ⟨hchars, first, others, rfl, -⟩ := isWordChar_of_isIdentifier hword
  have hfirst := notMem_skippedMarks_of_isWordChar (hchars first List.mem_cons_self)
  rw [List.cons_append] at hinside ⊢
  rw [tokens_lineStart hfirst _ hlevels, hinside, Option.map_map]
  simp only [Function.comp_def, List.append_assoc]

/-- An identifier behind the indentation of a line. -/
theorem tokens_indentedWord (hlevels : adjust ⟨4, 4⟩ levels = some (changes, after)) :
    (Place.line levels).tokens ("    ".toList ++ (word ++ c :: rest)) =
      ((Place.inside after []).tokens (c :: rest)).map (changes ++ [wordToken word] ++ ·) := by
  have hinside := tokens_word hword hc rest after []
  obtain ⟨hchars, first, others, rfl, -⟩ := isWordChar_of_isIdentifier hword
  have hfirst := notMem_skippedMarks_of_isWordChar (hchars first List.mem_cons_self)
  rw [List.cons_append] at hinside ⊢
  rw [tokens_indented hfirst _ hlevels, hinside, Option.map_map]
  simp only [Function.comp_def, List.append_assoc]

end WordStart

/-! ### Numbers -/

theorem digitsEnd?_append {digits : List Char} (hdigits : ∀ c ∈ digits, isDigit c = true)
    (rest : List Char) :
    digitsEnd? isDigit false (digits ++ '\n' :: rest) = some ('\n' :: rest) := by
  induction digits with
  | nil => rfl
  | cons c digits ih =>
    rw [List.forall_mem_cons] at hdigits
    rw [List.cons_append, digitsEnd?, if_pos hdigits.1, ih hdigits.2]

theorem isWhole_toDigits (number : Nat) :
    isWhole (Nat.toDigits 10 number) = decide (number < 10 ^ maxDigits) := by
  have hdigits : (Nat.toDigits 10 number).filter isDigit = Nat.toDigits 10 number :=
    List.filter_eq_self.mpr (Json.allDigits_digitChars number)
  by_cases hzero : number = 0
  · subst hzero
    exact (decide_eq_true (Nat.pow_pos (by decide))).symm
  · have hhead : (Nat.toDigits 10 number).head? ≠ some '0' := Json.head?_digitChars_ne hzero
    rw [isWhole, if_neg (by simpa using hhead), hdigits]
    exact decide_eq_decide.mpr (Nat.length_toDigits_le_iff (by decide) (by decide))

theorem decimal?_toDigits (number : Nat) (rest : List Char) :
    decimal? (Nat.toDigits 10 number ++ '\n' :: rest) =
      if number < 10 ^ maxDigits then some (false, '\n' :: rest) else none := by
  have hdigits : ∀ c ∈ Nat.toDigits 10 number, isDigit c = true := Json.allDigits_digitChars number
  have htake : (Nat.toDigits 10 number ++ '\n' :: rest).takeWhile (fun c ↦ isDigit c || c == '_') =
      Nat.toDigits 10 number := by
    rw [List.takeWhile_append_of_pos fun c hc ↦ by rw [hdigits c hc]; rfl]
    exact List.append_nil _
  have hafter : afterDigits? isDigit (Nat.toDigits 10 number ++ '\n' :: rest) =
      some ('\n' :: rest) := by
    obtain ⟨c, others, hcons⟩ := List.exists_cons_of_ne_nil (@Nat.toDigits_ne_nil number 10)
    rw [hcons, List.forall_mem_cons] at hdigits
    rw [hcons, List.cons_append, afterDigits?, digitsEnd?, if_pos hdigits.1,
      digitsEnd?_append hdigits.2]
  have hwhole : afterWhole? (Nat.toDigits 10 number) ('\n' :: rest) =
      if isWhole (Nat.toDigits 10 number) = true then some (false, '\n' :: rest) else none := rfl
  rw [decimal?, htake, hafter, Option.bind_some, hwhole, isWhole_toDigits]
  simp only [decide_eq_true_eq]

/-- A number in decimal digits is a token at the end of a line unless it has too many digits. -/
theorem lexeme?_toDigits (number : Nat) (rest : List Char) :
    lexeme? (Nat.toDigits 10 number ++ '\n' :: rest) =
      if number < 10 ^ maxDigits then some (.number false, '\n' :: rest) else none := by
  have hdecimal := decimal?_toDigits number rest
  have hdigits : ∀ c ∈ Nat.toDigits 10 number, isDigit c = true := Json.allDigits_digitChars number
  have hhead : number ≠ 0 → (Nat.toDigits 10 number).head? ≠ some '0' := Json.head?_digitChars_ne
  have hzero : number = 0 → numeral? (Nat.toDigits 10 number ++ '\n' :: rest) =
      decimal? (Nat.toDigits 10 number ++ '\n' :: rest) := by
    rintro rfl
    rfl
  obtain ⟨c, others, hcons⟩ := List.exists_cons_of_ne_nil (@Nat.toDigits_ne_nil number 10)
  rw [hcons] at hdecimal hdigits hhead hzero ⊢
  rw [List.cons_append] at hdecimal hzero ⊢
  have hdigit := hdigits c List.mem_cons_self
  have hpoint : c ≠ '.' := by
    rintro rfl
    cases hdigit
  have hnumeral : numeral? (c :: (others ++ '\n' :: rest)) =
      decimal? (c :: (others ++ '\n' :: rest)) := by
    by_cases hvalue : number = 0
    · exact hzero hvalue
    · have hc : c ≠ '0' := fun heq ↦ hhead hvalue (congrArg some heq)
      rw [numeral?]
      · exact fun _ _ heq ↦ hc (List.cons.inj heq).1
      · exact fun _ heq ↦ hpoint (List.cons.inj heq).1
  have hquote : isQuote c = false := isQuote_of_isWordChar (by simp [isWordChar, hdigit])
  have hbegins : beginsNumber (c :: (others ++ '\n' :: rest)) = true := by
    simp [beginsNumber, hpoint, hdigit]
  have hends : endsNumber ('\n' :: rest) = true := rfl
  rw [lexeme?, if_neg (by rw [hquote]; decide), if_pos hbegins, number?, hnumeral, hdecimal]
  split_ifs
  · simp [hends]
  · rfl

/-- A number in decimal digits leaves its token at the end of a line, unless it has too many. -/
theorem tokens_toDigits (number : Nat) (rest : List Char) (levels : List Indentation)
    (expected : List String) :
    (Place.inside levels expected).tokens (Nat.toDigits 10 number ++ '\n' :: rest) =
      if number < 10 ^ maxDigits then
        ((Place.inside levels expected).tokens ('\n' :: rest)).map ([.number false] ++ ·)
      else none := by
  have hread := lexeme?_toDigits number rest
  have hdigits : ∀ c ∈ Nat.toDigits 10 number, isDigit c = true := Json.allDigits_digitChars number
  obtain ⟨c, others, hcons⟩ := List.exists_cons_of_ne_nil (@Nat.toDigits_ne_nil number 10)
  rw [hcons] at hread hdigits ⊢
  rw [List.cons_append] at hread ⊢
  have hdigit := hdigits c List.mem_cons_self
  have hc : c ∉ skippedMarks := notMem_skippedMarks_of_isWordChar (by simp [isWordChar, hdigit])
  split_ifs at hread ⊢
  · exact tokens_token hc hread rfl levels
  · rw [Place.tokens_eq, Place.step, insideStep_eq_tokenStep hc, tokenStep, hread]

/-! ### Literals -/

section Inside

variable {quote : Char} (hquote : quote = '\'' ∨ quote = '"')

theorem untilQuote_append_plain {front : List Char}
    (hfront : ∀ c ∈ front, c ≠ quote ∧ c ≠ '\\' ∧ c ≠ '\n') (rest : List Char) :
    untilQuote quote (front ++ rest) =
      (untilQuote quote rest).map fun (inside, after) ↦ (front ++ inside, after) := by
  induction front with
  | nil => simp
  | cons c front ih =>
    rw [List.forall_mem_cons] at hfront
    obtain ⟨⟨hself, hslash, hfeed⟩, hfront⟩ := hfront
    rw [List.cons_append, untilQuote, if_neg hself, if_neg hfeed, ih hfront, Option.map_map]
    · rfl
    · exact fun _ _ heq _ ↦ hslash heq

include hquote

theorem exists_quoteChar_eq_cons (c : Char) :
    ∃ d rest, quoteChar quote c = d :: rest ∧ quote ≠ d := by
  have hslash : quote ≠ '\\' := by
    rcases hquote with rfl | rfl <;> decide
  rcases quoteChar_cases hquote c with ⟨mark, -, heq⟩ | ⟨heq, hself, -⟩ | ⟨mark, width, heq, -⟩
  · exact ⟨_, _, heq, hslash⟩
  · exact ⟨_, _, heq, hself.symm⟩
  · exact ⟨_, _, heq, hslash⟩

theorem untilQuote_quoteChar (c : Char) (rest : List Char) :
    untilQuote quote (quoteChar quote c ++ rest) =
      (untilQuote quote rest).map fun (inside, after) ↦ (quoteChar quote c ++ inside, after) := by
  rcases quoteChar_cases hquote c with ⟨mark, hmark, heq⟩ | ⟨heq, hself, hslash, hprintable⟩ |
    ⟨mark, width, heq, hmark, hwidth⟩
  · rw [heq]
    rfl
  · have hfeed : c ≠ '\n' := by
      rintro rfl
      cases hprintable
    rw [heq]
    exact untilQuote_append_plain (List.forall_mem_singleton.mpr ⟨hself, hslash, hfeed⟩) rest
  · have hplain : ∀ d ∈ hexDigits width c.toNat, d ≠ quote ∧ d ≠ '\\' ∧ d ≠ '\n' := by
      intro d hd
      have hne := ne_of_mem_hexDigits hd
      rcases hquote with rfl | rfl <;> grind
    rw [heq, List.cons_append, List.cons_append, untilQuote, untilQuote_append_plain hplain,
      Option.map_map]
    rfl

/-- The text of a literal ends at its closing quote. -/
theorem untilQuote_quoted (text rest : List Char) :
    untilQuote quote (text.flatMap (quoteChar quote) ++ quote :: rest) =
      some (text.flatMap (quoteChar quote), rest) := by
  induction text with
  | nil => rcases hquote with rfl | rfl <;> rfl
  | cons c text ih =>
    rw [List.flatMap_cons, List.append_assoc, untilQuote_quoteChar hquote, ih, Option.map_some]

omit hquote in
theorem escapesComplete_append_plain {front : List Char} (hfront : ∀ c ∈ front, c ≠ '\\')
    (rest : List Char) : escapesComplete false (front ++ rest) = escapesComplete false rest := by
  induction front with
  | nil => rfl
  | cons c front ih =>
    rw [List.forall_mem_cons] at hfront
    rw [List.cons_append, escapesComplete, ih hfront.2]
    all_goals grind

omit hquote in
theorem escapesComplete_hexDigits {mark : Char} {width : Nat}
    (hmark : mark = 'x' ∧ width = 2 ∨ mark = 'u' ∧ width = 4 ∨ mark = 'U' ∧ width = 8) {c : Char}
    (hc : c.toNat < 16 ^ width) (rest : List Char) :
    escapesComplete false ('\\' :: mark :: (hexDigits width c.toNat ++ rest)) =
      escapesComplete false rest := by
  have hplain : ∀ d ∈ hexDigits width c.toNat, d ≠ '\\' := by
    intro d hd
    have hne := ne_of_mem_hexDigits hd
    grind
  have htake : (hexDigits width c.toNat ++ rest).take width = hexDigits width c.toNat := by
    rw [List.take_left' (length_hexDigits _ _)]
  have hrest := escapesComplete_append_plain hplain rest
  have hread := readHex_hexDigits hc
  have hlength := length_hexDigits width c.toNat
  rcases hmark with ⟨rfl, rfl⟩ | ⟨rfl, rfl⟩ | ⟨rfl, rfl⟩
  · rw [escapesComplete, htake, hrest, hread, hlength]
    rfl
  · rw [escapesComplete, htake, hrest, hread, hlength]
    rfl
  · have hbound : c.toNat ≤ 0x10ffff := Nat.le_of_lt_succ (toNat_lt c)
    rw [escapesComplete, htake, hrest, hread, hlength]
    simp [hbound]

theorem escapesComplete_quoteChar (c : Char) (rest : List Char) :
    escapesComplete false (quoteChar quote c ++ rest) = escapesComplete false rest := by
  rcases quoteChar_cases hquote c with ⟨mark, hmark, heq⟩ | ⟨heq, -, hslash, -⟩ |
    ⟨mark, width, heq, hmark, hwidth⟩
  · rw [heq]
    simp only [shortEscapes, List.mem_cons, Prod.mk.injEq, List.not_mem_nil, or_false] at hmark
    rcases hmark with ⟨rfl, -⟩ | ⟨rfl, -⟩ | ⟨rfl, -⟩ | ⟨rfl, -⟩ | ⟨rfl, -⟩ | ⟨rfl, -⟩ <;> rfl
  · rw [heq]
    exact escapesComplete_append_plain (List.forall_mem_singleton.mpr hslash) rest
  · rw [heq]
    exact escapesComplete_hexDigits hmark hwidth rest

/-- The escapes in a literal are complete. -/
theorem escapesComplete_quoted (text : List Char) :
    escapesComplete false (text.flatMap (quoteChar quote)) = true := by
  induction text with
  | nil => rfl
  | cons c text ih => rw [List.flatMap_cons, escapesComplete_quoteChar hquote, ih]

end Inside

/-- A literal leaves the token of a string without fields when no quote follows it. -/
theorem lexeme?_quoted (text : List Char) {c : Char} (hc : isQuote c = false) (rest : List Char) :
    lexeme? (quoted text ++ c :: rest) = some (.string false [], c :: rest) := by
  have hquote := quoteFor_eq text
  unfold quoted
  dsimp only
  generalize quoteFor text = quote at hquote
  have hisQuote : isQuote quote = true := isQuote_iff.mpr hquote
  have hclosing : c ≠ quote := by
    rintro rfl
    rw [hisQuote] at hc
    cases hc
  have hshort : ¬ [quote, quote] <+: text.flatMap (quoteChar quote) ++ quote :: c :: rest := by
    cases text with
    | nil =>
      intro hfront
      exact hclosing (List.cons_prefix_cons.mp (List.cons_prefix_cons.mp hfront).2).1.symm
    | cons d text =>
      obtain ⟨e, others, heq, hne⟩ := exists_quoteChar_eq_cons hquote d
      rw [List.flatMap_cons, heq, List.append_assoc, List.cons_append]
      exact fun hfront ↦ hne (List.cons_prefix_cons.mp hfront).1
  have hread : stringText? quote (text.flatMap (quoteChar quote) ++ quote :: c :: rest) =
      some (text.flatMap (quoteChar quote), c :: rest) := by
    rw [stringText?_eq_untilQuote hshort, untilQuote_quoted hquote]
  have htoken : stringToken? "" (text.flatMap (quoteChar quote)) = some (.string false []) := by
    simp [stringToken?, escapesComplete_quoted hquote text]
  rw [List.cons_append, List.append_assoc, List.singleton_append, lexeme?, if_pos hisQuote, string?,
    hread, Option.bind_some]
  simp only [htoken, Option.map_some]

/-- A literal leaves its token, the same for all texts. -/
theorem tokens_quoted (text : List Char) {c : Char} (hc : isQuote c = false) (rest : List Char)
    (levels : List Indentation) (expected : List String) :
    (Place.inside levels expected).tokens (quoted text ++ c :: rest) =
      ((Place.inside levels expected).tokens (c :: rest)).map ([.string false []] ++ ·) := by
  have hread := lexeme?_quoted text hc rest
  have hfirst : quoteFor text ∉ skippedMarks := by
    rcases quoteFor_eq text with heq | heq <;> rw [heq] <;> decide
  exact tokens_token hfirst hread rfl levels

/-! ### Points -/

/-- A point between two words is a token of its own. -/
theorem tokens_point {c : Char} (hc : isWordChar c = true) (hdigit : isDigit c = false)
    (rest : List Char) (levels : List Indentation) (expected : List String) :
    (Place.inside levels expected).tokens ('.' :: c :: rest) =
      ((Place.inside levels expected).tokens (c :: rest)).map ([.op "."] ++ ·) := by
  have hpoint : c ≠ '.' := by
    rintro rfl
    cases hc
  have hlong : longOperators.find? (fun op ↦ op.toList.isPrefixOf ('.' :: c :: rest)) = none := by
    have hmarks : ∀ op ∈ longOperators,
        op.toList[0]? = some '.' ∧ op.toList[1]? = some '.' ∨
          op.toList[0]?.isSome = true ∧ op.toList[0]? ≠ some '.' := by
      decide
    rw [List.find?_eq_none]
    intro op hop hfront
    obtain ⟨behind, heq⟩ := List.isPrefixOf_iff_prefix.mp hfront
    have hmark := hmarks op hop
    generalize op.toList = marks at heq hmark
    match marks with
    | [] => simp at hmark
    | [d] => simp_all
    | d :: e :: marks =>
      simp only [List.cons_append, List.cons.injEq] at heq
      simp_all
  have hread : lexeme? ('.' :: c :: rest) = some (.op ".", c :: rest) := by
    have hoperator : operator? ('.' :: c :: rest) = some (".", c :: rest) := by
      rw [operator?, hlong]
      rfl
    have hmark : isQuote '.' = false ∧ isWordChar '.' = false := by decide
    simp [lexeme?, beginsNumber, hdigit, hoperator, hmark]
  exact tokens_token (by decide) hread rfl levels

end SchemaBindings.Source
